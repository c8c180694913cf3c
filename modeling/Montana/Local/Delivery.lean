import Montana.Local.HexGrammar

/-! What the calls of `pending_blocks` deliver of the blocks of the source. -/

namespace Montana.Local

open Buffer (L2BlockData)
open Collecting (collect collect_ok_iff)

namespace LocalBatchSource

/-- The source after this many calls. -/
def after (data : JsonSourceData) : Nat → LocalBatchSource
  | 0 => fromData data
  | calls + 1 => (after data calls).pendingBlocks.2

/-- What the call after this many others returns. -/
def answer (data : JsonSourceData) (calls : Nat) : Option (Except SourceError (List L2BlockData)) :=
  (after data calls).pendingBlocks.1

/-- One block for each, with the bytes that its transactions denote. -/
def Decoded (blocks : List JsonBlock) (decoded : List L2BlockData) : Prop :=
  List.Forall₂ (fun block out => out.blockNumber = block.blockNumber ∧ out.timestamp = block.timestamp ∧
    List.Forall₂ (fun tx bytes => Denotes tx.data bytes) block.transactions out.transactions) blocks decoded

/-- So many calls deliver all blocks once, and none of them loses any. -/
structure DeliversOnce (data : JsonSourceData) (calls : Nat) : Prop where
  noPanic : ∀ k < calls, answer data k ≠ none
  delivered : ∀ k < calls, ∀ blocks, answer data k = some (.ok blocks) → blocks ≠ [] →
    (∀ earlier < k, ∀ before, answer data earlier = some (.ok before) → before = []) →
    Decoded data.blocks blocks ∧ ∀ later < calls, k < later → answer data later = some (.ok [])
  kept : ∀ k ≤ calls, (∀ earlier < k, ∀ before, answer data earlier ≠ some (.ok before)) →
    after data k = fromData data
  nothingLeft : ∀ k < calls, answer data k = some (.ok []) →
    data.blocks = [] ∨ ∃ earlier < k, ∃ before, answer data earlier = some (.ok before) ∧ before ≠ []

private theorem answer_zero (data : JsonSourceData) : answer data 0 = collect decodeBlock data.blocks := rfl

/-- The first call consumes the blocks, whatever it returns. -/
theorem after_succ (data : JsonSourceData) (calls : Nat) : after data (calls + 1) = ⟨data, true⟩ := by
  induction calls with
  | zero => rfl
  | succ calls ih =>
    rw [after, ih]
    rfl

private theorem answer_succ (data : JsonSourceData) (calls : Nat) :
    answer data (calls + 1) = some (.ok []) := by
  rw [answer, after_succ]
  rfl

/-- The block that comes out where all transactions are hex. -/
def denoted (block : JsonBlock) : L2BlockData where
  blockNumber := block.blockNumber
  timestamp := block.timestamp
  transactions := block.transactions.map fun tx => Hex.bytes (stripped tx.data.toList)

private theorem decodeBlock_hex {block : JsonBlock} (hex : ∀ tx ∈ block.transactions, IsHex tx.data) :
    decodeBlock block = some (.ok (denoted block)) := by
  have transactions : collect (fun tx => hexToBytes tx.data) block.transactions =
      some (.ok (denoted block).transactions) := by
    rw [collect_ok_iff, denoted, List.forall₂_map_right_iff, List.forall₂_same]
    intro tx member
    exact hexToBytes_denotes ⟨hex tx member, rfl⟩
  rw [decodeBlock, transactions]
  rfl

private theorem answer_hex {data : JsonSourceData}
    (hex : ∀ block ∈ data.blocks, ∀ tx ∈ block.transactions, IsHex tx.data) :
    answer data 0 = some (.ok (data.blocks.map denoted)) := by
  rw [answer_zero, collect_ok_iff, List.forall₂_map_right_iff, List.forall₂_same]
  intro block member
  exact decodeBlock_hex (hex block member)

private theorem decoded_denoted {blocks : List JsonBlock}
    (hex : ∀ block ∈ blocks, ∀ tx ∈ block.transactions, IsHex tx.data) :
    Decoded blocks (blocks.map denoted) := by
  rw [Decoded, List.forall₂_map_right_iff, List.forall₂_same]
  intro block member
  refine ⟨rfl, rfl, ?_⟩
  rw [denoted, List.forall₂_map_right_iff, List.forall₂_same]
  intro tx present
  exact ⟨hex block member tx present, rfl⟩

theorem Decoded.hex {blocks : List JsonBlock} {decoded : List L2BlockData} (all : Decoded blocks decoded) :
    ∀ block ∈ blocks, ∀ tx ∈ block.transactions, IsHex tx.data := by
  have each : List.Forall₂ (fun block _ => (∀ tx ∈ block.transactions, IsHex tx.data) ∧ True) blocks decoded := by
    apply List.Forall₂.imp _ all
    intro block out same
    exact ⟨((List.forall₂_and_left _ _).mp same.2.2).1, trivial⟩
  exact ((List.forall₂_and_left _ _).mp each).1

/-- The blocks are delivered once exactly where all their transactions are hex, as the first
call consumes them before it decodes any. -/
theorem deliversOnce_iff (data : JsonSourceData) (calls : Nat) : DeliversOnce data calls ↔
    calls = 0 ∨ ∀ block ∈ data.blocks, ∀ tx ∈ block.transactions, IsHex tx.data := by
  constructor
  · intro delivers
    by_cases none : calls = 0
    · exact .inl none
    · right
      have some : 0 < calls := Nat.pos_of_ne_zero none
      rcases first : answer data 0 with _ | e | blocks
      · exact absurd first (delivers.noPanic 0 some)
      · have kept : after data 1 = fromData data := by
          apply delivers.kept 1 some
          intro earlier before blocks same
          rw [Nat.lt_one_iff.mp before, first] at same
          cases same
        rw [after_succ] at kept
        cases kept
      · by_cases nothing : blocks = []
        · rw [nothing, answer_zero, collect_ok_iff, List.forall₂_nil_right_iff] at first
          rw [first]
          exact fun _ member => absurd member List.not_mem_nil
        · exact (delivers.delivered 0 some blocks first nothing (by simp)).1.hex
  · intro either
    rcases either with rfl | hex
    · refine ⟨by simp, by simp, ?_, by simp⟩
      intro k few _
      rw [Nat.le_zero.mp few]
      rfl
    · have first := answer_hex hex
      refine ⟨?_, ?_, ?_, ?_⟩
      · intro k _
        cases k with
        | zero => simp [first]
        | succ k => simp [answer_succ]
      · intro k _ blocks same filled _
        cases k with
        | zero =>
          rw [first] at same
          cases same
          refine ⟨decoded_denoted hex, ?_⟩
          intro later _ next
          rw [← Nat.sub_add_cancel next]
          exact answer_succ data _
        | succ k =>
          rw [answer_succ] at same
          cases same
          exact absurd rfl filled
      · intro k _ failed
        cases k with
        | zero => rfl
        | succ k => exact absurd first (failed 0 k.succ_pos _)
      · intro k _ same
        by_cases nothing : data.blocks = []
        · exact .inl nothing
        · right
          have filled : data.blocks.map denoted ≠ [] := by simpa using nothing
          cases k with
          | zero =>
            rw [first] at same
            exact absurd (Except.ok.inj (Option.some.inj same)) filled
          | succ k => exact ⟨0, k.succ_pos, _, first, filled⟩

/-- A block whose transaction is no hex. -/
def malformed : JsonSourceData := ⟨[⟨1, 1000, [⟨"zz"⟩]⟩]⟩

/-- The call fails, and the next one says there are no blocks. -/
theorem failed_blocks_consumed :
    answer malformed 0 = some (.error (.connection "Invalid hex string")) ∧
      answer malformed 1 = some (.ok []) ∧ ¬ DeliversOnce malformed 2 := by
  have failed : answer malformed 0 = some (.error (.connection "Invalid hex string")) := by decide +kernel
  have nothing : answer malformed 1 = some (.ok []) := rfl
  refine ⟨failed, nothing, ?_⟩
  intro delivers
  rcases delivers.nothingLeft 1 (by decide) nothing with empty | ⟨earlier, before, blocks, same, _⟩
  · cases empty
  · rw [Nat.lt_one_iff.mp before, failed] at same
    cases same

end LocalBatchSource

end Montana.Local
