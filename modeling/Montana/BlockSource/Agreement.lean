import Mathlib.Data.List.Range
import Montana.BlockSource.Feeds
import Montana.Common.Reference

/-! What the two feeds have sent after the same chain tips. -/

namespace Montana.BlockSource

open Polling (Turn Outcome fetch poll)

/-- The provider has every block up to each tip, and the consumer takes all of them. -/
structure Serves (endpoint : Endpoint Block) (block : Nat → Block) (tips : List Nat) : Prop where
  blocks : ∀ tip ∈ tips, ∀ number ≤ tip, endpoint.getBlockByNumber number = .ok (some (block number))
  taken : ∀ sent, endpoint.takes sent = true

theorem Serves.head {endpoint : Endpoint Block} {block : Nat → Block} {tip : Nat} {tips : List Nat}
    (serves : Serves endpoint block (tip :: tips)) :
    ∀ number ≤ tip, endpoint.getBlockByNumber number = .ok (some (block number)) :=
  serves.blocks tip (List.mem_cons_self ..)

theorem Serves.tail {endpoint : Endpoint Block} {block : Nat → Block} {tip : Nat} {tips : List Nat}
    (serves : Serves endpoint block (tip :: tips)) : Serves endpoint block tips :=
  ⟨fun other member => serves.blocks other (List.mem_cons_of_mem _ member), serves.taken⟩

/-- The highest of the tips, if it is above this number. -/
def highest (number : Nat) (tips : List Nat) : Nat := tips.foldl max number

private theorem highest_ge (number : Nat) (tips : List Nat) : number ≤ highest number tips := by
  induction tips generalizing number with
  | nil => exact Nat.le_refl _
  | cons tip rest ih => exact Nat.le_trans (Nat.le_max_left number tip) (ih _)

/-- `start, start + 1, ..., max(tips)`. -/
def blocksUpTo (startBlock : Nat) (tips : List Nat) : List Nat :=
  match tips with
  | [] => []
  | tip :: rest => List.range' startBlock (highest tip rest + 1 - startBlock)

/-- Two stretches of blocks, one after the other. -/
theorem range_append {first middle last : Nat} (lower : first ≤ middle) (upper : middle ≤ last) :
    List.range' first (middle - first) ++ List.range' middle (last - middle) =
      List.range' first (last - first) := by
  obtain ⟨left, rfl⟩ := Nat.exists_eq_add_of_le lower
  obtain ⟨right, rfl⟩ := Nat.exists_eq_add_of_le upper
  have whole : first + left + right - first = left + right := by omega
  rw [Nat.add_sub_cancel_left, Nat.add_sub_cancel_left, whole, List.range'_append_1]

namespace RpcBlockProducer

variable {endpoint : Endpoint Block} {block : Nat → Block}

private theorem fetch_latest (taken : ∀ sent, endpoint.takes sent = true) {latest : Nat}
    (blocks : ∀ number ≤ latest, endpoint.getBlockByNumber number = .ok (some (block number)))
    (fuel : Nat) (self : State Block) (enough : latest - self.lastBlock < fuel) :
    fetch (fetchNext endpoint latest) fuel self = .waiting {
      lastBlock := max self.lastBlock latest
      sent := self.sent ++ (List.range' (self.lastBlock + 1)
        (max self.lastBlock latest + 1 - (self.lastBlock + 1))).map block } := by
  induction fuel generalizing self with
  | zero => omega
  | succ fuel ih =>
    by_cases behind : self.lastBlock < latest
    · have next : fetchNext endpoint latest self =
          .again { lastBlock := self.lastBlock + 1, sent := self.sent ++ [block (self.lastBlock + 1)] } := by
        simp only [fetchNext, behind, if_true, blocks (self.lastBlock + 1) behind, taken]
      rw [fetch, next]
      refine (ih _ (by dsimp only; omega)).trans ?_
      have reached : max (self.lastBlock + 1) latest = max self.lastBlock latest := by omega
      have count : max self.lastBlock latest + 1 - (self.lastBlock + 1) =
          max self.lastBlock latest + 1 - (self.lastBlock + 1 + 1) + 1 := by omega
      simp only [reached]
      rw [count, List.range'_succ, List.map_cons, List.append_assoc]
      rfl
    · have next : fetchNext endpoint latest self = .caughtUp := by simp only [fetchNext, behind, if_false]
      have reached : max self.lastBlock latest = self.lastBlock := by omega
      rw [fetch, next, reached]
      simp

/-- The producer goes on from its last block to the highest tip. -/
theorem produce_sent {tips : List Nat} (serves : Serves endpoint block tips) (self : State Block) :
    ∃ fuel, poll (fetchNext endpoint) fuel (tips.map .ok) self = .waiting {
      lastBlock := highest self.lastBlock tips
      sent := self.sent ++ (List.range' (self.lastBlock + 1)
        (highest self.lastBlock tips + 1 - (self.lastBlock + 1))).map block } := by
  induction tips generalizing self with
  | nil => exact ⟨0, by simp [poll, highest]⟩
  | cons tip rest ih =>
    have fetched := fetch_latest serves.taken serves.head (tip + 1) self (by omega)
    obtain ⟨fuel, rested⟩ := ih serves.tail {
      lastBlock := max self.lastBlock tip
      sent := self.sent ++ (List.range' (self.lastBlock + 1)
        (max self.lastBlock tip + 1 - (self.lastBlock + 1))).map block }
    refine ⟨max (tip + 1) fuel, ?_⟩
    rw [List.map_cons, poll, Polling.fetch_mono fetched (Nat.le_max_left ..)]
    refine (Polling.poll_mono rested (Nat.le_max_right ..)).trans ?_
    dsimp only
    have above := highest_ge (max self.lastBlock tip) rest
    rw [List.append_assoc, ← List.map_append, range_append (by omega) (by omega)]
    rfl

end RpcBlockProducer

namespace BlockFeeder

variable [BlockResponse Block Tx] [BlockJson Block] {endpoint : Endpoint Block} {block : Nat → Block}

/-- Where the feeder stands; its counters and events are of no account. -/
structure At (current : Nat) (sent : List Block) (self : State Block) : Prop where
  current : self.current = current
  sent : self.sent = sent

private theorem fetch_chainTip (taken : ∀ sent, endpoint.takes sent = true) {chainTip : Nat}
    (blocks : ∀ number ≤ chainTip, endpoint.getBlockByNumber number = .ok (some (block number)))
    (noOverflow : chainTip < u64Max) (fuel : Nat) (self : State Block)
    (enough : chainTip + 1 - self.current < fuel) :
    ∃ next, fetch (fetchNext endpoint chainTip) fuel self = .waiting next ∧
      At (max self.current (chainTip + 1)) (self.sent ++ (List.range' self.current
        (max self.current (chainTip + 1) - self.current)).map block) next := by
  induction fuel generalizing self with
  | zero => omega
  | succ fuel ih =>
    by_cases behind : self.current ≤ chainTip
    · obtain ⟨next, turn, current, sent⟩ : ∃ next, fetchNext endpoint chainTip self = .again next ∧
          next.current = self.current + 1 ∧ next.sent = self.sent ++ [block self.current] := by
        have small : (self.current + 1) % 2 ^ 64 = self.current + 1 := by
          rw [u64Max] at noOverflow
          omega
        simp only [fetchNext, behind, if_true, blocks self.current behind, taken, small]
        exact ⟨_, rfl, rfl, rfl⟩
      obtain ⟨final, fetched, there⟩ := ih next (by omega)
      refine ⟨final, ?_, ?_⟩
      · rw [fetch, turn]
        exact fetched
      · have reached : max (self.current + 1) (chainTip + 1) = max self.current (chainTip + 1) := by omega
        have count : max self.current (chainTip + 1) - self.current =
            max self.current (chainTip + 1) - (self.current + 1) + 1 := by omega
        rw [current, sent, reached, List.append_assoc] at there
        rw [count, List.range'_succ, List.map_cons]
        exact there
    · have turn : fetchNext endpoint chainTip self = .caughtUp := by simp only [fetchNext, behind, if_false]
      have reached : max self.current (chainTip + 1) = self.current := by omega
      refine ⟨self, ?_, ?_, ?_⟩
      · rw [fetch, turn]
      · exact reached.symm
      · simp [reached]

/-- The feeder goes on from its current block to the highest tip. -/
theorem feeder_sent {tips : List Nat} (serves : Serves endpoint block tips)
    (noOverflow : ∀ tip ∈ tips, tip < u64Max) (self : State Block) :
    ∃ fuel next, poll (fetchNext endpoint) fuel (tips.map .ok) self = .waiting next ∧
      At (highest self.current (tips.map (· + 1))) (self.sent ++ (List.range' self.current
        (highest self.current (tips.map (· + 1)) - self.current)).map block) next := by
  induction tips generalizing self with
  | nil => exact ⟨0, self, rfl, rfl, by simp [highest]⟩
  | cons tip rest ih =>
    obtain ⟨next, fetched, current, sent⟩ := fetch_chainTip serves.taken serves.head
      (noOverflow tip (List.mem_cons_self ..)) (tip + 2) self (by omega)
    obtain ⟨fuel, final, rested, there⟩ := ih serves.tail
      (fun other member => noOverflow other (List.mem_cons_of_mem _ member)) next
    refine ⟨max (tip + 2) fuel, final, ?_, ?_⟩
    · rw [List.map_cons, poll, Polling.fetch_mono fetched (Nat.le_max_left ..)]
      exact Polling.poll_mono rested (Nat.le_max_right ..)
    · have above := highest_ge (max self.current (tip + 1)) (rest.map (· + 1))
      rw [current, sent, List.append_assoc, ← List.map_append, range_append (by omega) (by omega)] at there
      exact there

/-- A pass that goes on increments the counter. -/
theorem fetchNext_again {chainTip : Nat} {self next : State Block}
    (again : fetchNext endpoint chainTip self = .again next) : next.current ≤ u64Max := by
  rw [fetchNext] at again
  split at again
  · split at again
    · cases again
    · cases again
    · dsimp only at again
      split at again
      · cases again
        have small := Nat.mod_lt (self.current + 1) (show 0 < 2 ^ 64 by decide)
        rw [u64Max]
        dsimp only
        omega
      · cases again
  · cases again

private theorem fetch_current {chainTip fuel : Nat} {self final : State Block}
    (fits : self.current ≤ u64Max)
    (waits : fetch (fetchNext endpoint chainTip) fuel self = .waiting final) :
    final.current ≤ u64Max ∧ chainTip < final.current := by
  induction fuel generalizing self with
  | zero => cases waits
  | succ fuel ih =>
    rw [fetch] at waits
    split at waits
    · rename_i caughtUp
      cases waits
      refine ⟨fits, ?_⟩
      by_contra behind
      simp only [fetchNext, Nat.le_of_not_lt behind, if_true] at caughtUp
      split at caughtUp
      · cases caughtUp
      · cases caughtUp
      · split at caughtUp
        · cases caughtUp
        · cases caughtUp
    · rename_i next again
      exact ih (fetchNext_again again) waits
    · cases waits

/-- At the highest number the counter wraps, and the loop up to the tip has no end. -/
theorem noOverflow_of_waiting {tips : List Nat} (small : ∀ tip ∈ tips, tip ≤ u64Max) {fuel : Nat}
    {self final : State Block} (fits : self.current ≤ u64Max)
    (waits : poll (fetchNext endpoint) fuel (tips.map .ok) self = .waiting final) :
    ∀ tip ∈ tips, tip < u64Max := by
  induction tips generalizing self with
  | nil => simp
  | cons tip rest ih =>
    obtain ⟨next, fetched, rested⟩ := Polling.poll_cons waits
    obtain ⟨nextFits, passed⟩ := fetch_current fits fetched
    intro other member
    rcases List.mem_cons.mp member with rfl | later
    · omega
    · exact ih (fun tip member => small tip (List.mem_cons_of_mem _ member)) nextFits rested other later

end BlockFeeder

private theorem highest_succ (number : Nat) (tips : List Nat) :
    highest (number + 1) (tips.map (· + 1)) = highest number tips + 1 := by
  induction tips generalizing number with
  | nil => rfl
  | cons tip rest ih =>
    have both : max (number + 1) (tip + 1) = max number tip + 1 := by omega
    have rest := ih (max number tip)
    rw [← both] at rest
    exact rest

private theorem highest_eq_max (number tip : Nat) (tips : List Nat) :
    highest number (tip :: tips) = max number (highest tip tips) := by
  induction tips generalizing number tip with
  | nil => rfl
  | cons next rest ih =>
    have left := ih (max number tip) next
    have right := ih tip next
    simp only [highest, List.foldl_cons] at left right ⊢
    rw [left, right, Nat.max_assoc]

variable [BlockResponse Block Tx] [BlockJson Block]

/-- Both loops process all tips and have then sent the blocks from the start to the highest tip. -/
def Agree (endpoint : Endpoint Block) (block : Nat → Block) (startBlock : Nat) (tips : List Nat)
    (withTui : Bool) : Prop :=
  ∃ fuel produced fed,
    RpcBlockProducer.produce endpoint startBlock fuel (tips.map .ok) = .waiting produced ∧
    BlockFeeder.runBlockFeeder endpoint startBlock fuel (tips.map .ok) withTui = .waiting fed ∧
    produced.sent = fed.sent ∧ fed.sent = (blocksUpTo startBlock tips).map block

private theorem agree_of_positive {endpoint : Endpoint Block} {block : Nat → Block} {startBlock : Nat}
    {tips : List Nat}
    (serves : Serves endpoint block tips) (withTui : Bool) (positive : startBlock ≠ 0)
    (noOverflow : ∀ tip ∈ tips, tip < u64Max) : Agree endpoint block startBlock tips withTui := by
  obtain ⟨fuel, produced⟩ := RpcBlockProducer.produce_sent serves (RpcBlockProducer.start startBlock)
  obtain ⟨fuel', fed, feeds, current, sent⟩ :=
    BlockFeeder.feeder_sent serves noOverflow (BlockFeeder.start startBlock withTui)
  refine ⟨max fuel fuel', _, fed, Polling.poll_mono produced (Nat.le_max_left ..),
    Polling.poll_mono feeds (Nat.le_max_right ..), ?_, ?_⟩
  · rw [sent]
    simp only [RpcBlockProducer.start, BlockFeeder.start]
    have next : startBlock - 1 + 1 = startBlock := by omega
    have same := highest_succ (startBlock - 1) tips
    rw [next] at same
    rw [next, same]
  · rw [sent]
    simp only [BlockFeeder.start, List.nil_append]
    cases tips with
    | nil => simp [blocksUpTo, highest]
    | cons tip rest =>
      have same := highest_succ (startBlock - 1) (tip :: rest)
      have whole := highest_eq_max (startBlock - 1) tip rest
      rw [show startBlock - 1 + 1 = startBlock by omega] at same
      rw [same, whole, blocksUpTo]
      have count : max (startBlock - 1) (highest tip rest) + 1 - startBlock =
          highest tip rest + 1 - startBlock := by omega
      rw [count]

/-- The feeds agree exactly when they have nothing to do, or start after block 0 at tips to
which the feeder can catch up. -/
theorem agree_iff {endpoint : Endpoint Block} {block : Nat → Block} {startBlock : Nat} {tips : List Nat}
    (serves : Serves endpoint block tips) (withTui : Bool) (startFits : startBlock ≤ u64Max)
    (tipsFit : ∀ tip ∈ tips, tip ≤ u64Max) :
    Agree endpoint block startBlock tips withTui ↔
      tips = [] ∨ startBlock ≠ 0 ∧ ∀ tip ∈ tips, tip ≠ u64Max := by
  constructor
  · rintro ⟨fuel, produced, fed, produces, feeds, same, sent⟩
    have noOverflow := BlockFeeder.noOverflow_of_waiting tipsFit startFits feeds
    cases tips with
    | nil => exact .inl rfl
    | cons tip rest =>
      right
      refine ⟨?_, fun other member => Nat.ne_of_lt (noOverflow other member)⟩
      rintro rfl
      obtain ⟨enough, whole⟩ := RpcBlockProducer.produce_sent serves (RpcBlockProducer.start 0)
      obtain rfl := Polling.poll_unique produces whole
      have lengths := congrArg List.length (same.trans sent)
      simp only [RpcBlockProducer.start, List.nil_append, List.length_map, List.length_range',
        blocksUpTo, highest_eq_max] at lengths
      omega
  · rintro (rfl | ⟨positive, noOverflow⟩)
    · exact ⟨0, _, _, rfl, rfl, rfl, rfl⟩
    · apply agree_of_positive serves withTui positive
      intro tip member
      exact Nat.lt_of_le_of_ne (tipsFit tip member) (noOverflow tip member)

section Examples

open Reference

/-- A provider with as many blocks as anyone asks for, and a consumer that takes them. -/
def allBlocks : Endpoint UInt8 := ⟨fun number => .ok (some (UInt8.ofNat number)), fun _ => true⟩

theorem agree_iff_three : Agree allBlocks UInt8.ofNat 2 [1, 4, 3] false := by
  have serves : Serves allBlocks UInt8.ofNat [1, 4, 3] := ⟨fun _ _ _ _ => rfl, fun _ => rfl⟩
  apply (agree_iff serves false (by decide) (by decide)).2
  right
  exact ⟨by decide, by decide⟩

/-- From block 0 the producer starts at block 1. -/
theorem not_agree_zero : ¬ Agree allBlocks UInt8.ofNat 0 [1] false := by
  rintro ⟨fuel, produced, fed, produces, feeds, same, -⟩
  obtain rfl := Polling.poll_unique produces (show RpcBlockProducer.produce allBlocks 0 2 [.ok 1] =
    .waiting ⟨1, [1]⟩ from rfl)
  obtain rfl := Polling.poll_unique feeds (show BlockFeeder.runBlockFeeder allBlocks 0 3 [.ok 1] false =
    .waiting ⟨2, 2, [0, 1], none⟩ from rfl)
  cases same

end Examples

end Montana.BlockSource
