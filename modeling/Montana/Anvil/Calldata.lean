import Montana.Anvil.Channel

/-! What `next_batch` makes of the calldata that it comes upon. -/

namespace Montana.Anvil

/-- The parsed fields are 64-bit numbers whatever the calldata was. -/
theorem bounded_decodeBatch (number : Nat) (input : Bytes) : Bounded (decodeBatch number input) := by
  have field (bytes : Bytes) : LittleEndian.decode (bytes.take 8) < 2 ^ 64 := by
    have small := LittleEndian.decode_lt (bytes.take 8)
    have wide : 256 ^ (bytes.take 8).length ≤ 256 ^ 8 :=
      Nat.pow_le_pow_right (by decide) (List.length_take_le 8 bytes)
    omega
  unfold decodeBatch
  split
  · exact ⟨field input, field (input.drop 8), field (input.drop 16)⟩
  · exact ⟨Nat.one_lt_two_pow (by decide), Nat.two_pow_pos 64, Nat.two_pow_pos 64⟩

private theorem encodeBatch_decodeBatch (number : Nat) {input : Bytes} (header : 24 ≤ input.length) :
    encodeBatch (decodeBatch number input) = input := by
  have field (bytes : Bytes) (long : 8 ≤ bytes.length) :
      LittleEndian.encode 8 (LittleEndian.decode (bytes.take 8)) = bytes.take 8 := by
    have same := LittleEndian.encode_decode (bytes.take 8)
    rwa [List.length_take_of_le long] at same
  have first := field input (by omega)
  have second := field (input.drop 8) (by rw [List.length_drop]; omega)
  have third := field (input.drop 16) (by rw [List.length_drop]; omega)
  have split (skipped : Nat) : (input.drop skipped).take 8 ++ input.drop (skipped + 8) = input.drop skipped := by
    rw [← List.drop_drop, List.take_append_drop]
  rw [decodeBatch, if_pos header, encodeBatch, first, second, third, List.append_assoc, split 16,
    List.append_assoc, split 8]
  exact split 0

private theorem decodeBatch_of_short (number : Nat) {input : Bytes} (short : input.length < 24) :
    decodeBatch number input =
      { batchNumber := number, data := input, blockCount := 1, firstBlock := 0, lastBlock := 0 } := by
  rw [decodeBatch, if_neg (Nat.not_le.mpr short)]

namespace Provider

private theorem turn_answered {self : Provider} (answered : ∀ turn ∈ self.schedule, turn.failure = none) :
    self.turn.1.failure = none ∧ ∀ turn ∈ self.turn.2.schedule, turn.failure = none := by
  unfold turn
  cases next : self.schedule with
  | nil => exact ⟨rfl, by simp [next]⟩
  | cons turn rest =>
    rw [next] at answered
    obtain ⟨here, later⟩ := List.forall_mem_cons.mp answered
    refine ⟨here, ?_⟩
    rw [mineAll_schedule]
    exact later

end Provider

namespace AnvilBatchSource

/-- No RPC call of the coming `next_batch` fails, and this transaction is the first to the
inbox among the blocks still to be scanned. -/
structure Finds (source : AnvilBatchSource) (tx : L1Transaction) : Prop where
  answered : ∀ turn ∈ source.provider.schedule, turn.failure = none
  first : (inboxTransactions source.batchInbox
    (source.provider.turn.2.blocks.drop source.lastScannedBlock)).head? = some tx

private theorem head_inboxTransactions (batchInbox : Address) (block : L1Block) (rest : List L1Block) :
    (inboxTransactions batchInbox (block :: rest)).head? =
      (block.find? (·.destination = some batchInbox)).or (inboxTransactions batchInbox rest).head? := by
  rw [inboxTransactions, List.flatMap_cons, List.head?_append, sentTo, List.head?_filter]
  rfl

/-- Blocks without an inbox transaction are passed over until the first one is found. -/
theorem scan_finds {currentBlock remaining : Nat} {self : AnvilBatchSource} {tx : L1Transaction}
    (answered : ∀ turn ∈ self.provider.schedule, turn.failure = none)
    (reach : self.lastScannedBlock + remaining = currentBlock)
    (head : currentBlock ≤ self.provider.blocks.length)
    (first : (inboxTransactions self.batchInbox
      ((self.provider.blocks.take currentBlock).drop self.lastScannedBlock)).head? = some tx) :
    (scan currentBlock remaining (self.lastScannedBlock + 1) self).1 =
      .ok (some (decodeBatch self.nextBatchNumber tx.input)) := by
  induction remaining generalizing self with
  | zero =>
    have none_left : (self.provider.blocks.take currentBlock).drop self.lastScannedBlock = [] := by
      simp only [Nat.add_zero] at reach
      simp [← reach]
    rw [none_left] at first
    cases first
  | succ remaining ih =>
    have below : self.lastScannedBlock < self.provider.blocks.length := by omega
    obtain ⟨more, longer⟩ := self.provider.turn_extends.blocks
    obtain ⟨succeeds, later⟩ := Provider.turn_answered answered
    have still : self.provider.turn.2.blocks.take currentBlock = self.provider.blocks.take currentBlock := by
      rw [← longer, List.take_append_of_le_length head]
    have higher : currentBlock ≤ self.provider.turn.2.blocks.length := by
      rw [← longer, List.length_append]
      omega
    obtain ⟨block, here, got⟩ := Provider.getBlockByNumber_answered below succeeds
    have next : (self.provider.blocks.take currentBlock).drop self.lastScannedBlock =
        block :: (self.provider.blocks.take currentBlock).drop (self.lastScannedBlock + 1) := by
      rw [List.drop_eq_getElem?_toList_append, ← still, List.getElem?_take_of_lt (by omega), here]
      rfl
    rw [next, head_inboxTransactions] at first
    unfold AnvilBatchSource.scan
    rw [got]
    cases found : block.find? (·.destination = some self.batchInbox) with
    | some other =>
      rw [found] at first
      cases first
      simp only [found]
    | none =>
      rw [found, Option.none_or, ← still] at first
      simp only [found]
      exact @ih { self with
        provider := self.provider.turn.2, lastScannedBlock := self.lastScannedBlock + 1 }
        later (by show self.lastScannedBlock + 1 + remaining = currentBlock; omega) higher first

theorem Finds.nextBatch {self : AnvilBatchSource} {tx : L1Transaction} (finds : self.Finds tx) :
    self.nextBatch.1 = .ok (some (decodeBatch self.nextBatchNumber tx.input)) := by
  obtain ⟨answered, first⟩ := finds
  obtain ⟨succeeds, later⟩ := Provider.turn_answered answered
  unfold AnvilBatchSource.nextBatch
  rw [Provider.getBlockNumber_answered succeeds]
  simp only []
  by_cases nothing : self.provider.turn.2.blocks.length ≤ self.lastScannedBlock
  · rw [List.drop_eq_nil_of_le nothing] at first
    cases first
  · rw [if_neg nothing]
    refine @scan_finds _ _ { self with provider := self.provider.turn.2 } tx later ?_ (Nat.le_refl _) ?_
    · show self.lastScannedBlock + _ = _
      omega
    · show (inboxTransactions self.batchInbox
        ((self.provider.turn.2.blocks.take self.provider.turn.2.blocks.length).drop
          self.lastScannedBlock)).head? = some tx
      rwa [List.take_length]

/-- Parsing and encoding undo each other on everything that has a header; without one
the calldata is the data. -/
theorem calldata_roundtrips {self : AnvilBatchSource} {tx : L1Transaction} (finds : self.Finds tx)
    (sink : AnvilBatchSink) :
    ∃ batch, self.nextBatch.1 = .ok (some batch) ∧
      (∀ original : CompressedBatch, Bounded original → tx.input = (sink.txRequest original).input →
        batch = { original with batchNumber := self.nextBatchNumber }) ∧
      (24 ≤ tx.input.length → Bounded batch ∧ (sink.txRequest batch).input = tx.input) ∧
      (tx.input.length < 24 → batch =
        { batchNumber := self.nextBatchNumber, data := tx.input, blockCount := 1, firstBlock := 0,
          lastBlock := 0 }) := by
  refine ⟨_, finds.nextBatch, ?_, ?_, ?_⟩
  · intro original bounded same
    rw [same]
    exact decodeBatch_encodeBatch bounded _
  · intro header
    exact ⟨bounded_decodeBatch _ _, encodeBatch_decodeBatch _ header⟩
  · exact decodeBatch_of_short _

section Examples

def inboxSink : AnvilBatchSink := .new (.fresh []) 0 1

def emptyBatch : CompressedBatch := ⟨5, [], 2 ^ 64 - 1, 3, 4⟩

def inboxSource : AnvilBatchSource := .new (inboxSink.submit emptyBatch).2.provider 1

theorem calldata_roundtrips_submitted :
    inboxSource.nextBatch.1 = .ok (some { emptyBatch with batchNumber := 1 }) := by
  have finds : inboxSource.Finds (inboxSink.txRequest emptyBatch) := ⟨by decide, by decide⟩
  obtain ⟨batch, read, parsed, _⟩ := calldata_roundtrips finds inboxSink
  rw [read, parsed emptyBatch (by decide) rfl]
  rfl

end Examples

end AnvilBatchSource

end Montana.Anvil
