import Montana.Anvil.Channel

/-! A sink that waits for the receipt of each batch before the next one leaves at most
one of its transactions in a block of L1. -/

namespace Montana.Anvil

/-- At most one inbox transaction is in each block, and at most one waits for the next. -/
structure Sparse (batchInbox : Address) (provider : Provider) : Prop where
  single : AtMostOne batchInbox provider.genesis provider.blocks
  waiting : (sentTo batchInbox provider.mempool).length ≤ 1

private theorem Sparse.mineAll {batchInbox : Address} {mined : List Mined}
    (foreign : ∀ each ∈ mined, sentTo batchInbox each.before = [] ∧ sentTo batchInbox each.after = [])
    {self : Provider} (sparse : Sparse batchInbox self) :
    Sparse batchInbox (mined.foldl Provider.mine self) := by
  induction mined generalizing self with
  | nil => exact sparse
  | cons first rest ih =>
    obtain ⟨⟨before, after⟩, others⟩ := List.forall_mem_cons.mp foreign
    -- what a block takes and what it leaves were waiting together
    have split := congrArg List.length (congrArg (sentTo batchInbox)
      (List.take_append_drop first.taken self.mempool))
    rw [sentTo_append, List.length_append] at split
    have waiting := sparse.waiting
    apply ih others
    constructor
    · refine ⟨sparse.single.genesis, ?_⟩
      intro block member
      rcases List.mem_append.mp member with old | new
      · exact sparse.single.blocks block old
      · rw [List.mem_singleton.mp new]
        simp only [sentTo_append, before, after, List.nil_append, List.append_nil]
        omega
    · show (sentTo batchInbox (self.mempool.drop first.taken)).length ≤ 1
      omega

theorem Sparse.turn {batchInbox : Address} {self : Provider} (foreign : self.Foreign batchInbox)
    (sparse : Sparse batchInbox self) : Sparse batchInbox self.turn.2 := by
  unfold Provider.Foreign at foreign
  unfold Provider.turn
  cases next : self.schedule with
  | nil => exact sparse
  | cons turn rest =>
    rw [next] at foreign
    obtain ⟨here, _⟩ := List.forall_mem_cons.mp foreign
    have start : Sparse batchInbox { self with schedule := rest } := ⟨sparse.single, sparse.waiting⟩
    exact start.mineAll here

/-- Nothing of the sink waits to be mined. -/
structure Settled (sink : AnvilBatchSink) : Prop where
  sparse : Sparse sink.batchInbox sink.provider
  mined : sentTo sink.batchInbox sink.provider.mempool = []

private theorem mineAll_mined {batchInbox : Address} (mined : List Mined) {self : Provider}
    (none : sentTo batchInbox self.mempool = []) :
    sentTo batchInbox (mined.foldl Provider.mine self).mempool = [] := by
  induction mined generalizing self with
  | nil => exact none
  | cons first rest ih =>
    apply ih
    have split := congrArg (sentTo batchInbox) (List.take_append_drop first.taken self.mempool)
    rw [sentTo_append, none] at split
    exact (List.append_eq_nil_iff.mp split).2

private theorem turn_mined {batchInbox : Address} {self : Provider}
    (none : sentTo batchInbox self.mempool = []) :
    sentTo batchInbox self.turn.2.mempool = [] := by
  unfold Provider.turn
  split
  · exact none
  · rename_i turn rest _
    have kept : sentTo batchInbox ({ self with schedule := rest } : Provider).mempool = [] := none
    exact mineAll_mined turn.mined kept

theorem Settled.turns {self : AnvilBatchSink} (settled : Settled self) {provider : Provider}
    (foreign : self.provider.Foreign self.batchInbox) (turns : self.provider.Turns provider) :
    Settled { self with provider } := by
  suffices Settled { self with provider } ∧ provider.Foreign self.batchInbox from this.1
  induction turns with
  | refl => exact ⟨settled, foreign⟩
  | tail _ last ih =>
    subst last
    obtain ⟨⟨sparse, mined⟩, quiet⟩ := ih
    exact ⟨⟨sparse.turn quiet, turn_mined mined⟩, (Provider.turn_accepted quiet).2⟩

/-- The transaction that was sent is the only one that waits. -/
theorem Settled.sendTransaction {self : AnvilBatchSink} (settled : Settled self)
    (foreign : self.provider.Foreign self.batchInbox) (batch : CompressedBatch) :
    Sparse self.batchInbox (self.provider.sendTransaction (self.txRequest batch)).2 := by
  have sparse := settled.sparse.turn foreign
  have mined := turn_mined settled.mined
  unfold Provider.sendTransaction
  by_cases reaches : self.provider.reaches
  · simp only [if_pos reaches]
    refine ⟨sparse.single, ?_⟩
    rw [sentTo_append, mined, List.nil_append]
    exact List.length_filter_le _ [self.txRequest batch]
  · simp only [if_neg reaches]
    exact sparse

/-- A receipt means that everything that waited was mined, each in a block of its own. -/
theorem Sparse.getReceipt {batchInbox : Address} {self : Provider} (foreign : self.Foreign batchInbox)
    (sparse : Sparse batchInbox self) {blockNumber : Option Nat}
    (answered : self.getReceipt.1 = .ok blockNumber) :
    AtMostOne batchInbox self.getReceipt.2.genesis self.getReceipt.2.blocks ∧
      self.getReceipt.2.mempool = [] := by
  have sparse := sparse.turn foreign
  unfold Provider.getReceipt at answered ⊢
  cases failed : self.turn.1.failure with
  | some e =>
    simp only [failed] at answered
    cases answered
  | none =>
    simp only [failed]
    refine ⟨⟨sparse.single.genesis, ?_⟩, trivial⟩
    intro block member
    rcases List.mem_append.mp member with old | new
    · exact sparse.single.blocks block old
    · obtain ⟨tx, _, rfl⟩ := List.mem_map.mp new
      exact List.length_filter_le _ [tx]

/-- An answer with a receipt means that the wait for it ended. -/
theorem submit_received {self : AnvilBatchSink} {batch : CompressedBatch} {receipt : SubmissionReceipt}
    (answered : (self.submit batch).1 = .ok receipt) :
    ∃ blockNumber sent,
      (self.provider.sendTransaction (self.txRequest batch)).2.getReceipt.1 = .ok blockNumber ∧
      (self.submit batch).2 = { self with
        provider := (self.provider.sendTransaction (self.txRequest batch)).2.getReceipt.2, sent } := by
  unfold AnvilBatchSink.submit at answered ⊢
  simp only [] at answered ⊢
  split at answered
  · cases answered
  · rename_i txHash provider sending
    rw [sending]
    simp only []
    split at answered
    · cases answered
    · rename_i blockNumber after receiving
      rw [receiving]
      exact ⟨blockNumber, _, rfl, rfl⟩

/-- A submission that was answered with a receipt leaves nothing behind. -/
theorem Settled.submit {self : AnvilBatchSink} (settled : Settled self)
    (foreign : self.provider.Foreign self.batchInbox) {batch : CompressedBatch}
    {receipt : SubmissionReceipt} (answered : (self.submit batch).1 = .ok receipt) :
    Settled (self.submit batch).2 := by
  have sparse := settled.sendTransaction foreign batch
  obtain ⟨_, quiet⟩ := @Provider.sendTransaction_accepted self.batchInbox self.provider
    (self.txRequest batch) foreign rfl
  obtain ⟨blockNumber, sent, received, same⟩ := submit_received answered
  obtain ⟨single, empty⟩ := sparse.getReceipt quiet received
  have none : sentTo self.batchInbox
      (self.provider.sendTransaction (self.txRequest batch)).2.getReceipt.2.mempool = [] := by
    rw [empty]
    rfl
  rw [same]
  refine ⟨⟨single, ?_⟩, none⟩
  rw [none]
  exact Nat.zero_le 1

/-- What a call returns is what it adds to the history. -/
theorem scan_answer (currentBlock remaining blockNum : Nat) (self : AnvilBatchSource) :
    (∃ batch, (AnvilBatchSource.scan currentBlock remaining blockNum self).1 = .ok (some batch) ∧
        (AnvilBatchSource.scan currentBlock remaining blockNum self).2.returned =
          self.returned ++ [batch]) ∨
      (∀ batch, (AnvilBatchSource.scan currentBlock remaining blockNum self).1 ≠ .ok (some batch)) ∧
        (AnvilBatchSource.scan currentBlock remaining blockNum self).2.returned = self.returned := by
  induction remaining generalizing blockNum self with
  | zero => exact .inr ⟨nofun, rfl⟩
  | succ remaining ih =>
    unfold AnvilBatchSource.scan
    split
    · exact .inr ⟨nofun, rfl⟩
    · rename_i provider _
      exact ih (blockNum + 1) { self with provider }
    · rename_i block provider _
      split
      · exact .inl ⟨_, rfl, rfl⟩
      · exact ih (blockNum + 1) { self with provider, lastScannedBlock := blockNum }

theorem nextBatch_answer (self : AnvilBatchSource) :
    (∃ batch, self.nextBatch.1 = .ok (some batch) ∧
        self.nextBatch.2.returned = self.returned ++ [batch]) ∨
      (∀ batch, self.nextBatch.1 ≠ .ok (some batch)) ∧ self.nextBatch.2.returned = self.returned := by
  unfold AnvilBatchSource.nextBatch
  split
  · exact .inr ⟨nofun, rfl⟩
  · simp only []
    split
    · exact .inr ⟨nofun, rfl⟩
    · exact scan_answer _ _ _ _

/-- A fresh inbox is settled. -/
theorem Settled.of_accepted {sink : AnvilBatchSink}
    (accepted : sink.provider.accepted sink.batchInbox = []) : Settled sink := by
  rw [Provider.accepted_eq, List.append_eq_nil_iff, List.append_eq_nil_iff] at accepted
  obtain ⟨⟨genesis, blocks⟩, mempool⟩ := accepted
  refine ⟨⟨⟨genesis, ?_⟩, ?_⟩, mempool⟩
  · intro block member
    rw [List.flatMap_eq_nil_iff.mp blocks block member]
    exact Nat.zero_le 1
  · rw [mempool]
    exact Nat.zero_le 1

namespace Channel

theorem renumbered_numbers (sent : List CompressedBatch) :
    (renumbered sent).map (·.batchNumber) = List.range' 1 sent.length := by
  rw [renumbered, List.map_map, ← List.zipIdx_map_snd]
  rfl

variable {Party Input : Type} [Submitter Party Input]

/-- A source that found nothing more up to the head has returned all that was sent, when
nothing of it waits to be mined. -/
theorem Linked.drained {self : Channel Party} (linked : self.Linked) (settled : Settled self.sink)
    (bounded : ∀ batch ∈ self.sink.sent, Bounded batch)
    (observed : self.sink.provider.blocks.length ∈ self.source.drained) :
    self.source.returned = renumbered self.sink.sent := by
  obtain ⟨sparse, mined⟩ := settled
  have inbox : self.reader.batchInbox = self.sink.batchInbox := linked.inbox
  have faithful := linked.scanned.faithful (by rw [inbox]; exact sparse.single)
  have all := (faithful.drained _ observed).length_le
  have whole : self.reader.provider.chain.take (self.sink.provider.blocks.length + 1) =
      self.sink.provider.chain := List.take_of_length_le (Nat.le_refl _)
  rw [inbox, length_numbered, whole] at all
  have accepted := congrArg List.length linked.delivering.accepted
  rw [Provider.accepted, mined, List.append_nil, List.length_map] at accepted
  apply (linked.returned sparse.single bounded).eq_of_length_le
  rw [renumbered, List.length_map, List.length_zipIdx, ← accepted]
  exact all

end Channel

end Montana.Anvil
