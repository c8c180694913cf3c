import Montana.Derivation.Restarts

/-! The head that the derivation runner reports. It counts blocks by a side table that the
sequencer may fill, not by the batch it has just decoded and executed. -/

namespace Montana.Derivation

open Vm (Execution Executor)

namespace DerivationRunner

variable {Block Source Exec Result Store Tx : Type}

/-- The blocks that were executed, in order. -/
def executed (self : DerivationRunner Block Source Exec Result Store) : List Block :=
  self.attempts.flatMap fun attempt => attempt.executions.map (·.block)

/-- The number of blocks that `derive_batch` counts for this batch. -/
def countedBlocks (self : DerivationRunner Block Source Exec Result Store) (batchNumber : Nat) : Nat :=
  (self.batchBlockCounts batchNumber).getD 1

/-- What is reported of the head and of the last batch, as it should be. -/
structure Accounted [BlockResponse Block Tx] (startBlock : Nat)
    (runner : DerivationRunner Block Source Exec Result Store) : Prop where
  head : runner.lastFinalizedBlock =
    (runner.executed.getLast?.map BlockResponse.number).getD startBlock
  total : runner.metrics.blocksDerived = runner.executed.length
  range : ∀ attempt ∈ runner.attempts.getLast?,
    attempt.executions.map (fun execution => BlockResponse.number execution.block) =
      List.range' runner.metrics.firstBlockInBatch
        (runner.metrics.lastBlockInBatch + 1 - runner.metrics.firstBlockInBatch)

/-- The blocks executed are numbered from the one after the start block on. -/
def Numbered [BlockResponse Block Tx] (startBlock : Nat)
    (runner : DerivationRunner Block Source Exec Result Store) : Prop :=
  runner.executed.map BlockResponse.number = List.range' (startBlock + 1) runner.executed.length

section Updates

variable [BlockResponse Block Tx]

/-- What the end of `derive_batch` does to the head. -/
structure Moved (before after : DerivationRunner Block Source Exec Result Store) (counted : Nat) : Prop where
  lastFinalizedBlock : after.lastFinalizedBlock = before.lastFinalizedBlock + counted
  blocksDerived : after.metrics.blocksDerived = before.metrics.blocksDerived + counted
  firstBlockInBatch : after.metrics.firstBlockInBatch = before.lastFinalizedBlock + 1
  lastBlockInBatch : after.metrics.lastBlockInBatch = before.lastFinalizedBlock + counted

omit [BlockResponse Block Tx] in
private theorem updateMetrics_moved (self : DerivationRunner Block Source Exec Result Store)
    (batchNumber decompressedSize deriveTime : Nat) :
    Moved self (self.updateMetrics batchNumber decompressedSize deriveTime)
      (self.countedBlocks batchNumber) := by
  unfold updateMetrics
  constructor
  · rfl
  · simp only []
    split <;> rfl
  · simp only []
    split <;> rfl
  · simp only []
    split <;> rfl

theorem Numbered.append {startBlock : Nat} {before after : DerivationRunner Block Source Exec Result Store}
    {attempt : Attempt Block Result} (grown : after.attempts = before.attempts ++ [attempt])
    (numbered : before.Numbered startBlock) (later : after.Numbered startBlock) :
    attempt.executions.map (fun execution => BlockResponse.number execution.block) =
      List.range' (startBlock + 1 + before.executed.length) attempt.executions.length := by
  have whole : after.executed = before.executed ++ attempt.executions.map (·.block) := by
    simp [executed, grown]
  unfold Numbered at numbered later
  rw [whole, List.map_append, List.length_append, List.length_map, ← List.range'_append_1, numbered] at later
  rw [← List.append_cancel_left later, List.map_map]
  rfl

/-- Of a numbered sequence, the last number is known from the first and the length. -/
theorem Numbered.last {startBlock : Nat} {self : DerivationRunner Block Source Exec Result Store}
    (numbered : self.Numbered startBlock) :
    (self.executed.getLast?.map BlockResponse.number).getD startBlock =
      startBlock + self.executed.length := by
  rw [← List.getLast?_map, numbered, List.getLast?_range']
  split
  · rename_i none
    rw [none]
    rfl
  · simp only [Option.getD_some]
    omega

theorem Accounted.unchanged {startBlock : Nat}
    {before after : DerivationRunner Block Source Exec Result Store} (accounted : before.Accounted startBlock)
    (attempts : after.attempts = before.attempts)
    (head : after.lastFinalizedBlock = before.lastFinalizedBlock)
    (metrics : after.metrics = before.metrics) : after.Accounted startBlock where
  head := by
    rw [executed, attempts, head]
    exact accounted.head
  total := by
    rw [executed, attempts, metrics]
    exact accounted.total
  range := by
    rw [attempts, metrics]
    exact accounted.range

/-- One batch more is accounted for exactly if its blocks were counted right. -/
theorem Accounted.moved_iff {startBlock counted : Nat}
    {before after : DerivationRunner Block Source Exec Result Store} {attempt : Attempt Block Result}
    (moved : Moved before after counted) (grown : after.attempts = before.attempts ++ [attempt])
    (numbered : before.Numbered startBlock) (later : after.Numbered startBlock)
    (accounted : before.Accounted startBlock) :
    after.Accounted startBlock ↔ counted = attempt.executions.length := by
  have whole : after.executed.length = before.executed.length + attempt.executions.length := by
    simp [executed, grown]
  have head := accounted.head
  have total := accounted.total
  rw [numbered.last] at head
  constructor
  · intro after
    have now := after.total
    rw [moved.blocksDerived, whole] at now
    omega
  · rintro rfl
    refine ⟨?_, ?_, ?_⟩
    · rw [later.last, moved.lastFinalizedBlock, whole, head]
      omega
    · rw [moved.blocksDerived, whole, total]
    · intro last listed
      rw [grown, List.getLast?_concat, Option.mem_some_iff] at listed
      subst listed
      rw [numbered.append grown later, moved.firstBlockInBatch, moved.lastBlockInBatch, head]
      congr 1 <;> omega

end Updates

section Ticks

variable [BlockResponse Block Tx] [BlockJson Block] [L1BatchSource Source]
variable [Executor Exec Block Result] [CheckpointStore Store]

omit [L1BatchSource Source] in
/-- A batch that is not skipped is attempted, and counted by the table where it is derived. -/
theorem deriveBatch_heads (self : DerivationRunner Block Source Exec Result Store)
    (batch : CompressedBatch) (deriveTime : Nat) (takes : self.shouldSkipBatch batch.batchNumber = false) :
    ∃ attempt : Attempt Block Result,
      (self.deriveBatch batch deriveTime).2.attempts = self.attempts ++ [attempt] ∧
      ((self.deriveBatch batch deriveTime).1.isOk = true →
        payload self.compressor batch = some (attempt.executions.map (·.block)) ∧
        Moved self (self.deriveBatch batch deriveTime).2 (self.countedBlocks batch.batchNumber)) := by
  obtain ⟨attempt, executor, rfl, tried, shaped, outcome, executions, after⟩ := attemptBatch_cases self batch
  refine ⟨attempt, ?_⟩
  unfold deriveBatch
  rw [takes, if_neg Bool.false_ne_true]
  cases attempted : self.attemptBatch attempt.batch with
  | mk answer next =>
    rw [attempted] at outcome after
    simp only [] at after
    subst after
    cases answer with
    | error e => exact ⟨rfl, fun done => absurd done Bool.false_ne_true⟩
    | ok size =>
      have derived := shaped.mp (outcome.mpr ⟨size, rfl⟩)
      simp only [recordBatchDerived]
      cases saved : Checkpoint.saveIfEnabled self.store self.checkpointPath
          ((self.checkpoint.recordBatchDerived attempt.batch.batchNumber).touch self.wallClock) with
      | mk result store =>
        cases result with
        | error e => exact ⟨rfl, fun done => absurd done Bool.false_ne_true⟩
        | ok done =>
          refine ⟨rfl, fun _ => ⟨derived.1, ?_⟩⟩
          obtain ⟨finalized, total, first, last⟩ := updateMetrics_moved { self with
            executor, store
            attempts := self.attempts ++ [attempt]
            checkpoint := (self.checkpoint.recordBatchDerived attempt.batch.batchNumber).touch self.wallClock }
            attempt.batch.batchNumber size deriveTime
          exact ⟨finalized, total, first, last⟩

/-- A tick takes no batch on and leaves the head alone, or it attempts one. -/
theorem tick_heads (self : DerivationRunner Block Source Exec Result Store) :
    (self.takesOn = none ∧ self.tick.2.attempts = self.attempts ∧
        self.tick.2.lastFinalizedBlock = self.lastFinalizedBlock ∧ self.tick.2.metrics = self.metrics) ∨
      ∃ (batch : CompressedBatch) (attempt : Attempt Block Result), self.takesOn = some batch ∧
        self.tick.2.attempts = self.attempts ++ [attempt] ∧
        (self.tick.1.isOk = true →
          payload self.compressor batch = some (attempt.executions.map (·.block)) ∧
          Moved self self.tick.2 (self.countedBlocks batch.batchNumber)) := by
  by_cases paused : self.paused = true
  · simp [tick, takesOn, paused]
  · cases taken : L1BatchSource.nextBatch self.source with
    | mk answer source =>
      rcases answer with e | _ | batch
      · simp [tick, takesOn, paused, taken]
      · simp [tick, takesOn, paused, taken]
      · have ticked : self.tick = deriveBatch
            { self with source, delivered := self.delivered ++ [batch] } batch self.clock := by
          simp [tick, paused, taken]
        cases takes : self.shouldSkipBatch batch.batchNumber with
        | true =>
          have same : self.tick = (.ok none, { self with source, delivered := self.delivered ++ [batch] }) := by
            rw [ticked]
            exact if_pos takes
          simp [takesOn, paused, taken, takes, same]
        | false =>
          obtain ⟨attempt, grown, derived⟩ := deriveBatch_heads
            { self with source, delivered := self.delivered ++ [batch] } batch self.clock takes
          rw [← ticked] at grown derived
          refine .inr ⟨batch, attempt, by simp [takesOn, paused, taken, takes], grown, fun success => ?_⟩
          obtain ⟨decoded, finalized, total, first, last⟩ := derived success
          exact ⟨decoded, finalized, total, first, last⟩

/-- A tick derives the batch it takes on, and the blocks executed so far are numbered
from the one after the start block on. -/
def derives (startBlock : Nat) (self : DerivationRunner Block Source Exec Result Store) : Input → Prop
  | .tick => (self.tick.1.isOk = true ∨ self.tick.2.attempts = self.attempts) ∧
      self.tick.2.Numbered startBlock
  | _ => True

/-- The number of blocks of the batch that a tick takes on was recorded, or is 1. -/
def countsBlocks (self : DerivationRunner Block Source Exec Result Store) : Input → Prop
  | .tick => ∀ batch, self.takesOn = some batch →
      self.countedBlocks batch.batchNumber =
        ((payload self.compressor batch : Option (List Block)).getD []).length
  | _ => True

theorem Numbered.input {startBlock : Nat} {self : DerivationRunner Block Source Exec Result Store}
    (numbered : self.Numbered startBlock) (input : Input) (derives : self.derives startBlock input) :
    (self.step input).Numbered startBlock := by
  cases input with
  | tick => exact derives.2
  | pause => exact numbered
  | resume => exact numbered
  | togglePause => exact numbered
  | recordSubmission => exact numbered
  | recordBatchBlockCount => exact numbered
  | clockAdvanced => exact numbered
  | wallClockSet => exact numbered

private theorem Accounted.tick_iff {startBlock : Nat}
    {self : DerivationRunner Block Source Exec Result Store}
    (numbered : self.Numbered startBlock) (accounted : self.Accounted startBlock)
    (derives : self.derives startBlock .tick) :
    self.tick.2.Accounted startBlock ↔ self.countsBlocks .tick := by
  obtain ⟨derived, later⟩ := derives
  rcases tick_heads self with ⟨nothing, attempts, head, metrics⟩ | ⟨batch, attempt, takes, grown, success⟩
  · exact iff_of_true (accounted.unchanged attempts head metrics) (by simp [countsBlocks, nothing])
  · have ok : self.tick.1.isOk = true := by
      rcases derived with ok | same
      · exact ok
      · rw [grown] at same
        exact absurd (List.append_right_eq_self.mp same) (List.cons_ne_nil _ _)
    obtain ⟨decoded, moved⟩ := success ok
    rw [Accounted.moved_iff moved grown numbered later accounted]
    simp [countsBlocks, takes, decoded]

omit [BlockResponse Block Tx] [BlockJson Block] [L1BatchSource Source] [Executor Exec Block Result] in
theorem Launched.metrics {self : DerivationRunner Block Source Exec Result Store}
    (launched : self.Launched) : self.metrics = {} := by
  induction launched with
  | withStartBlock => rfl
  | @withCheckpoint self next path _ loaded ih =>
    obtain ⟨checkpoint, rfl⟩ := withCheckpoint_frame loaded
    exact ih

/-- Over batches that are all derived, the head, the total and the range of the last batch
are right after every call, exactly if every batch was counted right when it was derived. -/
theorem accounted_iff_countsBlocks {start : DerivationRunner Block Source Exec Result Store}
    (launched : start.Launched) (inputs : List Input)
    (derived : Runs.Guarded step (derives start.lastFinalizedBlock) start inputs) :
    (∀ count, (start.run (inputs.take count)).Accounted start.lastFinalizedBlock) ↔
      Runs.Guarded step countsBlocks start inputs := by
  have none := launched.start.2
  have numbered : start.Numbered start.lastFinalizedBlock := by simp [Numbered, executed, none]
  have accounted : start.Accounted start.lastFinalizedBlock := by
    refine ⟨?_, ?_, ?_⟩ <;> simp [executed, none, launched.metrics]
  refine Runs.guarded_iff_invariant_known (Numbered start.lastFinalizedBlock)
    (Accounted start.lastFinalizedBlock) ?_ ?_ inputs derived numbered accounted
  · intro reached input derives numbered
    exact numbered.input input derives
  · intro reached input derives numbered accounted
    cases input with
    | tick => exact accounted.tick_iff numbered derives
    | pause => exact iff_of_true (accounted.unchanged rfl rfl rfl) trivial
    | resume => exact iff_of_true (accounted.unchanged rfl rfl rfl) trivial
    | togglePause => exact iff_of_true (accounted.unchanged rfl rfl rfl) trivial
    | recordSubmission => exact iff_of_true (accounted.unchanged rfl rfl rfl) trivial
    | recordBatchBlockCount => exact iff_of_true (accounted.unchanged rfl rfl rfl) trivial
    | clockAdvanced => exact iff_of_true (accounted.unchanged rfl rfl rfl) trivial
    | wallClockSet => exact iff_of_true (accounted.unchanged rfl rfl rfl) trivial

end Ticks

section Examples

open Reference

/-- A batch of two blocks whose count nobody recorded moves the reported head by one. -/
theorem two_blocks_counted_once :
    (runnerOn [[1, 2]]).Launched ∧ Runs.Guarded step (derives 0) (runnerOn [[1, 2]]) [.tick] ∧
      ((runnerOn [[1, 2]]).run [.tick]).executed = [1, 2] ∧
      ((runnerOn [[1, 2]]).run [.tick]).lastFinalizedBlock = 1 ∧
      ¬ ((runnerOn [[1, 2]]).run [.tick]).Accounted 0 := by
  refine ⟨.withStartBlock _ _ _ _ _ _, ⟨⟨.inl (by decide), by unfold Numbered; decide⟩, trivial⟩,
    by decide, by decide, fun accounted => ?_⟩
  exact absurd accounted.total (by decide)

/-- The count of the first batch is recorded, and the second batch has one block. -/
def countedBatches : List Input := [.recordBatchBlockCount 1 2, .tick, .tick]

theorem accounted_counted : ((runnerOn [[1, 2], [3]]).run countedBatches).Accounted 0 := by
  have derived : Runs.Guarded step (derives 0) (runnerOn [[1, 2], [3]]) countedBatches :=
    ⟨trivial, ⟨.inl (by decide), by unfold Numbered; decide⟩, ⟨.inl (by decide), by unfold Numbered; decide⟩,
      trivial⟩
  refine (accounted_iff_countsBlocks (.withStartBlock _ _ _ _ _ _) countedBatches derived).mpr
    ⟨trivial, ?_, ?_, trivial⟩ 3
  · rintro batch ⟨⟩
    decide
  · rintro batch ⟨⟩
    decide

end Examples

end DerivationRunner

end Montana.Derivation
