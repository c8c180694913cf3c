import Montana.Lib.Runs
import Montana.Roles.Validator

/-! What one batch does to a validator, and its tick as a sequence of atomic actions. -/

namespace Montana.Roles.Validator

open Vm (Execution Executor executeAll)
open Relation (ReflTransGen)

variable {Block Source Exec Result Store Tx : Type}

/-- The checkpoint after a batch was recorded. -/
def checkpointAfter (self : Validator Block Source Exec Result Store) (batchNumber : Nat) : Checkpoint :=
  (self.checkpoint.recordBatchDerived batchNumber).touch self.wallClock

@[simp] theorem checkpointAfter_lastBatchDerived (self : Validator Block Source Exec Result Store)
    (batchNumber : Nat) : (self.checkpointAfter batchNumber).lastBatchDerived =
      max self.checkpoint.lastBatchDerived batchNumber := by
  simp [checkpointAfter]

/-- What saving that checkpoint answers and leaves behind. -/
def savedAfter [CheckpointStore Store] (self : Validator Block Source Exec Result Store)
    (batchNumber : Nat) : Except CheckpointError Unit × Store :=
  Checkpoint.saveIfEnabled self.store self.checkpointPath (self.checkpointAfter batchNumber)

variable [BlockResponse Block Tx] [BlockJson Block] [L1BatchSource Source]
variable [Executor Exec Block Result] [CheckpointStore Store]

omit [BlockJson Block] [L1BatchSource Source] [CheckpointStore Store] in
/-- The block loop executes the blocks one after the other and changes nothing else. -/
theorem executeBlocks_frame (self : Validator Block Source Exec Result Store) (blocks : List Block) :
    ∃ executed derivationCallback, executed.map Execution.block = blocks ∧
      self.executeBlocks blocks = { self with
        derivationCallback
        executor := executeAll self.executor blocks
        executions := self.executions ++ executed } := by
  induction blocks generalizing self with
  | nil => exact ⟨[], self.derivationCallback, rfl, by simp [executeBlocks, executeAll]⟩
  | cons block rest ih =>
    obtain ⟨executed, derivationCallback, same, after⟩ := ih (self.executeOne block)
    let first := Execution.mk block (Executor.executeBlock self.executor block).1
    refine ⟨first :: executed, derivationCallback, by simp [first, same], ?_⟩
    show (self.executeOne block).executeBlocks rest = _
    rw [after]
    simp [executeOne, report, first, executeAll]

omit [BlockResponse Block Tx] [L1BatchSource Source] [Executor Exec Block Result]
  [CheckpointStore Store] in
/-- Decoding gives the payload of a batch that is ahead of the checkpoint. -/
theorem decodeBatch_some (self : Validator Block Source Exec Result Store) (batch : CompressedBatch)
    (blockBatch : OpBlockBatch Block) :
    self.decodeBatch batch = .ok (some blockBatch) ↔
      self.checkpoint.lastBatchDerived < batch.batchNumber ∧
        payload self.compressor batch = some blockBatch.blocks := by
  unfold decodeBatch payload
  split
  · rename_i derived
    exact ⟨nofun, fun ahead => absurd ahead.1 (Nat.not_lt.mpr derived)⟩
  · rename_i ahead
    cases self.compressor.decompress batch.data with
    | error e => simp
    | ok data =>
      simp only []
      cases (BlockJson.fromBytes data : Except String (OpBlockBatch Block)) with
      | error e => simp
      | ok other =>
        cases other
        cases blockBatch
        simp [Nat.not_le.mp ahead]

omit [BlockResponse Block Tx] [BlockJson Block] [L1BatchSource Source]
  [Executor Exec Block Result] in
/-- The checkpoint moves and the batch is recorded whether or not the save succeeds. -/
theorem recordBatch_frame (self : Validator Block Source Exec Result Store) (batch : CompressedBatch)
    (executed : List (Execution Block Result)) :
    ∃ events derivationCallback,
      (∀ batchNumber, .batchValidated batchNumber ∈ events → batchNumber = batch.batchNumber) ∧
      (self.recordBatch batch executed).2 = { self with
        derivationCallback
        store := (self.savedAfter batch.batchNumber).2
        eventTx := self.eventTx.map (· ++ events)
        derivations := self.derivations ++ [⟨batch, executed⟩]
        checkpoint := self.checkpointAfter batch.batchNumber } := by
  unfold recordBatch savedAfter checkpointAfter
  simp only []
  split <;> rename_i saved <;> rw [saved]
  · exact ⟨[], self.derivationCallback, by simp, by simp⟩
  · exact ⟨[.batchValidated batch.batchNumber], _, by simp, rfl⟩

omit [L1BatchSource Source] in
/-- The ends of `process_batch`: the batch is skipped or unreadable and nothing
changes, or all its blocks are executed and it is recorded. -/
theorem processBatch_cases (self : Validator Block Source Exec Result Store) (batch : CompressedBatch) :
    ((batch.batchNumber ≤ self.checkpoint.lastBatchDerived ∨
        (payload self.compressor batch : Option (List Block)) = none) ∧
      (self.processBatch batch).2 = self) ∨
    (self.checkpoint.lastBatchDerived < batch.batchNumber ∧
      ∃ executed events derivationCallback,
        payload self.compressor batch = some (executed.map Execution.block) ∧
        (∀ batchNumber, .batchValidated batchNumber ∈ events → batchNumber = batch.batchNumber) ∧
        (self.processBatch batch).2 = { self with
          derivationCallback
          executor := executeAll self.executor (executed.map Execution.block)
          store := (self.savedAfter batch.batchNumber).2
          eventTx := self.eventTx.map (· ++ events)
          executions := self.executions ++ executed
          derivations := self.derivations ++ [⟨batch, executed⟩]
          checkpoint := self.checkpointAfter batch.batchNumber }) := by
  by_cases passed : ∃ blockBatch, self.decodeBatch batch = .ok (some blockBatch)
  · obtain ⟨blockBatch, decoded⟩ := passed
    obtain ⟨ahead, readable⟩ := (decodeBatch_some self batch blockBatch).mp decoded
    obtain ⟨executed, reported, same, after⟩ := executeBlocks_frame
      (self.emit (.batchDerived batch.batchNumber batch.blockCount)) blockBatch.blocks
    obtain ⟨events, derivationCallback, validated, recorded⟩ := recordBatch_frame
      ((self.emit (.batchDerived batch.batchNumber batch.blockCount)).executeBlocks blockBatch.blocks)
      batch executed
    refine .inr ⟨ahead, executed, .batchDerived batch.batchNumber batch.blockCount :: events,
      derivationCallback, by rw [readable, same], by simpa using validated, ?_⟩
    simp only [processBatch, decoded]
    rw [after] at recorded ⊢
    simp only [emit, List.drop_left] at recorded ⊢
    rw [recorded, same]
    simp [Function.comp_def, savedAfter, checkpointAfter]
  · refine .inl ⟨?_, ?_⟩
    · rcases Nat.lt_or_ge self.checkpoint.lastBatchDerived batch.batchNumber with ahead | derived
      · refine .inr (Option.eq_none_iff_forall_ne_some.mpr fun blocks readable => passed ⟨⟨blocks⟩, ?_⟩)
        exact (decodeBatch_some self batch ⟨blocks⟩).mpr ⟨ahead, readable⟩
      · exact .inl derived
    · unfold processBatch
      split
      · rfl
      · rfl
      · rename_i blockBatch decoded
        exact absurd ⟨blockBatch, decoded⟩ passed

/-- The atomic actions of a validator, apart from `resume`. -/
inductive Step : Validator Block Source Exec Result Store → Validator Block Source Exec Result Store →
    Prop where
  | watch (self : Validator Block Source Exec Result Store) : Step self self.watchL1Head
  | idle {self : Validator Block Source Exec Result Store} {answer batchSource}
      (fetched : L1BatchSource.nextBatch self.batchSource = (answer, batchSource))
      (nothing : ∀ batch, answer ≠ .ok (some batch)) : Step self { self with batchSource }
  | process {self : Validator Block Source Exec Result Store} {batch batchSource}
      (fetched : L1BatchSource.nextBatch self.batchSource = (.ok (some batch), batchSource)) :
      Step self (processBatch { self with batchSource } batch).2
  | clock (self : Validator Block Source Exec Result Store) (unixSeconds : Nat) :
      Step self { self with wallClock := unixSeconds }

private theorem drainLoop_steps (limit : Nat) (self : Validator Block Source Exec Result Store) :
    ReflTransGen Step self (drainLoop limit self).2 := by
  induction limit generalizing self with
  | zero => exact .refl
  | succ limit ih =>
    unfold drainLoop
    split
    · rename_i batch batchSource fetched
      have processed : Step self (processBatch { self with batchSource } batch).2 := .process fetched
      split <;> rename_i result <;> rw [result] at processed
      · exact .single processed
      · rename_i after
        have rest := ih after
        split <;> rename_i drained <;> rw [drained] at rest <;> exact .head processed rest
    · rename_i fetched
      exact .single (.idle fetched nofun)
    · rename_i fetched
      exact .single (.idle fetched nofun)

theorem tick_steps (self : Validator Block Source Exec Result Store) :
    ReflTransGen Step self self.tick.2 := by
  have drained := drainLoop_steps maxBatchesPerTick self.watchL1Head
  unfold tick
  split <;> rename_i result <;> rw [result] at drained <;> exact .head (.watch self) drained

/-- Every input other than `resume` is a sequence of atomic actions. -/
theorem step_steps (self : Validator Block Source Exec Result Store) (input : Input)
    (kept : ∀ checkpoint, input ≠ .resume checkpoint) : ReflTransGen Step self (self.step input) := by
  cases input with
  | tick => exact self.tick_steps
  | wallClockSet unixSeconds => exact .single (.clock self unixSeconds)
  | resume checkpoint => exact absurd rfl (kept checkpoint)

omit [BlockResponse Block Tx] [BlockJson Block] [Executor Exec Block Result]
  [CheckpointStore Store] in
theorem watchL1Head_frame (self : Validator Block Source Exec Result Store) :
    ∃ derivationCallback lastL1Head,
      self.watchL1Head = { self with derivationCallback, lastL1Head } := by
  unfold watchL1Head
  split
  · split
    · exact ⟨_, _, rfl⟩
    · exact ⟨self.derivationCallback, self.lastL1Head, rfl⟩
  · exact ⟨self.derivationCallback, self.lastL1Head, rfl⟩

end Montana.Roles.Validator
