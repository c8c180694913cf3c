import Montana.Roles.ValidatorStep

/-! A tick of the validator up to the batch at which it fails, if it does: before that one no
save failed. -/

namespace Montana.Roles.Validator

open Vm (Execution Executor)
open Relation (ReflTransGen)

variable {Block Source Exec Result Store Tx : Type}
variable [BlockResponse Block Tx] [BlockJson Block] [L1BatchSource Source]
variable [Executor Exec Block Result] [CheckpointStore Store]

/-- The actions of a tick that does not fail: a batch ahead of the checkpoint is recorded
and saved, or checkpoint and file stay. -/
inductive Settled : Validator Block Source Exec Result Store → Validator Block Source Exec Result Store →
    Prop where
  | kept {before after : Validator Block Source Exec Result Store}
      (path : after.checkpointPath = before.checkpointPath) (checkpoint : after.checkpoint = before.checkpoint)
      (store : after.store = before.store) : Settled before after
  | recorded {before after : Validator Block Source Exec Result Store} {batchNumber : Nat}
      (path : after.checkpointPath = before.checkpointPath)
      (ahead : before.checkpoint.lastBatchDerived < batchNumber)
      (checkpoint : after.checkpoint = before.checkpointAfter batchNumber)
      (saved : before.savedAfter batchNumber = (.ok (), after.store)) : Settled before after

/-- A batch failed: it was not saved. -/
def Refused (before after : Validator Block Source Exec Result Store) : Prop :=
  after.checkpointPath = before.checkpointPath ∧ (after.store = before.store ∨
    ∃ batchNumber error, before.savedAfter batchNumber = (.error error, after.store))

def Ends (failed : Bool) (before after : Validator Block Source Exec Result Store) : Prop :=
  ∃ middle, ReflTransGen Settled before middle ∧ if failed then Refused middle after else middle = after

omit [BlockJson Block] [L1BatchSource Source] [Executor Exec Block Result] in
theorem Ends.after {failed : Bool} {before middle after : Validator Block Source Exec Result Store}
    (first : ReflTransGen Settled before middle) (rest : Ends failed middle after) :
    Ends failed before after := by
  obtain ⟨last, settled, finish⟩ := rest
  exact ⟨last, first.trans settled, finish⟩

omit [L1BatchSource Source] in
/-- A batch that is processed was skipped, or it was saved; one that fails was not saved. -/
theorem processBatch_ends (self : Validator Block Source Exec Result Store) (batch : CompressedBatch) :
    Ends (!(self.processBatch batch).1.isOk) self (self.processBatch batch).2 := by
  unfold processBatch
  split
  · exact ⟨self, .refl, rfl, .inl rfl⟩
  · exact ⟨self, .refl, rfl⟩
  · rename_i blockBatch decoded
    have ahead := ((decodeBatch_some self batch blockBatch).mp decoded).1
    obtain ⟨executed, reported, _, after⟩ := executeBlocks_frame
      (self.emit (.batchDerived batch.batchNumber batch.blockCount)) blockBatch.blocks
    simp only [after]
    unfold recordBatch
    simp only []
    split <;> rename_i saved
    · exact ⟨self, .refl, rfl, .inr ⟨batch.batchNumber, _, saved⟩⟩
    · refine ⟨_, ?_, rfl⟩
      exact .single (.recorded rfl ahead rfl saved)

private theorem drainLoop_ends (limit : Nat) (self : Validator Block Source Exec Result Store) :
    Ends (!(drainLoop limit self).1.isOk) self (drainLoop limit self).2 := by
  induction limit generalizing self with
  | zero => exact ⟨self, .refl, rfl⟩
  | succ limit ih =>
    unfold drainLoop
    split
    · rename_i batch batchSource fetched
      have taken : Settled self { self with batchSource } := .kept rfl rfl rfl
      have processed := (processBatch_ends { self with batchSource } batch).after (.single taken)
      split <;> rename_i answer <;> rw [answer] at processed
      · exact processed
      · rename_i after
        obtain ⟨middle, settled, same⟩ := processed
        have rest := (ih after).after ((show middle = after from same) ▸ settled)
        split <;> rename_i drained <;> rw [drained] at rest <;> exact rest
    · refine ⟨_, ?_, rfl⟩
      exact .single (.kept rfl rfl rfl)
    · refine ⟨_, ?_, rfl⟩
      exact .single (.kept rfl rfl rfl)

/-- A tick that does not fail recorded and saved all it tried to. -/
theorem tick_ends (self : Validator Block Source Exec Result Store) :
    Ends (!self.tick.1.isOk) self self.tick.2 := by
  obtain ⟨derivationCallback, lastL1Head, watched⟩ := self.watchL1Head_frame
  have first : Settled self self.watchL1Head := by
    rw [watched]
    exact .kept rfl rfl rfl
  have drained := (drainLoop_ends maxBatchesPerTick self.watchL1Head).after (.single first)
  unfold tick
  split <;> rename_i answer <;> rw [answer] at drained <;> exact drained

end Montana.Roles.Validator
