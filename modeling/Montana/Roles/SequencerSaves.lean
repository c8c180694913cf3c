import Montana.Roles.SequencerNumbers

/-! A tick up to the submission at which it fails, if it does: before that one no save failed. -/

namespace Montana.Roles

def TickOutcome.isFailed : TickOutcome → Bool
  | .failed _ => true
  | _ => false

namespace Sequencer

open Relation (ReflTransGen)

variable {Block Sink Store Tx : Type}

theorem Undisturbed.refl (self : Sequencer Block Sink Store) : self.Undisturbed self :=
  ⟨rfl, rfl, rfl, rfl, rfl, rfl, List.Subset.refl _⟩

theorem Undisturbed.trans {first second third : Sequencer Block Sink Store}
    (left : first.Undisturbed second) (right : second.Undisturbed third) : first.Undisturbed third where
  batchSink := right.batchSink.trans left.batchSink
  checkpoint := right.checkpoint.trans left.checkpoint
  checkpointPath := right.checkpointPath.trans left.checkpointPath
  store := right.store.trans left.store
  nextSubmissionNumber := right.nextSubmissionNumber.trans left.nextSubmissionNumber
  submissions := right.submissions.trans left.submissions
  faults := fun _ member => right.faults (left.faults member)

section Undisturbed

variable [BlockResponse Block Tx] [BlockJson Block]

private theorem interfere_undisturbed (self : Sequencer Block Sink Store) :
    self.Undisturbed self.interfere := by
  refine interfere_invariant (self.Undisturbed ·) ?_ ?_ (.refl self)
  · intro reached event same
    exact same.trans (apply_undisturbed reached event)
  · intro reached schedule same
    exact same.trans ⟨rfl, rfl, rfl, rfl, rfl, rfl, List.Subset.refl _⟩

private theorem collectPreparedBatches_undisturbed (self : Sequencer Block Sink Store) :
    self.Undisturbed self.collectPreparedBatches := by
  have looped (fuel : Nat) (self : Sequencer Block Sink Store) :
      self.Undisturbed (collectLoop fuel self) := by
    induction fuel generalizing self with
    | zero => exact .refl _
    | succ fuel ih =>
      refine (interfere_undisturbed self).trans ?_
      unfold collectLoop
      simp only []
      split
      · rename_i result rest _
        have collected : self.interfere.Undisturbed
            (collectResult { self.interfere with preparedRx := rest } result) := by
          cases result <;> exact ⟨rfl, rfl, rfl, rfl, rfl, rfl, List.Subset.refl _⟩
        exact collected.trans (ih _)
      · exact .refl _
      · exact .refl _
  exact looped _ self

private theorem accumulateBlocks_undisturbed (self : Sequencer Block Sink Store) :
    self.Undisturbed self.accumulateBlocks.2.2 := by
  have looped (dynamicMax fuel : Nat) (self : Sequencer Block Sink Store) :
      self.Undisturbed (accumulateLoop dynamicMax fuel self).2.2 := by
    induction fuel generalizing self with
    | zero => exact .refl _
    | succ fuel ih =>
      refine (interfere_undisturbed self).trans ?_
      unfold accumulateLoop
      simp only []
      split
      · rename_i block rest _
        have accumulated : self.interfere.Undisturbed
            (accumulateBlock { self.interfere with blockRx := rest } block) :=
          ⟨rfl, rfl, rfl, rfl, rfl, rfl, List.Subset.refl _⟩
        split
        · exact accumulated
        · exact accumulated.trans (ih _)
      · exact .refl _
      · exact .refl _
  exact (interfere_undisturbed self).trans (looped _ _ _)

private theorem cutBatch_undisturbed (self : Sequencer Block Sink Store) (count : Nat) :
    self.Undisturbed (self.cutBatch count) := ⟨rfl, rfl, rfl, rfl, rfl, rfl, List.Subset.refl _⟩

private theorem spawnWorkers_undisturbed (self : Sequencer Block Sink Store) :
    self.Undisturbed self.spawnWorkers.2 := by
  have looped (slots : Nat) (self : Sequencer Block Sink Store) :
      self.Undisturbed (spawnCatchUp slots self).2 := by
    induction slots generalizing self with
    | zero => exact .refl _
    | succ slots ih =>
      unfold spawnCatchUp
      split
      · exact .refl _
      · refine (interfere_undisturbed self).trans ?_
        simp only []
        split
        · exact .refl _
        · exact (cutBatch_undisturbed self.interfere _).trans (ih _)
  unfold spawnWorkers
  simp only []
  split
  · refine (interfere_undisturbed self).trans ?_
    split
    · exact looped _ _
    · refine (interfere_undisturbed _).trans ?_
      split
      · exact cutBatch_undisturbed _ _
      · exact .refl _
  · exact .refl _

private theorem cutRemaining_undisturbed (self : Sequencer Block Sink Store) :
    self.Undisturbed self.cutRemaining := by
  unfold cutRemaining
  split
  · exact .refl _
  · exact cutBatch_undisturbed _ _

end Undisturbed

section Submissions

variable [BlockResponse Block Tx] [BlockJson Block] [BatchSink Sink] [CheckpointStore Store]

/-- The actions of a tick that does not fail: the batch next in line is submitted with
success, or nothing is submitted. -/
inductive Settled : Sequencer Block Sink Store → Sequencer Block Sink Store → Prop where
  | undisturbed {before after : Sequencer Block Sink Store} (same : before.Undisturbed after) :
      Settled before after
  | submitted {before after : Sequencer Block Sink Store} {prepared : PreparedBatch}
      (next : prepared.batchNumber = before.nextSubmissionNumber)
      (succeeded : before.submitPreparedBatch prepared = (.ok (), after)) : Settled before after

/-- The submission of the batch next in line failed. -/
def Refused (before after : Sequencer Block Sink Store) : Prop :=
  ∃ prepared e, prepared.batchNumber = before.nextSubmissionNumber ∧
    before.submitPreparedBatch prepared = (.error e, after)

/-- All went well up to the end, or up to a submission that failed. -/
def Ends (failed : Bool) (before after : Sequencer Block Sink Store) : Prop :=
  ∃ middle, ReflTransGen Settled before middle ∧ if failed then Refused middle after else middle = after

omit [BlockResponse Block Tx] [BlockJson Block] in
theorem Ends.after {failed : Bool} {before middle after : Sequencer Block Sink Store}
    (first : ReflTransGen Settled before middle) (rest : Ends failed middle after) :
    Ends failed before after := by
  obtain ⟨last, settled, finish⟩ := rest
  exact ⟨last, first.trans settled, finish⟩

omit [BlockResponse Block Tx] [BlockJson Block] in
theorem Ends.settled {before after : Sequencer Block Sink Store}
    (ends : Ends false before after) : ReflTransGen Settled before after := by
  obtain ⟨middle, settled, rfl⟩ := ends
  exact settled

private theorem submitReadyBatches_ends (self : Sequencer Block Sink Store) :
    Ends (!self.submitReadyBatches.1.isOk) self self.submitReadyBatches.2 := by
  have looped (fuel : Nat) (self : Sequencer Block Sink Store) :
      Ends (!(submitLoop fuel self).1.isOk) self (submitLoop fuel self).2 := by
    induction fuel generalizing self with
    | zero => exact ⟨self, .refl, rfl⟩
    | succ fuel ih =>
      unfold submitLoop
      split
      · exact ⟨self, .refl, rfl⟩
      · rename_i prepared shown
        split
        · exact ⟨self, .refl, rfl⟩
        · rename_i following
          have popped : self.Undisturbed
              { self.interfere with readyBatches := self.interfere.readyBatches.pop } :=
            (interfere_undisturbed self).trans ⟨rfl, rfl, rfl, rfl, rfl, rfl, List.Subset.refl _⟩
          have next : prepared.batchNumber =
              { self.interfere with readyBatches := self.interfere.readyBatches.pop }.nextSubmissionNumber := by
            rw [popped.nextSubmissionNumber]
            exact not_not.mp following
          have first : Settled self { self.interfere with readyBatches := self.interfere.readyBatches.pop } :=
            .undisturbed popped
          simp only []
          split
          · rename_i e after failed
            exact ⟨_, .single first, prepared, e, next, failed⟩
          · rename_i after succeeded
            have both : ReflTransGen Settled self after := .tail (.single first) (.submitted next succeeded)
            have rest := ih after
            split <;> rename_i looped <;> rw [looped] at rest <;> exact rest.after both
  exact looped _ self

private theorem flush_ends (rounds : Nat) (self : Sequencer Block Sink Store) :
    Ends ((flush rounds self).1.isFailed) self (flush rounds self).2 := by
  induction rounds generalizing self with
  | zero =>
    unfold flush
    split <;> exact ⟨self, .refl, rfl⟩
  | succ rounds ih =>
    unfold flush
    split
    · have collected : ReflTransGen Settled self self.collectPreparedBatches :=
        .single (.undisturbed (collectPreparedBatches_undisturbed self))
      have submitted := (submitReadyBatches_ends self.collectPreparedBatches).after collected
      split <;> rename_i answer <;> rw [answer] at submitted
      · exact submitted
      · rename_i count after
        split
        · have waited : Settled after after.interfere := .undisturbed (interfere_undisturbed after)
          exact (ih _).after (submitted.settled.tail waited)
        · exact (ih _).after submitted.settled
    · exact ⟨self, .refl, rfl⟩

/-- A tick that does not fail submitted and saved all it tried to. -/
theorem tick_ends (self : Sequencer Block Sink Store) (rounds : Nat) :
    Ends ((tick self rounds).1.isFailed) self (tick self rounds).2 := by
  have collected : ReflTransGen Settled self self.collectPreparedBatches :=
    .single (.undisturbed (collectPreparedBatches_undisturbed self))
  have submitted := (submitReadyBatches_ends self.collectPreparedBatches).after collected
  unfold tick
  split <;> rename_i answer <;> rw [answer] at submitted
  · exact submitted
  · rename_i count after
    have spawned := (accumulateBlocks_undisturbed after).trans
      (spawnWorkers_undisturbed after.accumulateBlocks.2.2)
    have filled := submitted.settled.tail (.undisturbed spawned)
    simp only []
    split
    · exact (flush_ends _ _).after (filled.tail (.undisturbed (cutRemaining_undisturbed _)))
    · split <;> exact ⟨_, filled, rfl⟩

/-- The checkpoint that is saved behind a submission. -/
def written (self : Sequencer Block Sink Store) (batchNumber : Nat) : Checkpoint :=
  (self.checkpoint.recordBatchSubmitted batchNumber).touch self.wallClock

omit [BlockResponse Block Tx] [BlockJson Block] [BatchSink Sink] in
private theorem saveCheckpoint_saved {self after : Sequencer Block Sink Store} {result}
    (saved : self.saveCheckpoint = (result, after)) : ∃ store, after = { self with store } ∧
      Checkpoint.saveIfEnabled self.store self.checkpointPath self.checkpoint = (result, store) := by
  unfold saveCheckpoint at saved
  cases answer : Checkpoint.saveIfEnabled self.store self.checkpointPath self.checkpoint with
  | mk other store =>
    rw [answer] at saved
    cases saved
    exact ⟨store, rfl, rfl⟩

omit [BlockResponse Block Tx] [BlockJson Block] in
/-- A submission that succeeds was skipped, or it was saved. -/
theorem submitPreparedBatch_ok {self after : Sequencer Block Sink Store} {prepared : PreparedBatch}
    (succeeded : self.submitPreparedBatch prepared = (.ok (), after)) :
    after.checkpointPath = self.checkpointPath ∧
      after.nextSubmissionNumber = self.nextSubmissionNumber + 1 ∧
      ((after.checkpoint = self.checkpoint ∧ after.store = self.store) ∨
        self.checkpoint.shouldSkipBatch prepared.batchNumber = false ∧
          after.checkpoint = self.written prepared.batchNumber ∧
          Checkpoint.saveIfEnabled self.store self.checkpointPath (self.written prepared.batchNumber) =
            (.ok (), after.store)) := by
  unfold submitPreparedBatch at succeeded
  simp only [] at succeeded
  split at succeeded
  · cases succeeded
    exact ⟨rfl, rfl, .inl ⟨rfl, rfl⟩⟩
  · rename_i submits
    split at succeeded
    · cases succeeded
    · split at succeeded <;> rename_i saved
      · cases succeeded
      · obtain ⟨store, rfl, saving⟩ := saveCheckpoint_saved saved
        cases succeeded
        exact ⟨rfl, rfl, .inr ⟨Bool.eq_false_iff.mpr submits, rfl, saving⟩⟩

omit [BlockResponse Block Tx] [BlockJson Block] in
/-- A submission that fails saved nothing. -/
theorem submitPreparedBatch_error {self after : Sequencer Block Sink Store} {prepared : PreparedBatch}
    {e : TickError} (failed : self.submitPreparedBatch prepared = (.error e, after)) :
    after.store = self.store ∨ ∃ checkpoint error,
      Checkpoint.saveIfEnabled self.store self.checkpointPath checkpoint = (.error error, after.store) := by
  unfold submitPreparedBatch at failed
  simp only [] at failed
  split at failed
  · cases failed
  · split at failed
    · cases failed
      exact .inl rfl
    · split at failed <;> rename_i saved
      · obtain ⟨store, rfl, saving⟩ := saveCheckpoint_saved saved
        cases failed
        exact .inr ⟨_, _, saving⟩
      · cases failed

end Submissions

end Sequencer

end Montana.Roles
