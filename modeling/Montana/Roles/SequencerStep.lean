import Mathlib.Logic.Relation
import Montana.Lib.Runs
import Montana.Roles.Sequencer

/-! Everything a tick does, as a sequence of atomic actions. -/

namespace Montana.Roles.Sequencer

open Relation (ReflTransGen)

variable {Block Sink Store Tx : Type}
variable [BlockResponse Block Tx] [BlockJson Block] [BatchSink Sink] [CheckpointStore Store]

/-- The atomic actions of the sequencer and of the process around it. -/
inductive Step : Sequencer Block Sink Store → Sequencer Block Sink Store → Prop where
  | environment (self : Sequencer Block Sink Store) (event : Interference Block) :
      Step self (self.apply event)
  | reschedule (self : Sequencer Block Sink Store) (schedule : List (List (Interference Block))) :
      Step self { self with schedule }
  | collect {self : Sequencer Block Sink Store} {result rest}
      (arrived : self.preparedRx.tryRecv = .ok result rest) :
      Step self (collectResult { self with preparedRx := rest } result)
  | submit {self : Sequencer Block Sink Store} {prepared : PreparedBatch}
      (shown : self.readyBatches.peek = some prepared)
      (next : prepared.batchNumber = self.nextSubmissionNumber) :
      Step self (submitPreparedBatch
        { self with readyBatches := self.readyBatches.pop } prepared).2
  | accumulate {self : Sequencer Block Sink Store} {block : Block} {rest}
      (arrived : self.blockRx.tryRecv = .ok block rest) :
      Step self (accumulateBlock { self with blockRx := rest } block)
  | cut (self : Sequencer Block Sink Store) (count : Nat) : Step self (self.cutBatch count)

abbrev Steps : Sequencer Block Sink Store → Sequencer Block Sink Store → Prop := ReflTransGen Step

private theorem applyAll_steps (burst : List (Interference Block)) (self : Sequencer Block Sink Store) :
    Steps self (burst.foldl apply self) := by
  induction burst generalizing self with
  | nil => exact .refl
  | cons event rest ih => exact .head (.environment self event) (ih _)

private theorem interfere_steps (self : Sequencer Block Sink Store) : Steps self self.interfere := by
  unfold interfere
  split
  · exact .refl
  · exact .head (.reschedule self _) (applyAll_steps _ _)

omit [BatchSink Sink] [CheckpointStore Store] in
/-- What every single event keeps is kept by all that happens before a read. -/
theorem interfere_invariant (Holds : Sequencer Block Sink Store → Prop)
    (applied : ∀ self event, Holds self → Holds (self.apply event))
    (rescheduled : ∀ self schedule, Holds self → Holds { self with schedule })
    {self : Sequencer Block Sink Store} (holds : Holds self) : Holds self.interfere := by
  unfold interfere
  split
  · exact holds
  · rename_i burst rest _
    exact Runs.invariant_run Holds burst (fun reached event _ kept => applied reached event kept)
      (rescheduled self rest holds)

omit [BatchSink Sink] [CheckpointStore Store] in
private theorem interfere_ready (self : Sequencer Block Sink Store) :
    self.interfere.readyBatches = self.readyBatches ∧
      self.interfere.nextSubmissionNumber = self.nextSubmissionNumber := by
  refine interfere_invariant (fun reached => reached.readyBatches = self.readyBatches ∧
    reached.nextSubmissionNumber = self.nextSubmissionNumber) ?_ (fun _ _ same => same) ⟨rfl, rfl⟩
  intro reached event same
  unfold apply
  repeat' split
  all_goals exact same

private theorem collectLoop_steps (fuel : Nat) (self : Sequencer Block Sink Store) :
    Steps self (collectLoop fuel self) := by
  induction fuel generalizing self with
  | zero => exact .refl
  | succ fuel ih =>
    refine (interfere_steps self).trans ?_
    unfold collectLoop
    simp only []
    split
    · rename_i arrived
      exact .head (.collect arrived) (ih _)
    · exact .refl
    · exact .refl

theorem collectPreparedBatches_steps (self : Sequencer Block Sink Store) :
    Steps self self.collectPreparedBatches := collectLoop_steps _ self

private theorem submitLoop_steps (fuel : Nat) (self : Sequencer Block Sink Store) :
    Steps self (submitLoop fuel self).2 := by
  induction fuel generalizing self with
  | zero => exact .refl
  | succ fuel ih =>
    unfold submitLoop
    split
    · exact .refl
    · rename_i prepared shown
      split
      · exact .refl
      · rename_i next
        have kept := interfere_ready self
        have submitted : Step self.interfere (submitPreparedBatch
            { self.interfere with readyBatches := self.interfere.readyBatches.pop } prepared).2 :=
          .submit (by rw [kept.1]; exact shown) (by rw [kept.2]; exact not_not.mp next)
        have reached := (interfere_steps self).tail submitted
        simp only []
        split
        · rename_i failed
          simpa only [failed] using reached
        · rename_i after succeeded
          have rest := ih after
          rw [succeeded] at reached
          split <;> rename_i looped <;> rw [looped] at rest <;> exact reached.trans rest

theorem submitReadyBatches_steps (self : Sequencer Block Sink Store) :
    Steps self self.submitReadyBatches.2 := submitLoop_steps _ self

private theorem accumulateLoop_steps (dynamicMax fuel : Nat) (self : Sequencer Block Sink Store) :
    Steps self (accumulateLoop dynamicMax fuel self).2.2 := by
  induction fuel generalizing self with
  | zero => exact .refl
  | succ fuel ih =>
    refine (interfere_steps self).trans ?_
    unfold accumulateLoop
    simp only []
    split
    · rename_i arrived
      have taken := Step.accumulate arrived
      split
      · exact .single taken
      · exact .head taken (ih _)
    · exact .refl
    · exact .refl

theorem accumulateBlocks_steps (self : Sequencer Block Sink Store) :
    Steps self self.accumulateBlocks.2.2 :=
  (interfere_steps self).trans (accumulateLoop_steps _ _ _)

private theorem spawnCatchUp_steps (slots : Nat) (self : Sequencer Block Sink Store) :
    Steps self (spawnCatchUp slots self).2 := by
  induction slots generalizing self with
  | zero => exact .refl
  | succ slots ih =>
    unfold spawnCatchUp
    split
    · exact .refl
    · refine (interfere_steps self).trans ?_
      simp only []
      split
      · exact .refl
      · exact .head (.cut _ _) (ih _)

theorem spawnWorkers_steps (self : Sequencer Block Sink Store) :
    Steps self self.spawnWorkers.2 := by
  unfold spawnWorkers
  simp only []
  split
  · refine (interfere_steps self).trans ?_
    split
    · exact spawnCatchUp_steps _ _
    · refine (interfere_steps _).trans ?_
      split
      · exact .single (.cut _ _)
      · exact .refl
  · exact .refl

theorem cutRemaining_steps (self : Sequencer Block Sink Store) : Steps self self.cutRemaining := by
  unfold cutRemaining
  split
  · exact .refl
  · exact .single (.cut _ _)

private theorem flush_steps (rounds : Nat) (self : Sequencer Block Sink Store) :
    Steps self (flush rounds self).2 := by
  induction rounds generalizing self with
  | zero =>
    unfold flush
    split <;> exact .refl
  | succ rounds ih =>
    unfold flush
    split
    · have collected := (collectPreparedBatches_steps self).trans
        (submitReadyBatches_steps self.collectPreparedBatches)
      split <;> rename_i submitted <;> rw [submitted] at collected
      · exact collected
      · split
        · exact (collected.trans (interfere_steps _)).trans (ih _)
        · exact collected.trans (ih _)
    · exact .refl

theorem tick_steps (self : Sequencer Block Sink Store) (rounds : Nat) :
    Steps self (tick self rounds).2 := by
  have collected := (collectPreparedBatches_steps self).trans
    (submitReadyBatches_steps self.collectPreparedBatches)
  unfold tick
  split <;> rename_i submitted <;> rw [submitted] at collected
  · exact collected
  · have filled := (collected.trans (accumulateBlocks_steps _)).trans (spawnWorkers_steps _)
    simp only []
    split
    · exact (filled.trans (cutRemaining_steps _)).trans (flush_steps _ _)
    · split <;> exact filled

/-- Every input other than `resume` is a sequence of atomic actions. -/
theorem step_steps (self : Sequencer Block Sink Store) (input : Input Block)
    (kept : ∀ checkpoint, input ≠ .resume checkpoint) : Steps self (self.step input) := by
  cases input with
  | environment event => exact .single (.environment self event)
  | tick schedule rounds => exact .head (.reschedule self schedule) (tick_steps _ _)
  | resume checkpoint => exact absurd rfl (kept checkpoint)

end Montana.Roles.Sequencer
