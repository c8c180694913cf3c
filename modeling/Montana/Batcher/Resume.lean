import Montana.Batcher.Conservation

/-! A driver that resumes from a checkpoint. It takes over which batches were submitted,
but numbers its own from 1 again. -/

namespace Montana.Batcher.DriverRun

open BatchDriver (Input)
open Roles (BatcherConfig)

variable {Store : Type} [CheckpointStore Store]

/-- No batch had a number that counts as submitted when it was built, nor one that was
recorded before the driver resumed. -/
structure Fresh (lastBatchSubmitted : Nat) (sequel : DriverRun Store) : Prop where
  unskipped : sequel.skippable = []
  beyond : ∀ batch ∈ sequel.built, lastBatchSubmitted < batch.batchNumber

/-- Only batches that were built are recorded as submitted. -/
def recordsBuilt (self : DriverRun Store) : Input → Prop
  | .recordBatchSubmitted batchNumber => ∃ batch ∈ self.built, batch.batchNumber = batchNumber
  | _ => True

/-- No batch is due when `build_batch` is called. -/
def notDue (self : DriverRun Store) : Input → Prop
  | .buildBatch => self.driver.shouldSubmit = false
  | _ => True

instance (self : DriverRun Store) (input : Input) : Decidable (self.recordsBuilt input) :=
  match input with
  | .recordBatchSubmitted batchNumber =>
    inferInstanceAs (Decidable (∃ batch ∈ self.built, batch.batchNumber = batchNumber))
  | .addBlocks _ | .buildBatch | .clockAdvanced _ | .wallClockSet _ => .isTrue trivial

instance (self : DriverRun Store) (input : Input) : Decidable (self.notDue input) :=
  match input with
  | .buildBatch => Bool.decEq self.driver.shouldSubmit false
  | .addBlocks _ | .recordBatchSubmitted _ | .clockAdvanced _ | .wallClockSet _ => .isTrue trivial

/-- The books of a driver that resumed: what is recorded was loaded or built since. -/
structure Resumed (config : BatcherConfig) (loaded : Nat) (sequel : DriverRun Store) : Prop
    extends Conserved config sequel where
  recorded : sequel.driver.checkpoint.lastBatchSubmitted ≤ max loaded sequel.built.length

section Books

variable {config : BatcherConfig} {loaded : Nat} {self : DriverRun Store}

omit [CheckpointStore Store] in
private theorem Conserved.number_of_built (conserved : self.Conserved config) {batch : PendingBatch}
    (member : batch ∈ self.built) : 1 ≤ batch.batchNumber ∧ batch.batchNumber ≤ self.built.length := by
  have listed : batch.batchNumber ∈ self.built.map (·.batchNumber) := List.mem_map_of_mem member
  rw [conserved.numbered, List.mem_range'_1] at listed
  omega

omit [CheckpointStore Store] in
/-- The first batch has number 1, which is not fresh once anything was recorded. -/
theorem Conserved.built_of_fresh (conserved : self.Conserved config) (fresh : self.Fresh loaded)
    (some : loaded ≠ 0) : self.built = [] := by
  by_contra filled
  have least : 0 < self.built.length := List.length_pos_iff.mpr filled
  have first : 1 ∈ self.built.map (·.batchNumber) := by
    rw [conserved.numbered, List.mem_range'_1]
    omega
  obtain ⟨batch, member, number⟩ := List.mem_map.mp first
  have beyond := fresh.beyond batch member
  omega

theorem Resumed.step (resumed : self.Resumed config loaded) (input : Input)
    (records : self.recordsBuilt input) : (self.step input).Resumed config loaded := by
  refine ⟨resumed.toConserved.step input, ?_⟩
  have recorded := resumed.recorded
  cases input with
  | buildBatch =>
    simp only [DriverRun.step, DriverRun.buildBatch]
    rcases self.driver.buildBatch_cases with ⟨_, ended⟩ | ⟨_, taken, left, _, _, ended⟩
    · rw [ended]
      exact recorded
    · rw [ended]
      simp only [List.length_append, List.length_singleton]
      omega
  | addBlocks blocks =>
    simp only [DriverRun.step, self.driver.addBlocks_frame blocks]
    exact recorded
  | recordBatchSubmitted batchNumber =>
    obtain ⟨batch, member, same⟩ := records
    have within := (resumed.toConserved.number_of_built member).2
    obtain ⟨store, frame⟩ := self.driver.recordBatchSubmitted_frame batchNumber
    simp only [DriverRun.step, frame, Checkpoint.touch_lastBatchSubmitted,
      Checkpoint.recordBatchSubmitted_lastBatchSubmitted]
    omega
  | clockAdvanced => exact recorded
  | wallClockSet => exact recorded

/-- What a call leaves of freshness is decided where it builds a batch. -/
theorem Fresh.step_iff (resumed : self.Resumed config loaded) (fresh : self.Fresh loaded)
    (input : Input) : (self.step input).Fresh loaded ↔ loaded = 0 ∨ self.notDue input := by
  cases input with
  | buildBatch =>
    have next := resumed.next
    have recorded := resumed.recorded
    rcases self.driver.buildBatch_cases with ⟨early, ended⟩ | ⟨ready, taken, left, _, _, ended⟩
    · simp only [DriverRun.step, DriverRun.buildBatch, ended, notDue, early, or_true, iff_true]
      exact ⟨fresh.unskipped, fresh.beyond⟩
    · simp only [notDue, ready, Bool.true_eq_false, or_false, DriverRun.step, DriverRun.buildBatch, ended]
      constructor
      · intro after
        by_contra some
        have first := resumed.toConserved.built_of_fresh fresh some
        have beyond := after.beyond _ (List.mem_append_right _ (List.mem_singleton_self _))
        simp only [next, first, List.length_nil] at beyond
        omega
      · rintro rfl
        have unskipped : self.driver.shouldSkipBatch self.driver.batchNumber = false := by
          rw [BatchDriver.shouldSkipBatch, ← Bool.not_eq_true, Checkpoint.shouldSkipBatch_iff _ _ (by omega)]
          omega
        refine ⟨?_, ?_⟩
        · simp only [unskipped, Bool.false_eq_true, if_false]
          exact fresh.unskipped
        · refine List.forall_mem_append.mpr ⟨fresh.beyond, List.forall_mem_singleton.mpr ?_⟩
          simp only []
          omega
  | addBlocks =>
    exact iff_of_true ⟨fresh.unskipped, fresh.beyond⟩ (.inr trivial)
  | recordBatchSubmitted =>
    exact iff_of_true ⟨fresh.unskipped, fresh.beyond⟩ (.inr trivial)
  | clockAdvanced =>
    exact iff_of_true ⟨fresh.unskipped, fresh.beyond⟩ (.inr trivial)
  | wallClockSet =>
    exact iff_of_true ⟨fresh.unskipped, fresh.beyond⟩ (.inr trivial)

end Books

/-- A driver that loaded a checkpoint builds batches with fresh numbers only, exactly if
nothing was recorded in it or no batch is ever built. -/
theorem fresh_iff_nothing_recorded {config : BatcherConfig} {store : Store} {now : Nat} {path : String}
    {driver : BatchDriver Store}
    (loaded : (BatchDriver.new config store now).withCheckpoint path = .ok driver) (inputs : List Input)
    (records : Runs.Guarded step recordsBuilt (start driver) inputs) :
    (∀ count, ((start driver).run (inputs.take count)).Fresh driver.checkpoint.lastBatchSubmitted) ↔
      driver.checkpoint.lastBatchSubmitted = 0 ∨ Runs.Guarded step notDue (start driver) inputs := by
  have conserved := conserved_start (.withCheckpoint (.new config store now) loaded)
  have resumed : (start driver).Resumed driver.config driver.checkpoint.lastBatchSubmitted :=
    ⟨conserved, Nat.le_max_left _ _⟩
  have decided := Runs.guarded_iff_invariant_known
    (Resumed driver.config driver.checkpoint.lastBatchSubmitted) (Fresh driver.checkpoint.lastBatchSubmitted)
    (fun _ input records known => known.step input records)
    (fun _ input _ known fresh => fresh.step_iff known input) inputs records resumed ⟨rfl, nofun⟩
  exact decided.trans (Runs.guarded_or_const _ inputs _)

section Examples

open Reference

/-- A disk on which the batches up to this number are recorded as submitted. -/
def submittedUpTo (lastBatchSubmitted : Nat) : Files :=
  .mk [("checkpoint.json", { lastBatchSubmitted })]

/-- The driver that `with_checkpoint` makes there. -/
def resumedDriver (lastBatchSubmitted : Nat) : BatchDriver Files :=
  { BatchDriver.new { minBatchSize := 10 } (submittedUpTo lastBatchSubmitted) 0 with
    checkpoint := { lastBatchSubmitted }
    checkpointPath := some "checkpoint.json" }

/-- Each batch is recorded before the next one is built. -/
def twoRecorded : List Input :=
  [.addBlocks [block 12], .buildBatch, .recordBatchSubmitted 1, .addBlocks [block 13], .buildBatch,
   .recordBatchSubmitted 2]

private theorem resumedDriver_loaded (lastBatchSubmitted : Nat) :
    (BatchDriver.new { minBatchSize := 10 } (submittedUpTo lastBatchSubmitted) 0).withCheckpoint
      "checkpoint.json" = .ok (resumedDriver lastBatchSubmitted) := rfl

/-- Three batches were submitted before the restart, and the first one after it is number 1,
which counts as submitted. -/
theorem first_batch_skippable :
    (BatchDriver.new { minBatchSize := 10 } (submittedUpTo 3) 0).withCheckpoint "checkpoint.json" =
        .ok (resumedDriver 3) ∧
      Runs.Guarded step recordsBuilt (start (resumedDriver 3)) twoRecorded ∧
      ¬ ((start (resumedDriver 3)).run (twoRecorded.take 2)).Fresh 3 := by
  refine ⟨rfl, by decide, fun fresh => ?_⟩
  exact absurd fresh.unskipped (by decide)

theorem fresh_from_zero : ((start (resumedDriver 0)).run twoRecorded).Fresh 0 :=
  (fresh_iff_nothing_recorded (resumedDriver_loaded 0) twoRecorded (by decide)).mpr (.inl rfl) 6

end Examples

end Montana.Batcher.DriverRun
