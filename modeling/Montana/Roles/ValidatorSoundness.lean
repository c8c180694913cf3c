import Montana.Common.Reference
import Montana.Roles.ValidatorStep

/-! What the checkpoint and the events of a validator stand for. -/

namespace Montana.Roles

open Vm (Execution Executor)

/-- Every block contained in the batch was executed, and `execute_block` returned `Ok`. -/
def Derivation.Succeeded [BlockJson Block] (compressor : Compressor)
    (derivation : Derivation Block Result) : Prop :=
  payload compressor derivation.batch = some (derivation.executions.map (·.block)) ∧
    ∀ execution ∈ derivation.executions, execution.outcome.isOk = true

namespace Validator

variable {Block Source Exec Result Store Tx : Type}

/-- A batch of this number was recorded as derived. -/
def Derived (self : Validator Block Source Exec Result Store) (batchNumber : Nat) : Prop :=
  ∃ derivation ∈ self.derivations, derivation.batch.batchNumber = batchNumber

/-- The checkpoint and the events name recorded batches. A number that was loaded or
resumed speaks for an earlier life; every other one belongs to a batch of this one. -/
structure Attested (installed : List Nat) (validator : Validator Block Source Exec Result Store) :
    Prop where
  checkpoint : validator.checkpoint.lastBatchDerived ∈ installed ∨
    validator.Derived validator.checkpoint.lastBatchDerived
  events : ∀ events batchNumber, validator.eventTx = some events →
    .batchValidated batchNumber ∈ events → validator.Derived batchNumber

/-- Progress stands for successful executions: the batches named, and every other
batch recorded, were executed completely and each block with `Ok`. -/
structure Sound [BlockJson Block] (installed : List Nat)
    (validator : Validator Block Source Exec Result Store) : Prop
    extends Attested installed validator where
  succeeded : ∀ derivation ∈ validator.derivations, derivation.Succeeded validator.compressor

/-- Every execution belongs to a recorded batch, which contains exactly the blocks executed. -/
structure Recorded [BlockJson Block] (validator : Validator Block Source Exec Result Store) :
    Prop where
  covered : validator.executions = validator.derivations.flatMap (·.executions)
  payloads : ∀ derivation ∈ validator.derivations,
    payload validator.compressor derivation.batch = some (derivation.executions.map (·.block))

private theorem Recorded.sound_iff [BlockJson Block] {self : Validator Block Source Exec Result Store}
    {installed : List Nat} (recorded : self.Recorded) (attested : self.Attested installed) :
    self.Sound installed ↔ ∀ execution ∈ self.executions, execution.outcome.isOk = true := by
  constructor
  · intro sound execution member
    rw [recorded.covered] at member
    obtain ⟨derivation, listed, inside⟩ := List.mem_flatMap.mp member
    exact (sound.succeeded derivation listed).2 execution inside
  · intro succeeded
    refine ⟨attested, fun derivation listed => ?_⟩
    refine ⟨recorded.payloads derivation listed, fun execution inside => succeeded execution ?_⟩
    rw [recorded.covered]
    exact List.mem_flatMap.mpr ⟨derivation, listed, inside⟩

/-- The batch numbers that were not reached by the run itself. -/
def installed (start : Validator Block Source Exec Result Store) (inputs : List Input) : List Nat :=
  start.checkpoint.lastBatchDerived :: inputs.filterMap fun
    | .resume checkpoint => some checkpoint.lastBatchDerived
    | _ => none

section Steps

variable [BlockResponse Block Tx] [BlockJson Block] [L1BatchSource Source]
variable [Executor Exec Block Result] [CheckpointStore Store]

theorem Recorded.step {self next : Validator Block Source Exec Result Store}
    (step : Step self next) (recorded : self.Recorded) : next.Recorded := by
  cases step with
  | watch =>
    obtain ⟨derivationCallback, lastL1Head, same⟩ := watchL1Head_frame self
    rw [same]
    exact ⟨recorded.covered, recorded.payloads⟩
  | idle fetched nothing => exact ⟨recorded.covered, recorded.payloads⟩
  | @process batch batchSource fetched =>
    rcases processBatch_cases { self with batchSource } batch with
      ⟨_, same⟩ | ⟨_, executed, events, _, readable, _, same⟩ <;> rw [same]
    · exact ⟨recorded.covered, recorded.payloads⟩
    · refine ⟨?_, ?_⟩
      · simp [recorded.covered]
      · intro derivation member
        rcases List.mem_append.mp member with old | new
        · exact recorded.payloads derivation old
        · rw [List.mem_singleton.mp new]
          exact readable
  | clock unixSeconds => exact ⟨recorded.covered, recorded.payloads⟩

theorem Recorded.input {self : Validator Block Source Exec Result Store} (input : Input)
    (recorded : self.Recorded) : (self.step input).Recorded := by
  cases input with
  | tick => exact Runs.invariant_steps Recorded (fun _ _ => Recorded.step) self.tick_steps recorded
  | wallClockSet unixSeconds => exact ⟨recorded.covered, recorded.payloads⟩
  | resume checkpoint => exact ⟨recorded.covered, recorded.payloads⟩

theorem Attested.step {self next : Validator Block Source Exec Result Store} {installed : List Nat}
    (step : Step self next) (attested : self.Attested installed) : next.Attested installed := by
  cases step with
  | watch =>
    obtain ⟨derivationCallback, lastL1Head, same⟩ := watchL1Head_frame self
    rw [same]
    exact ⟨attested.checkpoint, attested.events⟩
  | idle fetched nothing => exact ⟨attested.checkpoint, attested.events⟩
  | @process batch batchSource fetched =>
    rcases processBatch_cases { self with batchSource } batch with
      ⟨_, same⟩ | ⟨ahead, executed, events, _, _, validated, same⟩ <;> rw [same]
    · exact ⟨attested.checkpoint, attested.events⟩
    · refine ⟨.inr ⟨⟨batch, executed⟩, by simp, ?_⟩, fun emitted batchNumber attached member => ?_⟩
      · -- the batch is ahead of the checkpoint, which therefore moves to it
        simpa using Nat.le_of_lt ahead
      · obtain ⟨earlier, sender, rfl⟩ := Option.map_eq_some_iff.mp attached
        rcases List.mem_append.mp member with old | new
        · obtain ⟨derivation, listed, number⟩ := attested.events earlier batchNumber sender old
          exact ⟨derivation, List.mem_append_left _ listed, number⟩
        · exact ⟨⟨batch, executed⟩, by simp, (validated batchNumber new).symm⟩
  | clock unixSeconds => exact ⟨attested.checkpoint, attested.events⟩

theorem Attested.input {self : Validator Block Source Exec Result Store} {installed : List Nat}
    (input : Input) (resumed : ∀ checkpoint, input = .resume checkpoint →
      checkpoint.lastBatchDerived ∈ installed)
    (attested : self.Attested installed) : (self.step input).Attested installed := by
  cases input with
  | tick =>
    exact Runs.invariant_steps (Attested installed) (fun _ _ => Attested.step) self.tick_steps attested
  | wallClockSet unixSeconds => exact ⟨attested.checkpoint, attested.events⟩
  | resume checkpoint => exact ⟨.inl (resumed checkpoint rfl), attested.events⟩

/-- What `Validator::new` gives out, with any of its observers attached. -/
inductive Launched : Validator Block Source Exec Result Store → Prop where
  | new {batchSource : Source} {compressor checkpointPath} {executor : Exec} {store : Store}
      {self : Validator Block Source Exec Result Store}
      (made : Validator.new batchSource compressor checkpointPath executor store = .ok self) :
      Launched self
  | withPollInterval {self : Validator Block Source Exec Result Store} (launched : Launched self)
      (ms : Nat) : Launched (self.withPollInterval ms)
  | withEventSender {self : Validator Block Source Exec Result Store} (launched : Launched self) :
      Launched self.withEventSender
  | withDerivationCallback {self : Validator Block Source Exec Result Store}
      (launched : Launched self) : Launched self.withDerivationCallback

omit [BlockResponse Block Tx] [BlockJson Block] [L1BatchSource Source] [Executor Exec Block Result] in
theorem Launched.startingFrom {checkpoint : Checkpoint} {batchSource : Source}
    {compressor : Compressor} {checkpointPath : Option String} {executor : Exec} {store : Store}
    (loaded : Checkpoint.loadOrFresh store checkpointPath = .ok checkpoint) :
    Launched (Validator.startingFrom checkpoint batchSource compressor checkpointPath executor store :
      Validator Block Source Exec Result Store) := by
  have made : (Validator.new batchSource compressor checkpointPath executor store :
      Except CheckpointError (Validator Block Source Exec Result Store)) =
      .ok (Validator.startingFrom checkpoint batchSource compressor checkpointPath executor store) := by
    simp only [Validator.new, loaded]
    rfl
  exact .new made

omit [BlockResponse Block Tx] [BlockJson Block] [L1BatchSource Source] [Executor Exec Block Result] in
theorem Launched.start {self : Validator Block Source Exec Result Store} (launched : self.Launched) :
    self.executions = [] ∧ self.derivations = [] ∧ ∀ events, self.eventTx = some events → events = [] := by
  induction launched with
  | new made =>
    obtain ⟨checkpoint, rfl⟩ := new_startingFrom made
    exact ⟨rfl, rfl, nofun⟩
  | withPollInterval _ ms ih => exact ih
  | withEventSender _ ih => exact ⟨ih.1, ih.2.1, fun events attached => by cases attached; rfl⟩
  | withDerivationCallback _ ih => exact ih

private theorem Launched.recorded_run {start : Validator Block Source Exec Result Store}
    (launched : start.Launched) (inputs : List Input) : (start.run inputs).Recorded := by
  obtain ⟨executions, derivations, _⟩ := launched.start
  have initially : start.Recorded := ⟨by simp [executions, derivations], by simp [derivations]⟩
  exact Runs.invariant_run Recorded inputs (fun _ input _ => Recorded.input input) initially

private theorem Launched.attested_run {start : Validator Block Source Exec Result Store}
    (launched : start.Launched) (inputs : List Input) :
    (start.run inputs).Attested (start.installed inputs) := by
  obtain ⟨_, _, silent⟩ := launched.start
  have initially : start.Attested (start.installed inputs) := by
    refine ⟨.inl List.mem_cons_self, fun events batchNumber attached member => ?_⟩
    rw [silent events attached] at member
    cases member
  refine Runs.invariant_run (Attested (start.installed inputs)) inputs ?_ initially
  intro self input arrives attested
  refine Attested.input input (fun checkpoint resumes => ?_) attested
  exact List.mem_cons_of_mem _ (List.mem_filterMap.mpr ⟨input, arrives, by rw [resumes]⟩)

/-- A validator's progress is sound exactly as long as its executor never answers
with an error: the loop over the blocks goes on whatever the answer is. -/
theorem sound_iff_executions_succeeded {start : Validator Block Source Exec Result Store}
    (launched : start.Launched) (inputs : List Input) :
    (start.run inputs).Sound (start.installed inputs) ↔
      ∀ execution ∈ (start.run inputs).executions, execution.outcome.isOk = true :=
  (launched.recorded_run inputs).sound_iff (launched.attested_run inputs)

end Steps

section Examples

open Reference

/-- A validator that finds one batch of these blocks on L1. -/
def oneBatchAhead (blocks : List UInt8) :
    Validator UInt8 InMemoryBatchQueue (Vm.PersistentExecutor Nat UInt8) Unit Files :=
  (startingFrom .fresh (queueOf [blocks]) noop (some "checkpoint") (refusing 7) ⟨[]⟩).withEventSender

theorem oneBatchAhead_sound :
    ((oneBatchAhead [5, 6]).run [.tick]).Sound ((oneBatchAhead [5, 6]).installed [.tick]) :=
  (sound_iff_executions_succeeded (.withEventSender (.startingFrom rfl)) [.tick]).mpr (by decide)

/-- The executor refuses the second block; the batch is recorded and announced as validated. -/
theorem refused_block_validated :
    (oneBatchAhead [6, 7, 8]).Launched ∧
      ((oneBatchAhead [6, 7, 8]).run [.tick]).checkpoint.lastBatchDerived = 1 ∧
      ((oneBatchAhead [6, 7, 8]).run [.tick]).eventTx = some [.batchDerived 1 3, .batchValidated 1] ∧
      ¬ ((oneBatchAhead [6, 7, 8]).run [.tick]).Sound ((oneBatchAhead [6, 7, 8]).installed [.tick]) := by
  have launched : (oneBatchAhead [6, 7, 8]).Launched := .withEventSender (.startingFrom rfl)
  refine ⟨launched, by decide, by decide, fun sound => ?_⟩
  have recorded := launched.recorded_run [.tick]
  exact absurd ((recorded.sound_iff (launched.attested_run [.tick])).mp sound) (by decide)

end Examples

end Validator

end Montana.Roles
