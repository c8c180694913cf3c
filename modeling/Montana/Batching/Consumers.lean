import Montana.Batching.Conservation
import Montana.Derivation.NoGap
import Montana.Roles.ValidatorSoundness

/-! What the two consumers make of the batches that the runner emits. The first
batch has number 0, which for one of them means nothing was derived yet. -/

namespace Montana.Batching

open Roles Vm
open Montana.Derivation

variable {Block Source Sink Exec Result Store Tx Inbox Evm State File : Type}

/-- The batches that the sink took since the start. -/
def RunLoop.emitted (start : BatchSubmissionRunner Source Sink) (loop : RunLoop Block Source Sink) :
    List CompressedBatch :=
  (loop.runner.submissions.drop start.submissions.length).filterMap fun (batch, answer) =>
    if answer.isOk then some batch else none

section Emitted

variable [BlockResponse Block Tx] [BlockJson Block]
variable {start : BatchSubmissionRunner Source Sink} {startBlock : Nat}

/-- Without failures every attempt hands over a batch that the sink takes. -/
theorem emitted_handed {loop : RunLoop Block Source Sink} (ledger : loop.Ledger start startBlock)
    (clean : loop.NoFailure start) :
    loop.emitted start = loop.attempts.filterMap (RunLoop.handedBatch start.compressor) := by
  have taken := ledger.noFailure_iff.mp clean
  have emitted : loop.emitted start =
      ((loop.runner.submissions.drop start.submissions.length).map
        fun entry => (entry.1, entry.2.isOk)).filterMap
          fun (batch, ok) => if ok = true then some batch else none := by
    rw [List.filterMap_map]
    rfl
  rw [emitted, ledger.answers, List.filterMap_filterMap]
  refine List.filterMap_congr fun attempt member => ?_
  obtain ⟨batch, handed⟩ := Option.isSome_iff_exists.mp (clean.packed attempt member)
  simp [RunLoop.handedOver, handed, taken attempt member]

/-- Without failures the batches emitted are numbered 0, 1, 2, … -/
theorem emitted_numbers {loop : RunLoop Block Source Sink} (ledger : loop.Ledger start startBlock)
    (clean : loop.NoFailure start) :
    (loop.emitted start).map (·.batchNumber) = List.range (loop.emitted start).length := by
  have numbers : (loop.emitted start).map (·.batchNumber) = loop.attempts.map (·.batchNumber) := by
    rw [emitted_handed ledger clean, List.map_filterMap, ← List.filterMap_eq_map]
    refine List.filterMap_congr fun attempt member => ?_
    obtain ⟨batch, handed⟩ := Option.isSome_iff_exists.mp (clean.packed attempt member)
    simp [handed, RunLoop.handedBatch_number handed]
  have length := congrArg List.length numbers
  rw [List.length_map, List.length_map] at length
  rw [numbers, ledger.numbered, length]

end Emitted

/-- What a consumer has received of these batches, by what its source has yet to give out. -/
def received [L1BatchSource Source] [OrderedSource Source] (emitted : List CompressedBatch)
    (source : Source) : List CompressedBatch :=
  emitted.take (emitted.length - (OrderedSource.remaining source).length)

private theorem received_eq [L1BatchSource Source] [OrderedSource Source]
    {emitted taken : List CompressedBatch}
    {source : Source} (all : emitted = taken ++ OrderedSource.remaining source) :
    received emitted source = taken := by
  simp [received, all]

section Consumers

variable [BlockJson Block] [L1BatchSource Source] [OrderedSource Source] [Executor Exec Block Result]

/-- A validator on the way through these batches, which never derives a batch of number 0. -/
structure Validating (emitted : List CompressedBatch)
    (validator : Validator Block Source Exec Result Store) : Prop where
  order : ∃ taken, emitted = taken ++ OrderedSource.remaining validator.batchSource ∧
    (validator.derivations.map (·.batch)).Sublist taken
  positive : ∀ derivation ∈ validator.derivations, 0 < derivation.batch.batchNumber
  recorded : validator.Recorded

/-- A derivation runner on the way through batches numbered 0, 1, 2, …: it attempted
each of those it took. -/
structure Deriving (emitted : List CompressedBatch)
    (runner : DerivationRunner Block Source Exec Result Store) : Prop where
  order : emitted = runner.delivered ++ OrderedSource.remaining runner.source
  attempted : runner.attempts.map (·.batch) = runner.delivered
  below : runner.checkpoint.lastBatchDerived ≤ runner.delivered.length - 1

end Consumers

section Steps

variable [BlockResponse Block Tx] [BlockJson Block] [L1BatchSource Source] [OrderedSource Source]
variable [Executor Exec Block Result] [CheckpointStore Store]

theorem Validating.step {emitted : List CompressedBatch}
    {self next : Validator Block Source Exec Result Store} (step : Validator.Step self next)
    (validating : Validating emitted self) : Validating emitted next := by
  have recorded := validating.recorded.step step
  obtain ⟨⟨taken, all, derived⟩, positive, _⟩ := validating
  cases step with
  | watch =>
    obtain ⟨derivationCallback, lastL1Head, same⟩ := Validator.watchL1Head_frame self
    rw [same] at recorded ⊢
    exact ⟨⟨taken, all, derived⟩, positive, recorded⟩
  | @idle answer batchSource fetched nothing =>
    refine ⟨⟨taken, ?_, derived⟩, positive, recorded⟩
    rwa [OrderedSource.waits _ _ _ fetched nothing]
  | @process batch batchSource fetched =>
    rw [OrderedSource.delivers _ _ _ fetched] at all
    have all : emitted = (taken ++ [batch]) ++ OrderedSource.remaining batchSource := by
      simpa using all
    rcases Validator.processBatch_cases { self with batchSource } batch with
      ⟨_, same⟩ | ⟨ahead, executed, events, _, _, _, same⟩ <;> rw [same] at recorded ⊢
    · exact ⟨⟨taken ++ [batch], all, derived.trans (List.sublist_append_left _ _)⟩, positive, recorded⟩
    · refine ⟨⟨taken ++ [batch], all, ?_⟩, ?_, recorded⟩
      · rw [List.map_append]
        exact derived.append (List.Sublist.refl _)
      · intro derivation member
        rcases List.mem_append.mp member with old | new
        · exact positive derivation old
        · rw [List.mem_singleton.mp new]
          exact Nat.zero_lt_of_lt ahead
  | clock unixSeconds => exact ⟨⟨taken, all, derived⟩, positive, recorded⟩

theorem Validating.input {emitted : List CompressedBatch}
    {self : Validator Block Source Exec Result Store} {input : Validator.Input}
    (kept : ∀ checkpoint, input ≠ .resume checkpoint) (validating : Validating emitted self) :
    Validating emitted (self.step input) :=
  Runs.invariant_steps (Validating emitted) (fun _ _ => Validating.step)
    (Validator.step_steps self input kept) validating

theorem Deriving.tick {emitted : List CompressedBatch}
    {self : DerivationRunner Block Source Exec Result Store}
    (numbers : emitted.map (·.batchNumber) = List.range emitted.length)
    (progress : Deriving emitted self) : Deriving emitted self.tick.2 := by
  unfold DerivationRunner.tick
  split
  · exact progress
  · obtain ⟨order, attempted, below⟩ := progress
    split
    · rename_i batch source fetched
      rw [OrderedSource.delivers _ _ _ fetched] at order
      have number : batch.batchNumber = self.delivered.length := by
        have here := congrArg (·[self.delivered.length]?) numbers
        simpa [order] using here
      obtain ⟨delivered, same, outcome⟩ := DerivationRunner.deriveBatch_cases
        { self with source, delivered := self.delivered ++ [batch] } batch self.clock
      rcases outcome with skips | ⟨attempt, rfl, step⟩
      · -- the checkpoint is 0 before the first batch and below every later one
        obtain ⟨some, behind⟩ := (DerivationRunner.shouldSkipBatch_iff _ _).mp skips
        rw [number] at behind
        simp only [] at some behind
        omega
      · refine ⟨?_, ?_, ?_⟩
        · rw [delivered, same, order]
          simp
        · rw [step.attempts, delivered]
          simp [attempted]
        · rw [step.derived, delivered, number, List.length_append, List.length_singleton]
          simp only []
          split <;> omega
    · rename_i fetched
      exact ⟨by rwa [OrderedSource.waits _ _ _ fetched nofun], attempted, below⟩
    · rename_i fetched
      exact ⟨by rwa [OrderedSource.waits _ _ _ fetched nofun], attempted, below⟩

theorem Deriving.input {emitted : List CompressedBatch}
    {self : DerivationRunner Block Source Exec Result Store} (input : DerivationRunner.Input)
    (numbers : emitted.map (·.batchNumber) = List.range emitted.length)
    (progress : Deriving emitted self) : Deriving emitted (self.step input) := by
  cases input with
  | tick => exact progress.tick numbers
  | pause => exact { progress with }
  | resume => exact { progress with }
  | togglePause => exact { progress with }
  | recordSubmission batchNumber submitTime => exact { progress with }
  | recordBatchBlockCount batchNumber blockCount => exact { progress with }
  | clockAdvanced elapsed => exact { progress with }
  | wallClockSet unixSeconds => exact { progress with }

end Steps

/-- Both consumers execute every batch that they receive, and the same blocks once they
have received the same batches. -/
structure DerivedByBoth [L1BatchSource Inbox] [OrderedSource Inbox] [L1BatchSource Source]
    [OrderedSource Source] (emitted : List CompressedBatch)
    (validator : Validator Block Inbox Evm State File)
    (deriver : DerivationRunner Block Source Exec Result Store) : Prop where
  validated : ∀ batch ∈ received emitted validator.batchSource,
    batch ∈ validator.derivations.map (·.batch)
  derived : ∀ batch ∈ received emitted deriver.source, batch ∈ deriver.attempts.map (·.batch)
  same : received emitted validator.batchSource = received emitted deriver.source →
    validator.executions.map (·.block) = (deriver.attempts.flatMap (·.executions)).map (·.block)

private theorem Validating.derivedByBoth_iff [BlockJson Block] [L1BatchSource Inbox] [OrderedSource Inbox]
    [L1BatchSource Source] [OrderedSource Source] {emitted : List CompressedBatch}
    {validator : Validator Block Inbox Evm State File}
    {deriver : DerivationRunner Block Source Exec Result Store}
    (numbers : emitted.map (·.batchNumber) = List.range emitted.length)
    (validating : Validating emitted validator) (progress : Deriving emitted deriver) :
    DerivedByBoth emitted validator deriver ↔ received emitted validator.batchSource = [] := by
  obtain ⟨⟨taken, all, derived⟩, positive, recorded⟩ := validating
  obtain ⟨order, attempted, _⟩ := progress
  constructor
  · intro both
    have validated := both.validated
    rw [received_eq all] at validated ⊢
    cases taken with
    | nil => rfl
    | cons first rest =>
      obtain ⟨derivation, listed, same⟩ := List.mem_map.mp (validated first List.mem_cons_self)
      have ahead := positive derivation listed
      have zero : first.batchNumber = 0 := by
        have here := congrArg (·[0]?) numbers
        simpa [all] using here
      rw [same, zero] at ahead
      exact absurd ahead (Nat.lt_irrefl 0)
  · intro nothing
    refine ⟨by simp [nothing], ?_, ?_⟩
    · intro batch member
      rw [received_eq order] at member
      rwa [attempted]
    · intro same
      rw [nothing, received_eq order] at same
      rw [received_eq all] at nothing
      subst nothing
      have none := List.map_eq_nil_iff.mp (List.sublist_nil.mp derived)
      rw [← same] at attempted
      rw [recorded.covered, none, List.map_eq_nil_iff.mp attempted]
      rfl

section Runs

variable [BlockResponse Block Tx] [BlockJson Block] [BlockSource Source Block] [BatchSink Sink]
variable [L1BatchSource Inbox] [OrderedSource Inbox] [Executor Evm Block State] [CheckpointStore File]
variable {Queue : Type} [L1BatchSource Queue] [OrderedSource Queue] [Executor Exec Block Result]
variable [CheckpointStore Store]

omit [BlockResponse Block Tx] [Executor Evm Block State] in
theorem Validating.start {emitted : List CompressedBatch}
    {validator : Validator Block Inbox Evm State File} (launched : validator.Launched)
    (reads : OrderedSource.remaining validator.batchSource = emitted) : Validating emitted validator := by
  obtain ⟨executions, derivations, _⟩ := launched.start
  refine ⟨⟨[], reads.symm, by simp [derivations]⟩, by simp [derivations], ?_⟩
  exact ⟨by simp [executions, derivations], by simp [derivations]⟩

omit [BlockResponse Block Tx] [BlockJson Block] [Executor Exec Block Result] in
theorem Deriving.start {emitted : List CompressedBatch}
    {deriver : DerivationRunner Block Queue Exec Result Store} (launched : deriver.Launched)
    (fresh : deriver.checkpoint.lastBatchDerived = 0)
    (reads : OrderedSource.remaining deriver.source = emitted) : Deriving emitted deriver := by
  obtain ⟨delivered, attempts⟩ := launched.start
  exact ⟨by simp [delivered, reads], by simp [delivered, attempts], by simp [fresh]⟩

/-- Of what a run without failures emits, a fresh validator and a fresh derivation runner
derive the same as long as nothing has arrived: the first batch has number 0, which the
validator takes for derived and the derivation runner does not. -/
theorem derivedByBoth_iff_nothing_received (runner : BatchSubmissionRunner Source Sink)
    (startBlock rounds : Nat) {validator : Validator Block Inbox Evm State File}
    {deriver : DerivationRunner Block Queue Exec Result Store}
    (clean : (RunLoop.run runner startBlock rounds).NoFailure runner)
    (launched : validator.Launched ∧ deriver.Launched)
    (fresh : validator.checkpoint = .fresh ∧ deriver.checkpoint = .fresh)
    (reads : OrderedSource.remaining validator.batchSource =
        (RunLoop.run runner startBlock rounds).emitted runner ∧
      OrderedSource.remaining deriver.source = (RunLoop.run runner startBlock rounds).emitted runner)
    (validations : List Validator.Input) (derivations : List DerivationRunner.Input)
    (kept : ∀ input ∈ validations, ∀ checkpoint, input ≠ .resume checkpoint) :
    DerivedByBoth ((RunLoop.run runner startBlock rounds).emitted runner)
        (validator.run validations) (deriver.run derivations) ↔
      received ((RunLoop.run runner startBlock rounds).emitted runner)
        (validator.run validations).batchSource = [] := by
  have numbers := emitted_numbers (RunLoop.ledger_run runner startBlock rounds) clean
  have validating := Runs.invariant_run (Validating _) validations
    (fun _ input arrives => Validating.input (kept input arrives)) (.start launched.1 reads.1)
  have progress := Runs.invariant_run (Deriving _) derivations
    (fun _ input _ => Deriving.input input numbers) (.start launched.2 (by rw [fresh.2]; rfl) reads.2)
  exact Validating.derivedByBoth_iff numbers validating progress

end Runs

section Examples

open Reference RunLoop

/-- The two consumers of what the runner emits for the blocks 1 and 2. -/
def validatorOfTwo : Validator UInt8 InMemoryBatchQueue (PersistentExecutor Nat UInt8) Unit Files :=
  .startingFrom .fresh ⟨(run (twoBlocks [true]) 1 1).emitted (twoBlocks [true])⟩ noop none (refusing 7) ⟨[]⟩

def deriverOfTwo : DerivationRunner UInt8 InMemoryBatchQueue (PersistentExecutor Nat UInt8) Unit Files :=
  .new ⟨(run (twoBlocks [true]) 1 1).emitted (twoBlocks [true])⟩ noop {} (refusing 7) ⟨[]⟩

private theorem noFailure_twoBlocks : (run (twoBlocks [true]) 1 1).NoFailure (twoBlocks [true]) :=
  ⟨by decide, by decide⟩

/-- While the validator waits, nothing is missed. -/
theorem derivedByBoth_before_arrival :
    DerivedByBoth ((run (twoBlocks [true]) 1 1).emitted (twoBlocks [true]))
      (validatorOfTwo.run [.wallClockSet 5]) (deriverOfTwo.run [.tick]) := by
  have launched : validatorOfTwo.Launched ∧ deriverOfTwo.Launched :=
    ⟨.startingFrom rfl, .withStartBlock _ _ _ _ _ _⟩
  exact (derivedByBoth_iff_nothing_received (twoBlocks [true]) 1 1 noFailure_twoBlocks launched
    ⟨rfl, rfl⟩ ⟨rfl, rfl⟩ [.wallClockSet 5] [.tick] (by simp)).mpr (by decide)

/-- Batch 0 arrives at both: the derivation runner executes its blocks, the validator skips it. -/
theorem first_batch_skipped :
    (run (twoBlocks [true]) 1 1).NoFailure (twoBlocks [true]) ∧
      ((deriverOfTwo.run [.tick]).attempts.flatMap (·.executions)).map (·.block) = [1, 2] ∧
      (validatorOfTwo.run [.tick]).executions.map (·.block) = [] ∧
      ¬ DerivedByBoth ((run (twoBlocks [true]) 1 1).emitted (twoBlocks [true]))
        (validatorOfTwo.run [.tick]) (deriverOfTwo.run [.tick]) := by
  refine ⟨noFailure_twoBlocks, by decide, by decide, fun both => ?_⟩
  exact absurd (both.same (by decide)) (by decide)

end Examples

end Montana.Batching
