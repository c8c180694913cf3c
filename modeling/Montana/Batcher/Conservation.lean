import Montana.Batcher.Driver
import Montana.Common.Reference

/-! The batch driver neither loses nor repeats a block, whatever calls are made of it. It
does burn numbers on batches without blocks. -/

namespace Montana.Batcher

open Buffer (L2BlockData)
open Roles (BatcherConfig)

variable {Store : Type} [CheckpointStore Store]

namespace DriverRun

/-- The books of a driver: every block added is in one batch or pending, in order. -/
structure Conserved (config : BatcherConfig) (sequel : DriverRun Store) : Prop where
  configured : sequel.driver.config = config
  blocks : sequel.built.flatMap (·.blocks) ++ sequel.driver.pendingBlocks = sequel.added
  numbered : sequel.built.map (·.batchNumber) = List.range' 1 sequel.built.length
  next : sequel.driver.batchNumber = 1 + sequel.built.length
  limited : ∀ batch ∈ sequel.built, batch.blocks.length ≤ config.maxBlocksPerBatch
  currentSize : sequel.driver.currentSize = transactionBytes sequel.driver.pendingBlocks
  sizes : ∀ batch ∈ sequel.built, batch.uncompressedSize = transactionBytes batch.blocks

omit [CheckpointStore Store] in
/-- The books do not look at the clocks, the checkpoint or the disk. -/
theorem Conserved.unchanged {config : BatcherConfig} {before after : DriverRun Store}
    (conserved : before.Conserved config) (same : after.driver.config = before.driver.config)
    (pending : after.driver.pendingBlocks = before.driver.pendingBlocks)
    (size : after.driver.currentSize = before.driver.currentSize)
    (number : after.driver.batchNumber = before.driver.batchNumber) (added : after.added = before.added)
    (built : after.built = before.built) : after.Conserved config where
  configured := same.trans conserved.configured
  blocks := by rw [built, pending, added, conserved.blocks]
  numbered := by rw [built, conserved.numbered]
  next := by rw [number, built, conserved.next]
  limited := by rw [built]; exact conserved.limited
  currentSize := by rw [size, pending, conserved.currentSize]
  sizes := by rw [built]; exact conserved.sizes

omit [CheckpointStore Store] in
theorem Conserved.buildBatch {config : BatcherConfig} {self : DriverRun Store}
    (conserved : self.Conserved config) : self.buildBatch.Conserved config := by
  obtain ⟨same, blocks, numbered, next, limited, currentSize, sizes⟩ := conserved
  rcases self.driver.buildBatch_cases with ⟨_, ended⟩ | ⟨_, taken, left, cut, kept, ended⟩
  · simp only [DriverRun.buildBatch, ended]
    exact ⟨same, blocks, numbered, next, limited, currentSize, sizes⟩
  · simp only [DriverRun.buildBatch, ended]
    refine ⟨same, ?_, ?_, ?_, ?_, rfl, ?_⟩
    · rw [List.flatMap_append, List.flatMap_singleton, cut, kept, List.append_assoc, List.take_append_drop]
      exact blocks
    · rw [List.map_append, numbered, List.map_singleton, next, List.length_append, List.length_singleton,
        ← List.range'_append_1]
      rfl
    · simp only [next, List.length_append, List.length_singleton]
      omega
    · refine List.forall_mem_append.mpr ⟨limited, List.forall_mem_singleton.mpr ?_⟩
      rw [cut, ← same]
      exact List.length_take_le _ _
    · exact List.forall_mem_append.mpr ⟨sizes, List.forall_mem_singleton.mpr rfl⟩

theorem Conserved.step {config : BatcherConfig} {self : DriverRun Store} (conserved : self.Conserved config)
    (input : BatchDriver.Input) : (self.step input).Conserved config := by
  cases input with
  | buildBatch => exact conserved.buildBatch
  | addBlocks blocks =>
    obtain ⟨same, kept, numbered, next, limited, currentSize, sizes⟩ := conserved
    simp only [DriverRun.step, self.driver.addBlocks_frame blocks]
    refine ⟨same, ?_, numbered, next, limited, ?_, sizes⟩
    · rw [← kept, List.append_assoc]
    · rw [currentSize, transactionBytes_append]
  | recordBatchSubmitted batchNumber =>
    obtain ⟨store, frame⟩ := self.driver.recordBatchSubmitted_frame batchNumber
    simp only [DriverRun.step, frame]
    exact conserved.unchanged rfl rfl rfl rfl rfl rfl
  | clockAdvanced elapsed => exact conserved.unchanged rfl rfl rfl rfl rfl rfl
  | wallClockSet unixSeconds => exact conserved.unchanged rfl rfl rfl rfl rfl rfl

theorem conserved_start {driver : BatchDriver Store} (created : driver.Created) :
    (start driver).Conserved driver.config := by
  obtain ⟨pending, size, number⟩ := created.empty
  refine ⟨rfl, pending, rfl, number, nofun, ?_, nofun⟩
  show driver.currentSize = transactionBytes driver.pendingBlocks
  rw [size, pending]
  rfl

/-- From its creation on, the driver accounts for every block and every byte, and a call
that builds nothing changes nothing. -/
theorem conserved_run {driver : BatchDriver Store} (created : driver.Created)
    (inputs : List BatchDriver.Input) :
    ((start driver).run inputs).Conserved driver.config ∧
      (((start driver).run inputs).driver.buildBatch.1 = none →
        ((start driver).run inputs).driver.buildBatch.2 = ((start driver).run inputs).driver) := by
  refine ⟨Runs.invariant_run (Conserved driver.config) inputs (fun _ input _ conserved =>
    conserved.step input) (conserved_start created), fun none => ?_⟩
  rcases ((start driver).run inputs).driver.buildBatch_cases with ⟨_, ended⟩ | ⟨_, _, _, _, _, ended⟩
  · rw [ended]
  · rw [ended] at none
    cases none

/-- Every batch has a block in it, and only such batches have taken a number. -/
structure Fruitful (sequel : DriverRun Store) : Prop where
  filled : ∀ batch ∈ sequel.built, batch.blocks ≠ []
  advanced : sequel.driver.batchNumber = 1 + (sequel.built.filter (·.blocks ≠ [])).length

/-- A call of `build_batch` builds nothing, or has a block and may take it. -/
def findsBlocks (self : DriverRun Store) : BatchDriver.Input → Prop
  | .buildBatch => self.driver.shouldSubmit = false ∨
      self.driver.pendingBlocks ≠ [] ∧ 0 < self.driver.config.maxBlocksPerBatch
  | _ => True

instance (self : DriverRun Store) (input : BatchDriver.Input) : Decidable (self.findsBlocks input) := by
  cases input <;> unfold findsBlocks <;> infer_instance

omit [CheckpointStore Store] in
private theorem Conserved.fruitful {config : BatcherConfig} {self : DriverRun Store}
    (conserved : self.Conserved config) (filled : ∀ batch ∈ self.built, batch.blocks ≠ []) :
    self.Fruitful := by
  refine ⟨filled, ?_⟩
  rw [List.filter_eq_self.mpr (by simpa using filled)]
  exact conserved.next

/-- Only `build_batch` adds a batch, namely the one it returns. -/
theorem step_built (self : DriverRun Store) (input : BatchDriver.Input) :
    (self.step input).built = self.built ++
      match input with
      | .buildBatch => self.driver.buildBatch.1.toList
      | _ => [] := by
  cases input with
  | buildBatch =>
    simp only [step, buildBatch]
    cases self.driver.buildBatch with
    | mk built driver => cases built <;> simp
  | addBlocks => exact (List.append_nil _).symm
  | recordBatchSubmitted => exact (List.append_nil _).symm
  | clockAdvanced => exact (List.append_nil _).symm
  | wallClockSet => exact (List.append_nil _).symm

theorem Fruitful.step_iff {config : BatcherConfig} {self : DriverRun Store}
    (conserved : self.Conserved config) (fruitful : self.Fruitful) (input : BatchDriver.Input) :
    (self.step input).Fruitful ↔ self.findsBlocks input := by
  have after := conserved.step input
  have filled_iff : (self.step input).Fruitful ↔ ∀ batch ∈ (self.step input).built, batch.blocks ≠ [] :=
    ⟨Fruitful.filled, after.fruitful⟩
  rw [filled_iff, step_built, List.forall_mem_append, and_iff_right fruitful.filled]
  cases input with
  | buildBatch =>
    rcases self.driver.buildBatch_cases with ⟨early, ended⟩ | ⟨ready, taken, left, cut, _, ended⟩
    · simp [ended, findsBlocks, early]
    · simp only [ended, Option.toList_some, List.forall_mem_singleton, findsBlocks, ready, Bool.true_eq_false,
        false_or, cut, ne_eq, List.take_eq_nil_iff, not_or, Nat.pos_iff_ne_zero]
      exact and_comm
  | addBlocks => simp [findsBlocks]
  | recordBatchSubmitted => simp [findsBlocks]
  | clockAdvanced => simp [findsBlocks]
  | wallClockSet => simp [findsBlocks]

/-- Every batch has a block in it, after every call, exactly if every call of `build_batch`
that is due finds a pending block and may take one. -/
theorem fruitful_iff_findsBlocks {driver : BatchDriver Store} (created : driver.Created)
    (inputs : List BatchDriver.Input) :
    (∀ count, ((start driver).run (inputs.take count)).Fruitful) ↔
      Runs.Guarded step findsBlocks (start driver) inputs := by
  have conserved := conserved_start created
  have admitted : Runs.Guarded step (fun _ _ => True) (start driver) inputs :=
    Runs.guarded_of_forall (fun _ _ _ => trivial) _
  refine Runs.guarded_iff_invariant_known (Conserved driver.config) Fruitful ?_ ?_ inputs admitted
    conserved (conserved.fruitful nofun)
  · intro reached input _ known
    exact known.step input
  · intro reached input _ known fruitful
    exact fruitful.step_iff known input

section Examples

open Reference

/-- Blocks of two transactions, and limits of two blocks and ten bytes. -/
def smallDriver : BatchDriver Files :=
  .new { maxBlocksPerBatch := 2, minBatchSize := 10 } (Files.mk []) 0

def block (size : Nat) : L2BlockData where
  blockNumber := size
  timestamp := 0
  transactions := [List.replicate size 0, [7]]

/-- Three blocks are cut into two batches, the second after the batch interval. -/
def threeBlocks : List BatchDriver.Input :=
  [.addBlocks [block 4, block 5], .addBlocks [block 6], .buildBatch, .buildBatch, .clockAdvanced 12000,
   .buildBatch]

theorem conserved_run_three :
    ((start smallDriver).run threeBlocks).Conserved smallDriver.config :=
  (conserved_run (.new _ _ _) threeBlocks).1

/-- The batch interval passes with nothing pending, and the empty batch takes number 1. -/
theorem empty_batch_built :
    smallDriver.Created ∧
      ((start smallDriver).run [.clockAdvanced 12000, .buildBatch]).built =
        [{ batchNumber := 1, blocks := [], uncompressedSize := 0 }] ∧
      ¬ ((start smallDriver).run [.clockAdvanced 12000, .buildBatch]).Fruitful := by
  refine ⟨.new _ _ _, by decide, fun fruitful => ?_⟩
  exact absurd fruitful.filled (by decide)

theorem fruitful_three : ((start smallDriver).run threeBlocks).Fruitful :=
  (fruitful_iff_findsBlocks (.new _ _ _) threeBlocks).mpr (by decide) 6

end Examples

end DriverRun

end Montana.Batcher
