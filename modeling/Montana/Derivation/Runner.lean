import Montana.Common.Checkpoint
import Montana.Common.Primitives
import Montana.Vm.Executor

/-! The derivation runner: one batch from L1 for each tick, decoded and executed. -/

namespace Montana.Derivation

open Vm (Execution Executor)

structure DerivationConfig where
  pollIntervalMs : Nat := 100
  deriving DecidableEq, Repr

structure DerivationMetrics where
  batchesDerived : Nat := 0
  blocksDerived : Nat := 0
  bytesDecompressed : Nat := 0
  currentBatchNumber : Nat := 0
  blocksInCurrentBatch : Nat := 0
  firstBlockInBatch : Nat := 0
  lastBlockInBatch : Nat := 0
  latenciesMs : List Nat := []
  deriving DecidableEq, Repr

/-- At most the last 100 samples are kept. -/
def DerivationMetrics.recordLatency (self : DerivationMetrics) (latencyMs : Nat) : DerivationMetrics :=
  let kept := if self.latenciesMs.length ≥ 100 then self.latenciesMs.tail else self.latenciesMs
  { self with latenciesMs := kept ++ [latencyMs] }

inductive DerivationError where
  | sourceError (message : String)
  | decompressionFailed (message : String)
  | emptyBatch
  | pipeline (message : String)
  | internalError (message : String)
  | executionFailed (message : String)
  deriving DecidableEq, Repr

def DerivationError.display : DerivationError → String
  | .sourceError message => s!"Batch source error: {message}"
  | .decompressionFailed message => s!"Decompression failed: {message}"
  | .emptyBatch => "No batch available"
  | .pipeline message => s!"Pipeline error: {message}"
  | .internalError message => s!"Internal error: {message}"
  | .executionFailed message => s!"Execution failed: {message}"

/-- A batch that was taken from the source and not skipped: the blocks executed
for it, and what stopped it before the last block, if anything did. -/
structure Attempt (Block Result : Type) where
  batch : CompressedBatch
  executions : List (Execution Block Result)
  failure : Option DerivationError

structure DerivationRunner (Block Source Exec Result Store : Type) where
  source : Source
  compressor : Compressor
  executor : Exec
  config : DerivationConfig
  metrics : DerivationMetrics
  submissionTimes : Nat → Option Nat
  batchBlockCounts : Nat → Option Nat
  lastFinalizedBlock : Nat
  paused : Bool
  checkpoint : Checkpoint
  checkpointPath : Option String
  /-- Runtime: the checkpoint file, the monotonic clock in milliseconds, the time of day. -/
  store : Store
  clock : Nat
  wallClock : Nat
  /-- History: the batches that the source gave out, and those that were attempted. -/
  delivered : List CompressedBatch
  attempts : List (Attempt Block Result)

namespace DerivationRunner

variable {Block Source Exec Result Store Tx : Type}
variable [BlockResponse Block Tx] [BlockJson Block] [L1BatchSource Source]
variable [Executor Exec Block Result] [CheckpointStore Store]

def withStartBlock (source : Source) (compressor : Compressor) (config : DerivationConfig)
    (executor : Exec) (store : Store) (startBlock : Nat) :
    DerivationRunner Block Source Exec Result Store where
  source := source
  compressor := compressor
  executor := executor
  config := config
  metrics := {}
  submissionTimes := fun _ => none
  batchBlockCounts := fun _ => none
  lastFinalizedBlock := startBlock
  paused := false
  checkpoint := .fresh
  checkpointPath := none
  store := store
  clock := 0
  wallClock := 0
  delivered := []
  attempts := []

def new (source : Source) (compressor : Compressor) (config : DerivationConfig) (executor : Exec)
    (store : Store) : DerivationRunner Block Source Exec Result Store :=
  withStartBlock source compressor config executor store 0

def pause (self : DerivationRunner Block Source Exec Result Store) :
    DerivationRunner Block Source Exec Result Store :=
  { self with paused := true }

def resume (self : DerivationRunner Block Source Exec Result Store) :
    DerivationRunner Block Source Exec Result Store :=
  { self with paused := false }

def togglePause (self : DerivationRunner Block Source Exec Result Store) :
    DerivationRunner Block Source Exec Result Store :=
  { self with paused := !self.paused }

def withCheckpoint (self : DerivationRunner Block Source Exec Result Store) (path : String) :
    Except CheckpointError (DerivationRunner Block Source Exec Result Store) := do
  let loaded ← CheckpointStore.load self.store path
  return { self with checkpoint := loaded.getD .fresh, checkpointPath := some path }

/-- The default value 0 means that no batch was derived yet. -/
def shouldSkipBatch (self : DerivationRunner Block Source Exec Result Store) (batchNumber : Nat) : Bool :=
  if self.checkpoint.lastBatchDerived = 0 then false
  else batchNumber ≤ self.checkpoint.lastBatchDerived

def recordBatchDerived (self : DerivationRunner Block Source Exec Result Store) (batchNumber : Nat) :
    Except CheckpointError Unit × DerivationRunner Block Source Exec Result Store :=
  let self := { self with
    checkpoint := (self.checkpoint.recordBatchDerived batchNumber).touch self.wallClock }
  match Checkpoint.saveIfEnabled self.store self.checkpointPath self.checkpoint with
  | (result, store) => (result, { self with store })

def recordSubmission (self : DerivationRunner Block Source Exec Result Store)
    (batchNumber submitTime : Nat) : DerivationRunner Block Source Exec Result Store :=
  { self with submissionTimes := fun number =>
      if number = batchNumber then some submitTime else self.submissionTimes number }

def recordBatchBlockCount (self : DerivationRunner Block Source Exec Result Store)
    (batchNumber blockCount : Nat) : DerivationRunner Block Source Exec Result Store :=
  { self with batchBlockCounts := fun number =>
      if number = batchNumber then some blockCount else self.batchBlockCounts number }

/-- The block loop: the blocks after a failed one are not executed. -/
def executeBlocks (executor : Exec) (batchNumber : Nat) :
    List Block → List (Execution Block Result) × Option DerivationError × Exec
  | [] => ([], none, executor)
  | block :: rest =>
    match Executor.executeBlock executor block with
    | (.error e, executor) =>
      ([⟨block, .error e⟩], some (.executionFailed
        s!"Failed to execute block #{BlockResponse.number block} in batch #{batchNumber}: {e.display}"),
        executor)
    | (.ok result, executor) =>
      match executeBlocks executor batchNumber rest with
      | (executions, failure, executor) => (⟨block, .ok result⟩ :: executions, failure, executor)

/-- The fallible part of `derive_batch` before the checkpoint: decompression,
deserialization and execution. -/
def attemptBatch (self : DerivationRunner Block Source Exec Result Store) (batch : CompressedBatch) :
    Except DerivationError Nat × DerivationRunner Block Source Exec Result Store :=
  let failed (e : DerivationError) : Attempt Block Result := ⟨batch, [], some e⟩
  match self.compressor.decompress batch.data with
  | .error e =>
    let e := .decompressionFailed s!"Failed to decompress batch #{batch.batchNumber}: {e.display}"
    (.error e, { self with attempts := self.attempts ++ [failed e] })
  | .ok decompressed =>
    match (BlockJson.fromBytes decompressed : Except String (OpBlockBatch Block)) with
    | .error e =>
      let e := .decompressionFailed
        s!"Failed to deserialize OpBlockBatch from batch #{batch.batchNumber}: {e}"
      (.error e, { self with attempts := self.attempts ++ [failed e] })
    | .ok blockBatch =>
      match executeBlocks self.executor batch.batchNumber blockBatch.blocks with
      | (executions, failure, executor) =>
        let self := { self with
          executor, attempts := self.attempts ++ [Attempt.mk batch executions failure] }
        match failure with
        | some e => (.error e, self)
        | none => (.ok decompressed.length, self)

/-- The part of `derive_batch` after the checkpoint: the finalized head and the metrics. -/
def updateMetrics (self : DerivationRunner Block Source Exec Result Store)
    (batchNumber decompressedSize deriveTime : Nat) : DerivationRunner Block Source Exec Result Store :=
  let blocksInBatch := (self.batchBlockCounts batchNumber).getD 1
  let firstBlock := self.lastFinalizedBlock + 1
  let lastBlock := self.lastFinalizedBlock + blocksInBatch
  let metrics := { self.metrics with
    batchesDerived := self.metrics.batchesDerived + 1
    blocksDerived := self.metrics.blocksDerived + blocksInBatch
    bytesDecompressed := self.metrics.bytesDecompressed + decompressedSize
    currentBatchNumber := batchNumber
    blocksInCurrentBatch := blocksInBatch
    firstBlockInBatch := firstBlock
    lastBlockInBatch := lastBlock }
  { self with
    batchBlockCounts := fun number =>
      if number = batchNumber then none else self.batchBlockCounts number
    lastFinalizedBlock := lastBlock
    metrics := match self.submissionTimes batchNumber with
      | some submitTime => metrics.recordLatency (deriveTime - submitTime)
      | none => metrics
    submissionTimes := fun number =>
      if number = batchNumber then none else self.submissionTimes number }

def deriveBatch (self : DerivationRunner Block Source Exec Result Store) (batch : CompressedBatch)
    (deriveTime : Nat) : Except DerivationError (Option DerivationMetrics) ×
      DerivationRunner Block Source Exec Result Store :=
  if self.shouldSkipBatch batch.batchNumber then (.ok none, self)
  else
    match self.attemptBatch batch with
    | (.error e, self) => (.error e, self)
    | (.ok decompressedSize, self) =>
      match self.recordBatchDerived batch.batchNumber with
      | (.error e, self) => (.error (.internalError s!"Checkpoint error: {e.display}"), self)
      | (.ok (), self) =>
        let self := self.updateMetrics batch.batchNumber decompressedSize deriveTime
        (.ok (some self.metrics), self)

def tick (self : DerivationRunner Block Source Exec Result Store) :
    Except DerivationError (Option DerivationMetrics) ×
      DerivationRunner Block Source Exec Result Store :=
  if self.paused then (.ok none, self)
  else
    match L1BatchSource.nextBatch self.source with
    | (.ok (some batch), source) =>
      deriveBatch { self with source, delivered := self.delivered ++ [batch] } batch self.clock
    | (.ok none, source) => (.ok none, { self with source })
    | (.error e, source) => (.error (.sourceError e.display), { self with source })

/-- One thing that happens to the runner; a caller may tick again after an error. -/
inductive Input where
  | tick
  | pause
  | resume
  | togglePause
  | recordSubmission (batchNumber submitTime : Nat)
  | recordBatchBlockCount (batchNumber blockCount : Nat)
  | clockAdvanced (elapsed : Nat)
  | wallClockSet (unixSeconds : Nat)
  deriving DecidableEq, Repr

def step (self : DerivationRunner Block Source Exec Result Store) :
    Input → DerivationRunner Block Source Exec Result Store
  | .tick => self.tick.2
  | .pause => self.pause
  | .resume => self.resume
  | .togglePause => self.togglePause
  | .recordSubmission batchNumber submitTime => self.recordSubmission batchNumber submitTime
  | .recordBatchBlockCount batchNumber blockCount => self.recordBatchBlockCount batchNumber blockCount
  | .clockAdvanced elapsed => { self with clock := self.clock + elapsed }
  | .wallClockSet unixSeconds => { self with wallClock := unixSeconds }

def run (self : DerivationRunner Block Source Exec Result Store) (inputs : List Input) :
    DerivationRunner Block Source Exec Result Store :=
  inputs.foldl step self

end DerivationRunner

end Montana.Derivation
