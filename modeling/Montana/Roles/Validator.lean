import Montana.Common.Checkpoint
import Montana.Roles.Sequencer
import Montana.Vm.Executor

/-! The validator role: batches from L1 are decoded, executed and recorded. -/

namespace Montana.Roles

open Vm (Execution Executor)

inductive ValidatorEvent where
  | batchDerived (batchNumber blockCount : Nat)
  | batchValidated (batchNumber : Nat)
  deriving DecidableEq, Repr

/-- One call of a `DerivationCallback` method; measured times are left out. -/
inductive DerivationCall where
  | batchDerived (batchNumber blockCount firstBlock lastBlock : Nat)
  | blockDerived (blockNumber txCount derivationTimeMs : Nat)
  | l1BlockProduced (l1BlockNumber : Nat)
  deriving DecidableEq, Repr

inductive ProcessError where
  | decompress (error : CompressionError)
  | deserialize (message : String)
  | checkpoint (error : CheckpointError)
  deriving DecidableEq, Repr

/-- A batch that was recorded as derived, with the executions that went before. -/
structure Derivation (Block Result : Type) where
  batch : CompressedBatch
  executions : List (Execution Block Result)

def maxBatchesPerTick : Nat := 10

structure Validator (Block Source Exec Result Store : Type) where
  batchSource : Source
  compressor : Compressor
  executor : Exec
  checkpoint : Checkpoint
  checkpointPath : Option String
  pollIntervalMs : Nat
  eventTx : Option (List ValidatorEvent)
  derivationCallback : Option (List DerivationCall)
  lastL1Head : Nat
  /-- Runtime: the checkpoint file and the time of day. -/
  store : Store
  wallClock : Nat
  /-- History: every call of `execute_block`, and every batch recorded as derived. -/
  executions : List (Execution Block Result)
  derivations : List (Derivation Block Result)

namespace Validator

variable {Block Source Exec Result Store Tx : Type}
variable [BlockResponse Block Tx] [BlockJson Block] [L1BatchSource Source]
variable [Executor Exec Block Result] [CheckpointStore Store]

/-- The validator that `new` makes. -/
def startingFrom (checkpoint : Checkpoint) (batchSource : Source) (compressor : Compressor)
    (checkpointPath : Option String) (executor : Exec) (store : Store) :
    Validator Block Source Exec Result Store where
  batchSource := batchSource
  compressor := compressor
  executor := executor
  checkpoint := checkpoint
  checkpointPath := checkpointPath
  pollIntervalMs := 50
  eventTx := none
  derivationCallback := none
  lastL1Head := 0
  store := store
  wallClock := 0
  executions := []
  derivations := []

/-- `Validator::new`. -/
def new (batchSource : Source) (compressor : Compressor) (checkpointPath : Option String)
    (executor : Exec) (store : Store) :
    Except CheckpointError (Validator Block Source Exec Result Store) := do
  let checkpoint ← Checkpoint.loadOrFresh store checkpointPath
  return startingFrom checkpoint batchSource compressor checkpointPath executor store

omit [BlockResponse Block Tx] [BlockJson Block] [L1BatchSource Source] [Executor Exec Block Result] in
theorem new_startingFrom {batchSource : Source} {compressor : Compressor} {checkpointPath : Option String}
    {executor : Exec} {store : Store} {self : Validator Block Source Exec Result Store}
    (made : new batchSource compressor checkpointPath executor store = .ok self) :
    ∃ checkpoint, self = startingFrom checkpoint batchSource compressor checkpointPath executor store := by
  unfold new at made
  cases loaded : Checkpoint.loadOrFresh store checkpointPath with
  | error e =>
    rw [loaded] at made
    cases made
  | ok checkpoint =>
    rw [loaded] at made
    cases made
    exact ⟨checkpoint, rfl⟩

def withPollInterval (self : Validator Block Source Exec Result Store) (ms : Nat) :
    Validator Block Source Exec Result Store :=
  { self with pollIntervalMs := ms }

def withEventSender (self : Validator Block Source Exec Result Store) :
    Validator Block Source Exec Result Store :=
  { self with eventTx := some [] }

def withDerivationCallback (self : Validator Block Source Exec Result Store) :
    Validator Block Source Exec Result Store :=
  { self with derivationCallback := some [] }

def emit (self : Validator Block Source Exec Result Store) (event : ValidatorEvent) :
    Validator Block Source Exec Result Store :=
  { self with eventTx := self.eventTx.map (· ++ [event]) }

def report (self : Validator Block Source Exec Result Store) (calls : List DerivationCall) :
    Validator Block Source Exec Result Store :=
  { self with derivationCallback := self.derivationCallback.map (· ++ calls) }

/-- The body of the block loop: the outcome of `execute_block` is bound to `_result`. -/
def executeOne (self : Validator Block Source Exec Result Store) (block : Block) :
    Validator Block Source Exec Result Store :=
  match Executor.executeBlock self.executor block with
  | (outcome, executor) =>
    let self := { self with executor, executions := self.executions ++ [Execution.mk block outcome] }
    self.report [.blockDerived (BlockResponse.number block) (BlockResponse.transactions block).length 0]

def executeBlocks (self : Validator Block Source Exec Result Store) (blocks : List Block) :
    Validator Block Source Exec Result Store :=
  blocks.foldl executeOne self

/-- The part of `process_batch` before the block loop: `none` is a batch to skip. -/
def decodeBatch (self : Validator Block Source Exec Result Store) (batch : CompressedBatch) :
    Except ProcessError (Option (OpBlockBatch Block)) :=
  if batch.batchNumber ≤ self.checkpoint.lastBatchDerived then .ok none
  else
    match self.compressor.decompress batch.data with
    | .error e => .error (.decompress e)
    | .ok decompressed =>
      match BlockJson.fromBytes decompressed with
      | .error e => .error (.deserialize s!"Failed to deserialize OpBlockBatch: {e}")
      | .ok blockBatch => .ok (some blockBatch)

/-- The part of `process_batch` after the block loop, for a batch with these executions. -/
def recordBatch (self : Validator Block Source Exec Result Store) (batch : CompressedBatch)
    (executions : List (Execution Block Result)) :
    Except ProcessError Unit × Validator Block Source Exec Result Store :=
  let self := { self with
    checkpoint := (self.checkpoint.recordBatchDerived batch.batchNumber).touch self.wallClock
    derivations := self.derivations ++ [Derivation.mk batch executions] }
  match Checkpoint.saveIfEnabled self.store self.checkpointPath self.checkpoint with
  | (.error e, store) => (.error (.checkpoint e), { self with store })
  | (.ok (), store) =>
    let self := { self with store }
    let self := self.emit (.batchValidated batch.batchNumber)
    (.ok (), self.report
      [.batchDerived batch.batchNumber batch.blockCount batch.firstBlock batch.lastBlock])

def processBatch (self : Validator Block Source Exec Result Store) (batch : CompressedBatch) :
    Except ProcessError Unit × Validator Block Source Exec Result Store :=
  match self.decodeBatch batch with
  | .error e => (.error e, self)
  | .ok none => (.ok (), self)
  | .ok (some blockBatch) =>
    let self := self.emit (.batchDerived batch.batchNumber batch.blockCount)
    let executed := self.executeBlocks blockBatch.blocks
    executed.recordBatch batch (executed.executions.drop self.executions.length)

/-- The callback and the head are touched only when a head newer than the last one was read. -/
def watchL1Head (self : Validator Block Source Exec Result Store) :
    Validator Block Source Exec Result Store :=
  match self.derivationCallback, L1BatchSource.l1Head self.batchSource with
  | some _, .ok l1Head =>
    if l1Head > self.lastL1Head then
      let fresh := List.range' (self.lastL1Head + 1) (l1Head - self.lastL1Head)
      { self.report (fresh.map .l1BlockProduced) with lastL1Head := l1Head }
    else self
  | _, _ => self

/-- The drain loop: the number of batches processed, from at most so many more. -/
def drainLoop : Nat → Validator Block Source Exec Result Store →
    Except ProcessError Nat × Validator Block Source Exec Result Store
  | 0, self => (.ok 0, self)
  | limit + 1, self =>
    match L1BatchSource.nextBatch self.batchSource with
    | (.ok (some batch), batchSource) =>
      match processBatch { self with batchSource } batch with
      | (.error e, self) => (.error e, self)
      | (.ok (), self) =>
        match drainLoop limit self with
        | (.error e, self) => (.error e, self)
        | (.ok processed, self) => (.ok (processed + 1), self)
    | (.ok none, batchSource) => (.ok 0, { self with batchSource })
    | (.error _, batchSource) => (.ok 0, { self with batchSource })

def tick (self : Validator Block Source Exec Result Store) :
    Except ProcessError TickResult × Validator Block Source Exec Result Store :=
  match drainLoop maxBatchesPerTick self.watchL1Head with
  | (.error e, self) => (.error e, self)
  | (.ok processed, self) => (.ok (if processed > 0 then .progress else .idle), self)

def resume (self : Validator Block Source Exec Result Store) (checkpoint : Checkpoint) :
    Validator Block Source Exec Result Store :=
  { self with checkpoint }

def roleCheckpoint (self : Validator Block Source Exec Result Store) : RoleCheckpoint where
  lastBatchDerived := some self.checkpoint.lastBatchDerived
  lastBlockProcessed := some self.checkpoint.lastBlockExecuted

/-- One thing that happens to the validator. -/
inductive Input where
  | tick
  | wallClockSet (unixSeconds : Nat)
  | resume (checkpoint : Checkpoint)
  deriving DecidableEq, Repr

def step (self : Validator Block Source Exec Result Store) :
    Input → Validator Block Source Exec Result Store
  | .tick => self.tick.2
  | .wallClockSet unixSeconds => { self with wallClock := unixSeconds }
  | .resume checkpoint => self.resume checkpoint

def run (self : Validator Block Source Exec Result Store) (inputs : List Input) :
    Validator Block Source Exec Result Store :=
  inputs.foldl step self

end Validator

end Montana.Roles
