import Montana.Common.Primitives

/-! The batch submission runner: blocks are fetched by number, collected and
submitted in batches, in one loop that never ends by itself. -/

namespace Montana.Batching

inductive BlockSourceError where
  | blockNotFound (blockNumber : Nat)
  | connectionError (message : String)
  | rpcError (message : String)
  deriving DecidableEq, Repr

/-- L2 blocks by number. The head moves while nobody calls, so each answer comes
with the source that gives the next one. -/
class BlockSource (Source : Type) (Block : outParam Type) where
  getBlock : Source → Nat → Except BlockSourceError Block × Source
  getHead : Source → Except BlockSourceError Nat × Source

structure BatchSubmissionConfig where
  maxBlocksPerBatch : Nat := 10
  targetBatchSize : Nat := 131072
  pollIntervalMs : Nat := 100
  deriving DecidableEq, Repr

structure BatchSubmissionMetrics where
  batchesSubmitted : Nat := 0
  blocksProcessed : Nat := 0
  bytesOriginal : Nat := 0
  bytesCompressed : Nat := 0
  latestBlock : Nat := 0
  deriving DecidableEq, Repr

inductive BatchSubmissionError where
  | sourceError (message : String)
  | blockNotFound (blockNumber : Nat)
  | encodingFailed (message : String)
  | compressionFailed (message : String)
  | sinkError (message : String)
  deriving DecidableEq, Repr

def BatchSubmissionError.display : BatchSubmissionError → String
  | .sourceError message => s!"Block source error: {message}"
  | .blockNotFound blockNumber => s!"Block not found: {blockNumber}"
  | .encodingFailed message => s!"Encoding failed: {message}"
  | .compressionFailed message => s!"Compression failed: {message}"
  | .sinkError message => s!"Batch sink error: {message}"

def BatchSubmissionError.isFatal : BatchSubmissionError → Bool
  | .encodingFailed _ => true
  | _ => false

/-- One call of a `BatchSubmissionCallback` method. -/
inductive SubmissionCall where
  | batchSubmitted (batchNumber blocksCount originalSize compressedSize : Nat) (txHash : Bytes)
  | batchFailed (batchNumber : Nat) (error : BatchSubmissionError)
  | blockProcessed (blockNumber txCount size : Nat)
  | chainHeadUpdated (head : Nat)
  deriving DecidableEq, Repr

structure BatchSubmissionRunner (Source Sink : Type) where
  source : Source
  compressor : Compressor
  sink : Sink
  config : BatchSubmissionConfig
  metrics : BatchSubmissionMetrics
  callback : Option (List SubmissionCall)
  paused : Bool
  /-- History: every batch handed to the sink, with its answer. -/
  submissions : List (CompressedBatch × Except SinkError SubmissionReceipt)

namespace BatchSubmissionRunner

variable {Block Source Sink Tx : Type}

def new (source : Source) (compressor : Compressor) (sink : Sink) (config : BatchSubmissionConfig) :
    BatchSubmissionRunner Source Sink where
  source := source
  compressor := compressor
  sink := sink
  config := config
  metrics := {}
  callback := none
  paused := false
  submissions := []

def withCallback (self : BatchSubmissionRunner Source Sink) : BatchSubmissionRunner Source Sink :=
  { self with callback := some [] }

def pause (self : BatchSubmissionRunner Source Sink) : BatchSubmissionRunner Source Sink :=
  { self with paused := true }

def call (self : BatchSubmissionRunner Source Sink) (event : SubmissionCall) :
    BatchSubmissionRunner Source Sink :=
  { self with callback := self.callback.map (· ++ [event]) }

/-- The part of `submit_batch` before the sink: the size of the payload and the batch. -/
def packBatch [BlockResponse Block Tx] [BlockJson Block] (compressor : Compressor)
    (batchNumber : Nat) (blocks : List Block) : Except BatchSubmissionError (Nat × CompressedBatch) :=
  match BlockJson.toBytes (OpBlockBatch.mk blocks) with
  | .error e => .error (.compressionFailed s!"Serialization failed: {e}")
  | .ok rawData =>
    match compressor.compress rawData with
    | .error e => .error (.compressionFailed e.display)
    | .ok compressed => .ok (rawData.length, {
        batchNumber
        data := compressed
        blockCount := blocks.length
        firstBlock := (blocks.head?.map BlockResponse.number).getD 0
        lastBlock := (blocks.getLast?.map BlockResponse.number).getD 0 })

variable [BatchSink Sink]

/-- `submit_batch`; measured times are left out. -/
def submitBatch [BlockResponse Block Tx] [BlockJson Block] (self : BatchSubmissionRunner Source Sink)
    (batchNumber : Nat) (blocks : List Block) :
    Except BatchSubmissionError Bytes × BatchSubmissionRunner Source Sink :=
  match packBatch self.compressor batchNumber blocks with
  | .error e => (.error e, self)
  | .ok (actualSize, batch) =>
    match BatchSink.submit self.sink batch with
    | (.error e, sink) =>
      (.error (.sinkError e.display), { self with
        sink, submissions := self.submissions ++ [(batch, Except.error e)] })
    | (.ok receipt, sink) =>
      (.ok receipt.txHash, { self with
        sink
        submissions := self.submissions ++ [(batch, Except.ok receipt)]
        metrics := { self.metrics with
          batchesSubmitted := self.metrics.batchesSubmitted + 1
          blocksProcessed := self.metrics.blocksProcessed + blocks.length
          bytesOriginal := self.metrics.bytesOriginal + actualSize
          bytesCompressed := self.metrics.bytesCompressed + batch.data.length } })

end BatchSubmissionRunner

/-- One call of `submit_batch`: what it was given and what it returned. -/
structure Attempt (Block : Type) where
  batchNumber : Nat
  blocks : List Block
  outcome : Except BatchSubmissionError Bytes

/-- The loop of `run`, between two of its iterations. -/
structure RunLoop (Block Source Sink : Type) where
  runner : BatchSubmissionRunner Source Sink
  currentBlock : Nat
  batchNumber : Nat
  pendingBlocks : List Block
  pendingSize : Nat
  /-- The error with which `run` returned, if it did. -/
  returned : Option BatchSubmissionError
  /-- History: the blocks fetched, under the numbers asked for, and the calls of `submit_batch`. -/
  fetched : List (Nat × Block)
  attempts : List (Attempt Block)

namespace RunLoop

variable {Block Source Sink Tx : Type}

/-- `run` on entering its loop. Batches are numbered from 0. -/
def enter (runner : BatchSubmissionRunner Source Sink) (startBlock : Nat) :
    RunLoop Block Source Sink where
  runner := runner
  currentBlock := startBlock
  batchNumber := 0
  pendingBlocks := []
  pendingSize := 0
  returned := none
  fetched := []
  attempts := []

variable [BlockResponse Block Tx] [BlockJson Block] [BlockSource Source Block] [BatchSink Sink]

def pushBlock (self : RunLoop Block Source Sink) (blockNum : Nat) (block : Block) :
    RunLoop Block Source Sink :=
  let txCount := (BlockResponse.transactions block).length
  let blockSize := txCount * 256
  { self with
    runner := self.runner.call (.blockProcessed blockNum txCount blockSize)
    pendingBlocks := self.pendingBlocks ++ [block]
    pendingSize := self.pendingSize + blockSize
    fetched := self.fetched ++ [(blockNum, block)] }

/-- The fetch loop from this number on: how many blocks came, and whether one failed to. -/
def fetchLoop : Nat → Nat → RunLoop Block Source Sink → Nat × Bool × RunLoop Block Source Sink
  | 0, _, self => (0, false, self)
  | remaining + 1, blockNum, self =>
    match BlockSource.getBlock self.runner.source blockNum with
    | (.error _, source) => (0, true, { self with runner := { self.runner with source } })
    | (.ok block, source) =>
      let self := { self with runner := { self.runner with source } }
      let self := self.pushBlock blockNum block
      if self.pendingSize ≥ self.runner.config.targetBatchSize then (1, false, self)
      else
        match fetchLoop remaining (blockNum + 1) self with
        | (blocksFetched, fetchFailed, self) => (blocksFetched + 1, fetchFailed, self)

/-- What follows the fetch loop. -/
def advance (self : RunLoop Block Source Sink) (blocksFetched : Nat) : RunLoop Block Source Sink :=
  if blocksFetched > 0 then
    let currentBlock := self.currentBlock + blocksFetched
    { self with currentBlock, runner := { self.runner with
        metrics := { self.runner.metrics with latestBlock := currentBlock } } }
  else self

/-- The end of an iteration that submits: after both outcomes the pending blocks are
cleared and the number goes up, unless the error is fatal. -/
def submitPending (self : RunLoop Block Source Sink) : RunLoop Block Source Sink :=
  match self.runner.submitBatch self.batchNumber self.pendingBlocks with
  | (outcome, runner) =>
    let attempts := self.attempts ++ [Attempt.mk self.batchNumber self.pendingBlocks outcome]
    let cleared (runner : BatchSubmissionRunner Source Sink) : RunLoop Block Source Sink := { self with
      runner, attempts, batchNumber := self.batchNumber + 1, pendingBlocks := [], pendingSize := 0 }
    match outcome with
    | .ok txHash => cleared (runner.call (.batchSubmitted self.batchNumber self.pendingBlocks.length
        self.pendingSize runner.metrics.bytesCompressed txHash))
    | .error e =>
      let runner := runner.call (.batchFailed self.batchNumber e)
      if e.isFatal then { self with runner, attempts, returned := some e }
      else cleared runner

def shouldSubmit (self : RunLoop Block Source Sink) (isBacklogged fetchFailed : Bool) : Bool :=
  self.pendingBlocks.length ≥ self.runner.config.maxBlocksPerBatch ||
    self.pendingSize ≥ self.runner.config.targetBatchSize ||
    (!isBacklogged && !self.pendingBlocks.isEmpty && fetchFailed)

/-- One iteration. -/
def iterate (self : RunLoop Block Source Sink) : RunLoop Block Source Sink :=
  if self.returned.isSome || self.runner.paused then self
  else
    match BlockSource.getHead self.runner.source with
    | (answer, source) =>
      let chainHead := match answer with
        | .ok head => head
        | .error _ => self.currentBlock
      let self := { self with
        runner := { self.runner with source }.call (.chainHeadUpdated chainHead) }
      let blocksBehind := chainHead - self.currentBlock
      let isBacklogged : Bool := blocksBehind > 0
      let blocksToFetch :=
        if isBacklogged then
          min (self.runner.config.maxBlocksPerBatch - self.pendingBlocks.length) (blocksBehind + 1)
        else 1
      match fetchLoop blocksToFetch self.currentBlock self with
      | (blocksFetched, fetchFailed, self) =>
        let self := self.advance blocksFetched
        if self.shouldSubmit isBacklogged fetchFailed && !self.pendingBlocks.isEmpty then
          self.submitPending
        else self

/-- `run`, for as many iterations as have happened so far. -/
def run (runner : BatchSubmissionRunner Source Sink) (startBlock : Nat) :
    Nat → RunLoop Block Source Sink
  | 0 => enter runner startBlock
  | rounds + 1 => (run runner startBlock rounds).iterate

end RunLoop

end Montana.Batching
