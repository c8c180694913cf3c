import Mathlib.Algebra.GroupWithZero.Nat
import Montana.Common.Primitives
import Montana.Common.Checkpoint
import Montana.Lib.PriorityQueue

/-! The sequencer role. Block arrivals, worker completions and the passing of
time interleave with a tick at every point where the tick reads shared state. -/

namespace Montana.Roles

def maxBlocksHeavyBacklog : Nat := 100
def maxBlocksModerateBacklog : Nat := 50
def maxBlocksLightBacklog : Nat := 25
def heavyBacklogThreshold : Nat := 200
def moderateBacklogThreshold : Nat := 50
def lightBacklogThreshold : Nat := 10
def maxConcurrentPreparations : Nat := 4

/-- The fields of the batcher configuration that decide when a batch is cut. -/
structure BatcherConfig where
  maxBatchSize : Nat := 128 * 1024
  maxBlocksPerBatch : Nat := 100
  batchInterval : Nat := 12000
  minBatchSize : Nat := 1024
  deriving DecidableEq, Repr

inductive TickResult where
  | progress
  | idle
  | complete
  deriving DecidableEq, Repr

structure RoleCheckpoint where
  lastBatchSubmitted : Option Nat := none
  lastBatchDerived : Option Nat := none
  lastBlockProcessed : Option Nat := none
  deriving DecidableEq, Repr

/-- An unbounded channel seen from its receiver; `closed` when every sender is gone. -/
structure Receiver (Item : Type) where
  queue : List Item
  closed : Bool := false
  deriving DecidableEq, Repr

inductive TryRecv (Item : Type) where
  | ok (item : Item) (rest : Receiver Item)
  | empty
  | disconnected

def Receiver.tryRecv (receiver : Receiver Item) : TryRecv Item :=
  match receiver.queue with
  | item :: rest => .ok item { receiver with queue := rest }
  | [] => if receiver.closed then .disconnected else .empty

structure PreparedBatch where
  batchNumber : Nat
  compressedBatch : CompressedBatch
  uncompressedSize : Nat
  compressedSize : Nat
  blockCount : Nat
  firstBlock : Nat
  lastBlock : Nat
  blockTxCounts : List Nat
  deriving DecidableEq, Repr

/-- `Ord for PreparedBatch`: reversed, so that the greatest has the lowest number. -/
def PreparedBatch.cmp (self other : PreparedBatch) : Ordering :=
  compare other.batchNumber self.batchNumber

/-- `BinaryHeap` gives out a greatest element first. -/
def PreparedBatch.before (self other : PreparedBatch) : Prop := self.cmp other ≠ .lt

instance : DecidableRel PreparedBatch.before :=
  fun self other => inferInstanceAs (Decidable (self.cmp other ≠ .lt))

theorem PreparedBatch.before_iff (self other : PreparedBatch) :
    self.before other ↔ self.batchNumber ≤ other.batchNumber := by
  simp [before, cmp, Nat.compare_eq_lt]

instance : Std.Total PreparedBatch.before where
  total self other := by
    rw [PreparedBatch.before_iff, PreparedBatch.before_iff]
    exact Nat.le_total _ _

instance : IsTrans PreparedBatch PreparedBatch.before where
  trans first second third := by
    simp only [PreparedBatch.before_iff]
    exact Nat.le_trans

inductive SequencerEvent where
  | blockExecuted (blockNumber : Nat) (blockHash : Bytes)
  | batchBuilt (batchNumber blockCount : Nat)
  | batchSubmitted (batchNumber : Nat) (txHash : Bytes)
  deriving DecidableEq, Repr

/-- One call of `BatchCallback::on_batch_submitted`. -/
structure BatchSubmittedCall where
  batchNumber : Nat
  blockCount : Nat
  firstBlock : Nat
  lastBlock : Nat
  uncompressedSize : Nat
  compressedSize : Nat
  blockTxCounts : List Nat
  l1BlockNumber : Nat
  deriving DecidableEq, Repr

/-- A spawned compression task with the data that was moved into it. -/
structure PreparationWorker (Block : Type) where
  blocks : List Block
  batchNumber : Nat
  blockCount : Nat
  firstBlock : Nat
  lastBlock : Nat
  blockTxCounts : List Nat
  deriving DecidableEq, Repr

/-- What the rest of the process does between two reads of the sequencer. A
worker's `fault` is an error of its own, beside those of its data. -/
inductive Interference (Block : Type) where
  | blockSent (block : Block)
  | senderDropped
  | workerDone (index : Nat) (fault : Option String)
  | clockAdvanced (elapsed : Nat)
  | wallClockSet (unixSeconds : Nat)
  deriving DecidableEq, Repr

/-- A failure of a worker, of `submit` or of `save`, with the batch it hit. -/
inductive Fault where
  | worker (batchNumber : Nat)
  | sink (batchNumber : Nat)
  | save (batchNumber : Nat)
  deriving DecidableEq, Repr

inductive TickError where
  | sink (error : SinkError)
  | checkpoint (error : CheckpointError)
  deriving DecidableEq, Repr

structure Sequencer (Block Sink Store : Type) where
  batchSink : Sink
  compressor : Compressor
  batcherConfig : BatcherConfig
  checkpoint : Checkpoint
  checkpointPath : Option String
  blockRx : Receiver Block
  pendingBlocks : List Block
  currentBatchSize : Nat
  lastSubmission : Nat
  nextBatchNumber : Nat
  nextSubmissionNumber : Nat
  eventTx : Option (List SequencerEvent)
  /-- Block number and gas of each reported block; the measured time is left out. -/
  executionCallback : Option (List (Nat × Nat))
  batchCallback : Option (List BatchSubmittedCall)
  blocksExecuted : Nat
  preparedRx : Receiver (Except String PreparedBatch)
  inFlightPreparations : Nat
  readyBatches : PriorityQueue PreparedBatch PreparedBatch.before
  /-- Runtime: the tasks that have not sent their result yet. -/
  workers : List (PreparationWorker Block)
  store : Store
  clock : Nat
  wallClock : Nat
  /-- Runtime: what happens before each of the coming reads of shared state. -/
  schedule : List (List (Interference Block))
  /-- History: every block sent to `block_rx`, and every block taken from it. -/
  sent : List Block
  received : List Block
  /-- History: every call of `spawn_preparation_worker`. -/
  spawned : List (PreparationWorker Block)
  /-- History: every call of `BatchSink::submit` with its answer. -/
  submissions : List (CompressedBatch × Except SinkError SubmissionReceipt)
  skipped : List Nat
  faults : List Fault

/-- `tick` returned, or it still waits for workers in the flush of a closed channel. -/
inductive TickOutcome where
  | done (result : TickResult)
  | failed (error : TickError)
  | flushing
  deriving DecidableEq, Repr

namespace Sequencer

variable {Block Sink Store Tx : Type}
variable [BlockResponse Block Tx] [BlockJson Block] [BatchSink Sink] [CheckpointStore Store]

/-- The sequencer that `new` makes. Numbering starts at 1 whatever the checkpoint says. -/
def startingFrom (checkpoint : Checkpoint) (batchSink : Sink) (compressor : Compressor)
    (batcherConfig : BatcherConfig) (checkpointPath : Option String) (blockRx : Receiver Block)
    (store : Store) (now : Nat) : Sequencer Block Sink Store where
  batchSink := batchSink
  compressor := compressor
  batcherConfig := batcherConfig
  checkpoint := checkpoint
  checkpointPath := checkpointPath
  blockRx := blockRx
  pendingBlocks := []
  currentBatchSize := 0
  lastSubmission := now
  nextBatchNumber := 1
  nextSubmissionNumber := 1
  eventTx := none
  executionCallback := none
  batchCallback := none
  blocksExecuted := 0
  preparedRx := { queue := [] }
  inFlightPreparations := 0
  readyBatches := .empty
  workers := []
  store := store
  clock := now
  wallClock := 0
  schedule := []
  sent := blockRx.queue
  received := []
  spawned := []
  submissions := []
  skipped := []
  faults := []

/-- `Sequencer::new`. -/
def new (batchSink : Sink) (compressor : Compressor) (batcherConfig : BatcherConfig)
    (checkpointPath : Option String) (blockRx : Receiver Block) (store : Store) (now : Nat) :
    Except CheckpointError (Sequencer Block Sink Store) := do
  let checkpoint ← Checkpoint.loadOrFresh store checkpointPath
  return startingFrom checkpoint batchSink compressor batcherConfig checkpointPath blockRx store now

omit [BlockResponse Block Tx] [BlockJson Block] [BatchSink Sink] in
theorem new_startingFrom {batchSink : Sink} {compressor : Compressor} {batcherConfig : BatcherConfig}
    {checkpointPath : Option String} {blockRx : Receiver Block} {store : Store} {now : Nat}
    {self : Sequencer Block Sink Store}
    (made : new batchSink compressor batcherConfig checkpointPath blockRx store now = .ok self) :
    ∃ checkpoint, self =
      startingFrom checkpoint batchSink compressor batcherConfig checkpointPath blockRx store now := by
  unfold new at made
  cases loaded : Checkpoint.loadOrFresh store checkpointPath with
  | error e =>
    rw [loaded] at made
    cases made
  | ok checkpoint =>
    rw [loaded] at made
    cases made
    exact ⟨checkpoint, rfl⟩

def withExecutionCallback (self : Sequencer Block Sink Store) : Sequencer Block Sink Store :=
  { self with executionCallback := some [] }

def withBatchCallback (self : Sequencer Block Sink Store) : Sequencer Block Sink Store :=
  { self with batchCallback := some [] }

def withEventSender (self : Sequencer Block Sink Store) : Sequencer Block Sink Store :=
  { self with eventTx := some [] }

def emit (self : Sequencer Block Sink Store) (event : SequencerEvent) : Sequencer Block Sink Store :=
  { self with eventTx := self.eventTx.map (· ++ [event]) }

/-- `serde_json::to_vec(block).map(|v| v.len()).unwrap_or(0)`. -/
def blockSize (block : Block) : Nat :=
  match BlockJson.blockToVec block with
  | .ok bytes => bytes.length
  | .error _ => 0

def shouldSubmit (self : Sequencer Block Sink Store) : Bool :=
  let sizeReady := self.currentBatchSize ≥ self.batcherConfig.minBatchSize
  let timeReady := self.clock - self.lastSubmission ≥ self.batcherConfig.batchInterval
  let blocksReady := self.pendingBlocks.length ≥ self.batcherConfig.maxBlocksPerBatch
  sizeReady || timeReady || blocksReady

def dynamicMaxBlocks (self : Sequencer Block Sink Store) (backlogDepth : Nat) : Nat :=
  if backlogDepth ≥ heavyBacklogThreshold then maxBlocksHeavyBacklog
  else if backlogDepth ≥ moderateBacklogThreshold then maxBlocksModerateBacklog
  else if backlogDepth ≥ lightBacklogThreshold then maxBlocksLightBacklog
  else self.batcherConfig.maxBlocksPerBatch

def estimateBacklog (self : Sequencer Block Sink Store) : Nat :=
  self.blockRx.queue.length + self.pendingBlocks.length

/-- `spawn_preparation_worker`: the metadata is collected before the blocks are moved. -/
def preparationWorker (blocks : List Block) (batchNumber : Nat) : PreparationWorker Block where
  blocks := blocks
  batchNumber := batchNumber
  blockCount := blocks.length
  firstBlock := (blocks.head?.map BlockResponse.number).getD 0
  lastBlock := (blocks.getLast?.map BlockResponse.number).getD 0
  blockTxCounts := blocks.map fun block => (BlockResponse.transactions block).length

def spawnPreparationWorker (self : Sequencer Block Sink Store) (blocks : List Block)
    (batchNumber : Nat) : Sequencer Block Sink Store :=
  let worker := preparationWorker blocks batchNumber
  { self with workers := self.workers ++ [worker], spawned := self.spawned ++ [worker] }

def prepareBatchSync (compressor : Compressor) (worker : PreparationWorker Block) :
    Except String PreparedBatch :=
  match BlockJson.toBytes (OpBlockBatch.mk worker.blocks) with
  | .error e => .error s!"Failed to serialize OpBlockBatch: {e}"
  | .ok batchData =>
    match compressor.compress batchData with
    | .error e => .error s!"Compression failed: {e.display}"
    | .ok compressedData => .ok {
        batchNumber := worker.batchNumber
        compressedBatch := {
          batchNumber := worker.batchNumber
          data := compressedData
          blockCount := worker.blockCount
          firstBlock := worker.firstBlock
          lastBlock := worker.lastBlock }
        uncompressedSize := batchData.length
        compressedSize := compressedData.length
        blockCount := worker.blockCount
        firstBlock := worker.firstBlock
        lastBlock := worker.lastBlock
        blockTxCounts := worker.blockTxCounts }

omit [BlockResponse Block Tx] in
theorem prepareBatchSync_ok {compressor : Compressor} {worker : PreparationWorker Block}
    {prepared : PreparedBatch} (success : prepareBatchSync compressor worker = .ok prepared) :
    ∃ batchData compressedData, BlockJson.toBytes (OpBlockBatch.mk worker.blocks) = .ok batchData ∧
      compressor.compress batchData = .ok compressedData ∧ prepared = {
        batchNumber := worker.batchNumber
        compressedBatch := {
          batchNumber := worker.batchNumber
          data := compressedData
          blockCount := worker.blockCount
          firstBlock := worker.firstBlock
          lastBlock := worker.lastBlock }
        uncompressedSize := batchData.length
        compressedSize := compressedData.length
        blockCount := worker.blockCount
        firstBlock := worker.firstBlock
        lastBlock := worker.lastBlock
        blockTxCounts := worker.blockTxCounts } := by
  unfold prepareBatchSync at success
  split at success
  · cases success
  · rename_i batchData written
    split at success
    · cases success
    · rename_i compressedData compressed
      cases success
      exact ⟨batchData, compressedData, written, compressed, rfl⟩

/-- The worker task: prepare, then send the result on `prepared_tx`. -/
def finishWorker (self : Sequencer Block Sink Store) (index : Nat) (worker : PreparationWorker Block)
    (result : Except String PreparedBatch) : Sequencer Block Sink Store :=
  { self with
    workers := self.workers.eraseIdx index
    preparedRx := { self.preparedRx with queue := self.preparedRx.queue ++ [result] }
    faults := match result with
      | .ok _ => self.faults
      | .error _ => self.faults ++ [.worker worker.batchNumber] }

def apply (self : Sequencer Block Sink Store) : Interference Block → Sequencer Block Sink Store
  | .blockSent block =>
    if self.blockRx.closed then self
    else { self with
      blockRx := { self.blockRx with queue := self.blockRx.queue ++ [block] }
      sent := self.sent ++ [block] }
  | .senderDropped => { self with blockRx := { self.blockRx with closed := true } }
  | .workerDone index fault =>
    match self.workers[index]? with
    | none => self
    | some worker =>
      self.finishWorker index worker <| match fault with
        | some e => .error e
        | none => prepareBatchSync self.compressor worker
  | .clockAdvanced elapsed => { self with clock := self.clock + elapsed }
  | .wallClockSet unixSeconds => { self with wallClock := unixSeconds }

/-- Let the scheduled events that precede the next read of shared state happen. -/
def interfere (self : Sequencer Block Sink Store) : Sequencer Block Sink Store :=
  match self.schedule with
  | [] => self
  | burst :: rest => burst.foldl apply { self with schedule := rest }

/-- The body of the loop of `collect_prepared_batches`. -/
def collectResult (self : Sequencer Block Sink Store) (result : Except String PreparedBatch) :
    Sequencer Block Sink Store :=
  match result with
  | .ok prepared => { self with
      readyBatches := self.readyBatches.push prepared
      inFlightPreparations := self.inFlightPreparations - 1 }
  | .error _ => { self with inFlightPreparations := self.inFlightPreparations - 1 }

def collectLoop : Nat → Sequencer Block Sink Store → Sequencer Block Sink Store
  | 0, self => self
  | fuel + 1, self =>
    let self := self.interfere
    match self.preparedRx.tryRecv with
    | .ok result rest => collectLoop fuel (collectResult { self with preparedRx := rest } result)
    | .empty => self
    | .disconnected => self

/-- No worker is spawned meanwhile, so the tasks and the results there are bound the loop. -/
def collectPreparedBatches (self : Sequencer Block Sink Store) : Sequencer Block Sink Store :=
  collectLoop (self.workers.length + self.preparedRx.queue.length + 1) self

def saveCheckpoint (self : Sequencer Block Sink Store) :
    Except CheckpointError Unit × Sequencer Block Sink Store :=
  match Checkpoint.saveIfEnabled self.store self.checkpointPath self.checkpoint with
  | (result, store) => (result, { self with store })

def reportBatch (self : Sequencer Block Sink Store) (prepared : PreparedBatch)
    (receipt : SubmissionReceipt) : Sequencer Block Sink Store :=
  { self with batchCallback := self.batchCallback.map (· ++ [{
      batchNumber := prepared.batchNumber
      blockCount := prepared.blockCount
      firstBlock := prepared.firstBlock
      lastBlock := prepared.lastBlock
      uncompressedSize := prepared.uncompressedSize
      compressedSize := prepared.compressedSize
      blockTxCounts := prepared.blockTxCounts
      l1BlockNumber := receipt.l1Block }]) }

def submitPreparedBatch (self : Sequencer Block Sink Store) (prepared : PreparedBatch) :
    Except TickError Unit × Sequencer Block Sink Store :=
  let batchNumber := prepared.batchNumber
  if self.checkpoint.shouldSkipBatch batchNumber then
    (.ok (), { self with
      nextSubmissionNumber := self.nextSubmissionNumber + 1
      skipped := self.skipped ++ [batchNumber] })
  else
    let self := self.emit (.batchBuilt batchNumber prepared.blockCount)
    match BatchSink.submit self.batchSink prepared.compressedBatch with
    | (.error e, batchSink) =>
      (.error (.sink e), { self with
        batchSink
        submissions := self.submissions ++ [(prepared.compressedBatch, Except.error e)]
        faults := self.faults ++ [Fault.sink batchNumber] })
    | (.ok receipt, batchSink) =>
      let self := { self with
        batchSink
        submissions := self.submissions ++ [(prepared.compressedBatch, Except.ok receipt)]
        checkpoint := (self.checkpoint.recordBatchSubmitted batchNumber).touch self.wallClock }
      match self.saveCheckpoint with
      | (.error e, self) =>
        (.error (.checkpoint e), { self with faults := self.faults ++ [Fault.save batchNumber] })
      | (.ok (), self) =>
        let self := { self with
          nextSubmissionNumber := self.nextSubmissionNumber + 1
          lastSubmission := self.clock }
        (.ok (), (self.emit (.batchSubmitted batchNumber receipt.txHash)).reportBatch prepared receipt)

/-- The loop of `submit_ready_batches`; it runs at most once for each ready batch. -/
def submitLoop : Nat → Sequencer Block Sink Store →
    Except TickError Nat × Sequencer Block Sink Store
  | 0, self => (.ok 0, self)
  | fuel + 1, self =>
    match self.readyBatches.peek with
    | none => (.ok 0, self)
    | some prepared =>
      if prepared.batchNumber ≠ self.nextSubmissionNumber then (.ok 0, self)
      else
        -- What happens while `submit` is awaited touches neither the queue nor
        -- the sink; it stands before the pop, with which it commutes.
        let self := self.interfere
        match submitPreparedBatch { self with readyBatches := self.readyBatches.pop } prepared with
        | (.error e, self) => (.error e, self)
        | (.ok (), self) =>
          match submitLoop fuel self with
          | (.error e, self) => (.error e, self)
          | (.ok submitted, self) => (.ok (submitted + 1), self)

def submitReadyBatches (self : Sequencer Block Sink Store) :
    Except TickError Nat × Sequencer Block Sink Store :=
  submitLoop self.readyBatches.items.length self

def accumulateBlock (self : Sequencer Block Sink Store) (block : Block) :
    Sequencer Block Sink Store :=
  let self := { self with
    pendingBlocks := self.pendingBlocks ++ [block]
    received := self.received ++ [block]
    currentBatchSize := self.currentBatchSize + blockSize block
    blocksExecuted := self.blocksExecuted + 1 }
  let self := self.emit (.blockExecuted (BlockResponse.number block) (List.replicate 32 0))
  let call := (BlockResponse.number block, BlockResponse.gasUsed block)
  { self with executionCallback := self.executionCallback.map (· ++ [call]) }

/-- The loop of phase 3: the number of blocks accumulated and whether the channel is closed. -/
def accumulateLoop (dynamicMax : Nat) : Nat → Sequencer Block Sink Store →
    Nat × Bool × Sequencer Block Sink Store
  | 0, self => (0, false, self)
  | fuel + 1, self =>
    let self := self.interfere
    match self.blockRx.tryRecv with
    | .ok block rest =>
      let self := accumulateBlock { self with blockRx := rest } block
      if self.pendingBlocks.length ≥ dynamicMax then (1, false, self)
      else
        match accumulateLoop dynamicMax fuel self with
        | (count, disconnected, self) => (count + 1, disconnected, self)
    | .empty => (0, false, self)
    | .disconnected => (0, true, self)

def accumulateBlocks (self : Sequencer Block Sink Store) :
    Nat × Bool × Sequencer Block Sink Store :=
  let self := self.interfere
  let dynamicMax := self.dynamicMaxBlocks self.estimateBacklog
  accumulateLoop dynamicMax (dynamicMax - self.pendingBlocks.length + 1) self

/-- Cut the first `count` pending blocks into a batch, in every mode of the tick. -/
def cutBatch (self : Sequencer Block Sink Store) (count : Nat) : Sequencer Block Sink Store :=
  let blocks := self.pendingBlocks.take count
  let batchNumber := self.nextBatchNumber
  let self := { self with
    pendingBlocks := self.pendingBlocks.drop count
    nextBatchNumber := self.nextBatchNumber + 1 }
  let self := self.spawnPreparationWorker blocks batchNumber
  { self with
    inFlightPreparations := self.inFlightPreparations + 1
    currentBatchSize := (self.pendingBlocks.map blockSize).sum }

/-- Catch-up mode: the number of workers spawned, at most one for each free slot. -/
def spawnCatchUp : Nat → Sequencer Block Sink Store → Nat × Sequencer Block Sink Store
  | 0, self => (0, self)
  | slots + 1, self =>
    if self.pendingBlocks.isEmpty then (0, self)
    else
      let self := self.interfere
      let remainingBacklog := self.pendingBlocks.length + self.blockRx.queue.length
      let effectiveMax := self.dynamicMaxBlocks remainingBacklog
      let minForSpawn := max (effectiveMax / 2) 1
      if self.pendingBlocks.length < minForSpawn then (0, self)
      else
        match spawnCatchUp slots (self.cutBatch (min self.pendingBlocks.length effectiveMax)) with
        | (spawned, self) => (spawned + 1, self)

/-- Phase 4, and whether it spawned a worker. -/
def spawnWorkers (self : Sequencer Block Sink Store) : Bool × Sequencer Block Sink Store :=
  let availableSlots := maxConcurrentPreparations - self.inFlightPreparations
  if availableSlots > 0 && !self.pendingBlocks.isEmpty then
    let self := self.interfere
    if self.estimateBacklog ≥ lightBacklogThreshold then
      match spawnCatchUp availableSlots self with
      | (spawned, self) => (spawned > 0, self)
    else
      let self := self.interfere
      if self.shouldSubmit && availableSlots > 0 then
        (true, self.cutBatch (min self.pendingBlocks.length self.batcherConfig.maxBlocksPerBatch))
      else (false, self)
  else (false, self)

/-- The flush of a closed channel cuts all pending blocks into one last batch. -/
def cutRemaining (self : Sequencer Block Sink Store) : Sequencer Block Sink Store :=
  if self.pendingBlocks.isEmpty then self
  else self.cutBatch self.pendingBlocks.length

/-- The wait for all preparations, for as many rounds as have happened so far. -/
def flush : Nat → Sequencer Block Sink Store → TickOutcome × Sequencer Block Sink Store
  | 0, self =>
    if self.inFlightPreparations > 0 || !self.readyBatches.isEmpty then (.flushing, self)
    else (.done .complete, self)
  | rounds + 1, self =>
    if self.inFlightPreparations > 0 || !self.readyBatches.isEmpty then
      match self.collectPreparedBatches.submitReadyBatches with
      | (.error e, self) => (.failed e, self)
      | (.ok _, self) =>
        if self.inFlightPreparations > 0 && self.readyBatches.isEmpty then
          flush rounds self.interfere
        else flush rounds self
    else (.done .complete, self)

def tick (self : Sequencer Block Sink Store) (rounds : Nat) :
    TickOutcome × Sequencer Block Sink Store :=
  match self.collectPreparedBatches.submitReadyBatches with
  | (.error e, self) => (.failed e, self)
  | (.ok submitted, self) =>
    match self.accumulateBlocks with
    | (accumulated, disconnected, self) =>
      match self.spawnWorkers with
      | (spawned, self) =>
        if disconnected then flush rounds self.cutRemaining
        else if submitted > 0 || accumulated > 0 || spawned then (.done .progress, self)
        else (.done .idle, self)

def resume (self : Sequencer Block Sink Store) (checkpoint : Checkpoint) :
    Sequencer Block Sink Store :=
  { self with checkpoint }

def roleCheckpoint (self : Sequencer Block Sink Store) : RoleCheckpoint where
  lastBatchSubmitted := some self.checkpoint.lastBatchSubmitted
  lastBlockProcessed := some self.checkpoint.lastBlockExecuted

/-- One thing that happens to the sequencer between two tick boundaries. -/
inductive Input (Block : Type) where
  | environment (event : Interference Block)
  | tick (schedule : List (List (Interference Block))) (rounds : Nat)
  | resume (checkpoint : Checkpoint)

def step (self : Sequencer Block Sink Store) : Input Block → Sequencer Block Sink Store
  | .environment event => self.apply event
  | .tick schedule rounds => (tick { self with schedule } rounds).2
  | .resume checkpoint => self.resume checkpoint

def run (self : Sequencer Block Sink Store) (inputs : List (Input Block)) :
    Sequencer Block Sink Store :=
  inputs.foldl step self

end Sequencer

end Montana.Roles
