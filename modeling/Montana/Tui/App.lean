import Mathlib.Data.List.AList
import Montana.Lib.SlidingWindow
import Montana.Local.Source
import Montana.Tui.Events

/-! The state of the dashboard, and what each event does to it. -/

namespace Montana.Tui

open SlidingWindow (last modifyFirst push)

/-- How many entries the buffers keep. -/
structure Limits where
  logEntries : Option Nat
  l1Blocks : Option Nat
  samples : Option Nat
  executions : Option Nat

/-- `MAX_LOG_ENTRIES`, `MAX_L1_BLOCKS` and the numbers in `record_latency`,
`record_compression_ratio` and `record_block_executed`. -/
def Limits.source : Limits where
  logEntries := some 100
  l1Blocks := some 50
  samples := some 1000
  executions := some 100

/-- A dashboard that forgets nothing, to compare the source's with. -/
def Limits.unbounded : Limits := ⟨none, none, none, none⟩

structure L1Block where
  number : Nat
  batchNumber : Option Nat
  batchBlockCount : Option Nat
  isDerivationOrigin : Bool
  deriving DecidableEq, Repr

inductive SyncState (F : Type) where
  | idle
  | syncing (startBlock currentBlock targetBlock : Nat) (blocksPerSecond : F) (eta : Option Duration)
  | completed (blocksSynced : Nat) (durationSecs : F)
  deriving DecidableEq, Repr

structure App (F : Type) where
  unsafeHead : Nat
  safeHead : Nat
  finalizedHead : Nat
  syncState : SyncState F
  syncsCompleted : Nat
  syncStartTime : Option Instant
  blocksProcessed : Nat
  batchesSubmitted : Nat
  batchesDerived : Nat
  transactionsReceived : Nat
  txTrackingStartTime : Option Instant
  blocksFetched : Nat
  blocksExecuted : Nat
  lastFetchedBlock : Nat
  lastExecutedBlock : Nat
  executionTimes : List Nat
  totalGasUsed : Nat
  recentGasUsed : List Nat
  executionStartTime : Option Instant
  lastExecutionTime : Option Instant
  executionLogs : List LogEntry
  batchSubmitTimes : AList fun _ : Nat => Instant
  roundTripLatencies : List Nat
  compressionRatios : List F
  syncLogs : List LogEntry
  blockBuilderLogs : List LogEntry
  batchLogs : List LogEntry
  derivationLogs : List LogEntry
  derivationExecutionLogs : List LogEntry
  nodeRole : String
  startBlock : Option Nat
  skipSync : Bool
  isPaused : Bool
  harnessMode : Bool
  harnessLogs : List LogEntry
  harnessBlock : Nat
  harnessInitBlock : Nat
  l1Blocks : List L1Block
  l1Head : Nat
  latestBatchSubmissionL1Block : Option Nat
  latestDerivationOriginL1Block : Option Nat
  batchToL1Block : AList fun _ : Nat => Nat

namespace App

variable {F : Type}

def new : App F where
  unsafeHead := 0
  safeHead := 0
  finalizedHead := 0
  syncState := .idle
  syncsCompleted := 0
  syncStartTime := none
  blocksProcessed := 0
  batchesSubmitted := 0
  batchesDerived := 0
  transactionsReceived := 0
  txTrackingStartTime := none
  blocksFetched := 0
  blocksExecuted := 0
  lastFetchedBlock := 0
  lastExecutedBlock := 0
  executionTimes := []
  totalGasUsed := 0
  recentGasUsed := []
  executionStartTime := none
  lastExecutionTime := none
  executionLogs := []
  batchSubmitTimes := ∅
  roundTripLatencies := []
  compressionRatios := []
  syncLogs := []
  blockBuilderLogs := []
  batchLogs := []
  derivationLogs := []
  derivationExecutionLogs := []
  nodeRole := "Unknown"
  startBlock := none
  skipSync := false
  isPaused := false
  harnessMode := false
  harnessLogs := []
  harnessBlock := 0
  harnessInitBlock := 0
  l1Blocks := []
  l1Head := 0
  latestBatchSubmissionL1Block := none
  latestDerivationOriginL1Block := none
  batchToL1Block := ∅

def reset (self : App F) : App F :=
  { self with
    unsafeHead := 0
    safeHead := 0
    finalizedHead := 0
    syncState := .idle
    syncsCompleted := 0
    syncStartTime := none
    blocksProcessed := 0
    batchesSubmitted := 0
    batchesDerived := 0
    transactionsReceived := 0
    txTrackingStartTime := none
    blocksFetched := 0
    blocksExecuted := 0
    lastFetchedBlock := 0
    lastExecutedBlock := 0
    executionTimes := []
    totalGasUsed := 0
    recentGasUsed := []
    executionStartTime := none
    lastExecutionTime := none
    executionLogs := []
    batchSubmitTimes := ∅
    roundTripLatencies := []
    compressionRatios := []
    syncLogs := []
    blockBuilderLogs := []
    batchLogs := []
    derivationLogs := []
    derivationExecutionLogs := []
    harnessLogs := []
    harnessBlock := 0
    harnessInitBlock := 0
    l1Blocks := []
    l1Head := 0
    latestBatchSubmissionL1Block := none
    latestDerivationOriginL1Block := none
    batchToL1Block := ∅ }

def togglePause (self : App F) : App F := { self with isPaused := !self.isPaused }

def setModeInfo (self : App F) (nodeRole : String) (startBlock : Option Nat) (skipSync : Bool) : App F :=
  { self with nodeRole, startBlock, skipSync }

def updateSyncProgress (self : App F) (currentBlock targetBlock : Nat) (blocksPerSecond : F)
    (eta : Option Duration) : App F :=
  let startBlock := match self.syncState with
    | .syncing startBlock .. => startBlock
    | .idle | .completed .. => currentBlock
  { self with syncState := .syncing startBlock currentBlock targetBlock blocksPerSecond eta }

def completeSync (self : App F) (blocksSynced : Nat) (durationSecs : F) : App F :=
  { self with
    syncState := .completed blocksSynced durationSecs
    syncsCompleted := self.syncsCompleted + 1
    syncStartTime := none }

def setUnsafeHead (self : App F) (head : Nat) : App F :=
  { self with unsafeHead := head, blocksProcessed := max self.blocksProcessed head }

def setSafeHead (self : App F) (head : Nat) : App F := { self with safeHead := head }

def setFinalizedHead (self : App F) (head : Nat) : App F := { self with finalizedHead := head }

def recordTransactionsReceived (self : App F) (txCount : Nat) (now : Instant) : App F :=
  { self with
    txTrackingStartTime :=
      if self.txTrackingStartTime.isNone ∧ txCount > 0 then some now else self.txTrackingStartTime
    transactionsReceived := (self.transactionsReceived + txCount) % 2 ^ 64 }

def recordBatchSubmit (self : App F) (batchNumber : Nat) (now : Instant) : App F :=
  { self with
    batchSubmitTimes := self.batchSubmitTimes.insert batchNumber now
    batchesSubmitted := self.batchesSubmitted + 1 }

def updateBacklog (self : App F) (blocksFetched lastFetchedBlock : Nat) : App F :=
  { self with blocksFetched, lastFetchedBlock }

def backlogSize (self : App F) : Nat := self.blocksFetched - self.blocksExecuted

def completeHarnessInit (self : App F) (finalBlock : Nat) : App F :=
  { self with harnessInitBlock := finalBlock }

def isAfterHarnessInit (self : App F) (blockNumber : Nat) : Bool := blockNumber > self.harnessInitBlock

def recordDerivationOrigin (self : App F) (l1BlockNumber : Nat) : App F :=
  { self with
    latestDerivationOriginL1Block := some l1BlockNumber
    l1Blocks := modifyFirst (fun block => block.number == l1BlockNumber)
      (fun block => { block with isDerivationOrigin := true }) self.l1Blocks }

def recordBatchDerivationOrigin (self : App F) (batchNumber : Nat) : App F :=
  match self.batchToL1Block.lookup batchNumber with
  | some l1Block => self.recordDerivationOrigin l1Block
  | none => self

section Rates

variable [F64 F]

def startSync (self : App F) (startBlock targetBlock : Nat) (now : Instant) : App F :=
  { self with
    syncState := .syncing startBlock startBlock targetBlock (F64.ofNat 0) none
    syncStartTime := some now }

def executionRate (self : App F) (now : Instant) : F :=
  match self.executionStartTime with
  | none => F64.ofNat 0
  | some start =>
    let elapsed := F64.ofNanos (now - start)
    if F64.positive elapsed then F64.ofNat self.blocksExecuted / elapsed else F64.ofNat 0

def mgasPerSecond (self : App F) (now : Instant) : F :=
  match self.executionStartTime with
  | none => F64.ofNat 0
  | some start =>
    let elapsed := F64.ofNanos (now - start)
    if F64.positive elapsed then F64.ofNat self.totalGasUsed / F64.ofNat 1000000 / elapsed else F64.ofNat 0

end Rates

section Buffers

variable (limits : Limits)

def logSync (self : App F) (entry : LogEntry) : App F :=
  { self with syncLogs := push limits.logEntries self.syncLogs entry }

def logBlock (self : App F) (entry : LogEntry) : App F :=
  { self with blockBuilderLogs := push limits.logEntries self.blockBuilderLogs entry }

def logBatch (self : App F) (entry : LogEntry) : App F :=
  { self with batchLogs := push limits.logEntries self.batchLogs entry }

def logDerivation (self : App F) (entry : LogEntry) : App F :=
  { self with derivationLogs := push limits.logEntries self.derivationLogs entry }

def logDerivationExecution (self : App F) (entry : LogEntry) : App F :=
  { self with derivationExecutionLogs := push limits.logEntries self.derivationExecutionLogs entry }

def logExecution (self : App F) (entry : LogEntry) : App F :=
  { self with executionLogs := push limits.logEntries self.executionLogs entry }

def logHarness (self : App F) (entry : LogEntry) : App F :=
  { self with harnessLogs := push limits.logEntries self.harnessLogs entry }

def recordLatency (self : App F) (latencyMs : Nat) : App F :=
  { self with roundTripLatencies := push limits.samples self.roundTripLatencies latencyMs }

def recordBatchDerived (self : App F) (batchNumber : Nat) (now : Instant) : App F :=
  let recorded := match self.batchSubmitTimes.lookup batchNumber with
    | some submitTime =>
      { self with batchSubmitTimes := self.batchSubmitTimes.erase batchNumber }.recordLatency limits
        (Duration.asMillis (now - submitTime))
    | none => self
  { recorded with batchesDerived := recorded.batchesDerived + 1 }

def recordCompressionRatio (self : App F) (ratio : F) : App F :=
  { self with compressionRatios := push limits.samples self.compressionRatios ratio }

/-- The clock is read at two places here. -/
def recordBlockExecuted (self : App F) (blockNumber executionTimeUs gasUsed : Nat) (clock : Readings) :
    App F :=
  { self with
    blocksExecuted := self.blocksExecuted + 1
    lastExecutedBlock := blockNumber
    executionStartTime := if self.executionStartTime.isNone then some (clock 0) else self.executionStartTime
    lastExecutionTime := some (clock 1)
    executionTimes := push limits.executions self.executionTimes executionTimeUs
    totalGasUsed := self.totalGasUsed + gasUsed
    recentGasUsed := push limits.executions self.recentGasUsed gasUsed }

def recordHarnessBlock (self : App F) (blockNumber txCount : Nat) : App F :=
  { self with harnessBlock := blockNumber }.logHarness limits
    (.info s!"Block #{blockNumber} ({txCount} txs)")

def recordL1Block (self : App F) (blockNumber : Nat) : App F :=
  if blockNumber > self.l1Head then
    { self with
      l1Head := blockNumber
      l1Blocks := push limits.l1Blocks self.l1Blocks ⟨blockNumber, none, none, false⟩ }
  else self

def recordBatchInL1Block (self : App F) (l1BlockNumber batchNumber blockCount : Nat) : App F :=
  let self := { self with
    latestBatchSubmissionL1Block := some l1BlockNumber
    batchToL1Block := self.batchToL1Block.insert batchNumber l1BlockNumber }
  if l1BlockNumber > self.l1Head then
    { self with
      l1Head := l1BlockNumber
      l1Blocks := push limits.l1Blocks self.l1Blocks
        ⟨l1BlockNumber, some batchNumber, some blockCount, false⟩ }
  else
    { self with
      l1Blocks := modifyFirst (fun block => block.number == l1BlockNumber)
        (fun block => { block with batchNumber := some batchNumber, batchBlockCount := some blockCount })
        self.l1Blocks }

end Buffers

end App

section Events

variable {F : Type} [F64 F] (limits : Limits)

/-- The URL as the panel shows it; no value where the slice cuts a character. -/
def displayUrl (rpcUrl : String) : Option String :=
  if Local.strLen rpcUrl.toList > 40 then
    (Local.strTo rpcUrl.toList 37).map fun shown => String.ofList shown ++ "..."
  else some rpcUrl

/-- `process_event`, which panics on some URLs only. -/
def processEvent (app : App F) (clock : Readings) : TuiEvent F → Option (App F)
  | .syncStarted startBlock targetBlock =>
    some ((app.startSync startBlock targetBlock (clock 0)).logSync limits (.info
      s!"Sync started: #{startBlock} -> #{targetBlock} ({targetBlock - startBlock} blocks)"))
  | .syncProgress currentBlock targetBlock blocksPerSecond eta =>
    let app := app.updateSyncProgress currentBlock targetBlock blocksPerSecond eta
    let etaStr := (eta.map formatDuration).getD "calculating..."
    let remaining := targetBlock - currentBlock
    let app := app.logSync limits (.info
      s!"Block #{currentBlock}: {F64.fixed 1 blocksPerSecond} blks/s, {remaining} remaining, ETA {etaStr}")
    -- blocks of the initialization were logged with their progress
    some (if app.harnessMode ∧ app.isAfterHarnessInit currentBlock ∧ currentBlock > app.harnessBlock then
        app.recordHarnessBlock limits currentBlock 0
      else app)
  | .syncCompleted blocksSynced durationSecs =>
    let speed := if F64.positive durationSecs then F64.ofNat blocksSynced / durationSecs else F64.ofNat 0
    some ((app.completeSync blocksSynced durationSecs).logSync limits (.info
      (s!"SYNC COMPLETE: {blocksSynced} blocks in {F64.fixed 1 durationSecs}s " ++
        s!"({F64.fixed 1 speed} blks/s)")))
  | .transaction .. => some app
  | .blockBuilt number txCount sizeBytes gasUsed =>
    let app := app.setUnsafeHead number
    let app := app.recordTransactionsReceived txCount (clock 0)
    let app := app.logBlock limits (.info
      s!"Block #{number}: {txCount} txs, {formatBytes F sizeBytes} bytes, {gasUsed} gas")
    some (if app.harnessMode ∧ app.isAfterHarnessInit number then
        app.recordHarnessBlock limits number txCount
      else app)
  | .batchSubmitted batchNumber blockCount firstBlock lastBlock uncompressedSize compressedSize =>
    let app := app.recordBatchSubmit batchNumber (clock 0)
    let app := app.setSafeHead lastBlock
    let ratio : F := if uncompressedSize > 0 then
        F64.ofNat compressedSize / F64.ofNat uncompressedSize * F64.ofNat 100
      else F64.ofNat 100
    let app := app.recordCompressionRatio limits ratio
    some (app.logBatch limits (.info
      (s!"Batch #{batchNumber}: blocks {firstBlock}-{lastBlock} ({blockCount} blocks), " ++
        s!"{formatBytes F uncompressedSize} -> {formatBytes F compressedSize} ({F64.fixed 1 ratio}%)")))
  | .blockDerived number txCount derivationTimeMs executionTimeMs =>
    let app := app.setFinalizedHead number
    let app := app.logDerivationExecution limits (.info
      s!"Block #{number}: {txCount} txs, {executionTimeMs}ms")
    some (app.logDerivation limits (.info s!"Block #{number}: derived in {derivationTimeMs}ms"))
  | .batchDerived batchNumber blockCount firstBlock lastBlock =>
    let app := app.recordBatchDerived limits batchNumber (clock 0)
    let app := app.setFinalizedHead lastBlock
    let app := app.recordBatchDerivationOrigin batchNumber
    some (app.logDerivation limits (.info
      s!"Batch #{batchNumber}: derived {blockCount} blocks ({firstBlock}-{lastBlock})"))
  | .unsafeHeadUpdated head => some (app.setUnsafeHead head)
  | .safeHeadUpdated head => some (app.setSafeHead head)
  | .finalizedUpdated head => some (app.setFinalizedHead head)
  | .modeInfo nodeRole startBlock skipSync => some (app.setModeInfo nodeRole startBlock skipSync)
  | .blockExecuted blockNumber executionTimeUs gasUsed =>
    let app := app.recordBlockExecuted limits blockNumber executionTimeUs gasUsed clock
    let backlog := app.backlogSize
    let rate := app.executionRate (clock 2)
    let mgas := app.mgasPerSecond (clock 3)
    let executionTimeMs : F := F64.ofNat executionTimeUs / F64.ofNat 1000
    some (app.logExecution limits (.info
      (s!"Block #{blockNumber}: {F64.fixed 2 executionTimeMs}ms, {F64.fixed 1 rate} blks/s, " ++
        s!"{F64.fixed 1 mgas} Mgas/s, {backlog} backlog")))
  | .backlogUpdated blocksFetched lastFetchedBlock => some (app.updateBacklog blocksFetched lastFetchedBlock)
  | .togglePause => some app.togglePause
  | .reset => some app.reset
  | .harnessModeEnabled => some { app with harnessMode := true }
  | .harnessBlockProduced blockNumber txCount => some (app.recordHarnessBlock limits blockNumber txCount)
  | .harnessInitProgress currentBlock totalBlocks message =>
    let pct : F := if totalBlocks > 0 then
        F64.ofNat currentBlock / F64.ofNat totalBlocks * F64.ofNat 100
      else F64.ofNat 0
    some { app.logHarness limits (.info
      s!"[{currentBlock}/{totalBlocks}] {F64.fixed 0 pct}% - {message}") with harnessBlock := currentBlock }
  | .harnessInitComplete finalBlock => some (app.completeHarnessInit finalBlock)
  | .sequencerInit checkpointBatch minBatchSize batchIntervalSecs maxBlocksPerBatch =>
    let app := app.logBatch limits (.info s!"Sequencer initialized: checkpoint batch #{checkpointBatch}")
    let app := app.logBatch limits (.info
      (s!"Config: min_size={minBatchSize} bytes, interval={batchIntervalSecs}s, " ++
        s!"max_blocks={maxBlocksPerBatch}"))
    some (if app.harnessMode then app.logBatch limits (.info "Waiting for chain initialization...") else app)
  | .validatorInit checkpointBatch =>
    let app := app.logDerivation limits (.info s!"Validator initialized: checkpoint batch #{checkpointBatch}")
    some (if app.harnessMode then app.logDerivation limits (.info "Waiting for chain initialization...")
      else app)
  | .executionInit startBlock checkpointBlock harnessMode =>
    let app := app.logExecution limits (.info
      s!"Execution initialized: start block #{startBlock}, checkpoint block #{checkpointBlock}")
    some (if harnessMode then app.logExecution limits (.info "Waiting for chain initialization...") else app)
  | .blockBuilderInit rpcUrl pollIntervalMs =>
    (displayUrl rpcUrl).map fun displayUrl =>
      let app := app.logBlock limits (.info s!"Block builder: {displayUrl} (poll {pollIntervalMs}ms)")
      if app.harnessMode then app.logBlock limits (.info "Waiting for chain initialization...") else app
  | .waitingForChain service =>
    some (if service = "sequencer" ∨ service = "batch" then
        app.logBatch limits (.info "Waiting for blocks...")
      else if service = "validator" ∨ service = "derivation" then
        app.logDerivation limits (.info "Waiting for batches...")
      else if service = "execution" then app.logExecution limits (.info "Waiting for blocks...")
      else if service = "block_builder" then app.logBlock limits (.info "Waiting for blocks...")
      else app)
  | .l1BlockProduced blockNumber => some (app.recordL1Block limits blockNumber)
  | .batchIncludedInL1 l1BlockNumber batchNumber blockCount =>
    some (app.recordBatchInL1Block limits l1BlockNumber batchNumber blockCount)

end Events

end Montana.Tui
