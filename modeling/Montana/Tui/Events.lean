import Mathlib.Algebra.GroupWithZero.Nat
import Montana.Common.Primitives

/-! What the dashboard is told, and the texts it writes. -/

namespace Montana.Tui

/-- `f64`, as far as the dashboard computes with it. -/
class F64 (F : Type) extends Mul F, Div F where
  /-- `as f64`. -/
  ofNat : Nat → F
  /-- `Duration::as_secs_f64`, of a duration in nanoseconds. -/
  ofNanos : Nat → F
  /-- `> 0.0`. -/
  positive : F → Bool
  /-- `{:.n}`, with this many decimals. -/
  fixed : Nat → F → String

inductive LogLevel where
  | info
  | warn
  | error
  deriving DecidableEq, Repr

structure LogEntry where
  level : LogLevel
  message : String
  deriving DecidableEq, Repr

def LogEntry.info (message : String) : LogEntry := ⟨.info, message⟩

/-- A `Duration` in nanoseconds. -/
abbrev Duration := Nat

/-- A reading of the monotonic clock, in nanoseconds. -/
abbrev Instant := Nat

/-- The clock at each of the places where the processing of one event reads it. -/
abbrev Readings := Nat → Instant

def Duration.asSecs (duration : Duration) : Nat := duration / 10 ^ 9

/-- `as_millis() as u64`. -/
def Duration.asMillis (duration : Duration) : Nat := duration / 10 ^ 6 % 2 ^ 64

inductive TuiEvent (F : Type) where
  | syncStarted (startBlock targetBlock : Nat)
  | syncProgress (currentBlock targetBlock : Nat) (blocksPerSecond : F) (eta : Option Duration)
  | syncCompleted (blocksSynced : Nat) (durationSecs : F)
  | transaction (hash sender : Bytes) (recipient : Option Bytes) (gasLimit : Nat)
  | blockBuilt (number txCount sizeBytes gasUsed : Nat)
  | batchSubmitted (batchNumber blockCount firstBlock lastBlock uncompressedSize compressedSize : Nat)
  | blockDerived (number txCount derivationTimeMs executionTimeMs : Nat)
  | batchDerived (batchNumber blockCount firstBlock lastBlock : Nat)
  | unsafeHeadUpdated (head : Nat)
  | safeHeadUpdated (head : Nat)
  | finalizedUpdated (head : Nat)
  | blockExecuted (blockNumber executionTimeUs gasUsed : Nat)
  | backlogUpdated (blocksFetched lastFetchedBlock : Nat)
  | modeInfo (nodeRole : String) (startBlock : Option Nat) (skipSync : Bool)
  | togglePause
  | reset
  | harnessModeEnabled
  | harnessBlockProduced (blockNumber txCount : Nat)
  | harnessInitProgress (currentBlock totalBlocks : Nat) (message : String)
  | harnessInitComplete (finalBlock : Nat)
  | sequencerInit (checkpointBatch minBatchSize batchIntervalSecs maxBlocksPerBatch : Nat)
  | validatorInit (checkpointBatch : Nat)
  | executionInit (startBlock checkpointBlock : Nat) (harnessMode : Bool)
  | blockBuilderInit (rpcUrl : String) (pollIntervalMs : Nat)
  | waitingForChain (service : String)
  | l1BlockProduced (blockNumber : Nat)
  | batchIncludedInL1 (l1BlockNumber batchNumber blockCount : Nat)
  deriving DecidableEq, Repr

/-- The counts are converted as they are: `bytes as f64 / 1024.0`. -/
def formatBytes (F : Type) [F64 F] (bytes : Nat) : String :=
  if bytes < 1024 then s!"{bytes} B"
  else if bytes < 1024 * 1024 then s!"{F64.fixed 2 (F64.ofNat bytes / F64.ofNat 1024 : F)} KB"
  else s!"{F64.fixed 2 (F64.ofNat bytes / F64.ofNat (1024 * 1024) : F)} MB"

def formatDuration (duration : Duration) : String :=
  let totalSecs := duration.asSecs
  if totalSecs < 60 then s!"{totalSecs}s"
  else if totalSecs < 3600 then s!"{totalSecs / 60}m {totalSecs % 60}s"
  else s!"{totalSecs / 3600}h {totalSecs % 3600 / 60}m"

end Montana.Tui
