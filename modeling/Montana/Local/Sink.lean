import Montana.Common.FileSystem
import Montana.Lib.Hex
import Montana.Lib.LittleEndian

/-! The batch sink that writes to a local JSON file. -/

namespace Montana.Local

structure JsonReceipt where
  batchNumber : Nat
  txHash : String
  l1Block : Nat
  blobHash : Option String
  deriving DecidableEq, Repr

structure JsonBatch where
  batchNumber : Nat
  data : String
  deriving DecidableEq, Repr

structure JsonSinkData where
  batches : List JsonBatch := []
  receipts : List JsonReceipt := []
  deriving DecidableEq, Repr

def bytesToHex (bytes : Bytes) : String :=
  "0x" ++ String.ofList (Hex.encode bytes)

/-- What a call of `fs::write` comes to. One that fails may leave anything behind. -/
inductive WriteOutcome where
  | written
  | failed (message : String) (left : Option Bytes)
  deriving DecidableEq, Repr

structure LocalBatchSink where
  outputPath : Option Path
  data : JsonSinkData
  nextL1Block : Nat
  capacity : Nat
  deriving DecidableEq, Repr

/-- The deterministic hashes of a batch, from its number. -/
def txHash (batchNumber : Nat) : Bytes :=
  LittleEndian.encode 8 batchNumber ++ List.replicate 24 0

def blobHash (batchNumber : Nat) : Bytes :=
  1 :: LittleEndian.encode 8 batchNumber ++ List.replicate 23 0

def jsonBatch (batch : CompressedBatch) : JsonBatch where
  batchNumber := batch.batchNumber
  data := bytesToHex batch.data

def jsonReceipt (batch : CompressedBatch) (l1Block : Nat) : JsonReceipt where
  batchNumber := batch.batchNumber
  txHash := bytesToHex (txHash batch.batchNumber)
  l1Block := l1Block
  blobHash := some (bytesToHex (blobHash batch.batchNumber))

namespace LocalBatchSink

def new (outputPath : Path) : LocalBatchSink where
  outputPath := some outputPath
  data := {}
  nextL1Block := 1
  capacity := 128 * 1024

def inMemory : LocalBatchSink where
  outputPath := none
  data := {}
  nextL1Block := 1
  capacity := 128 * 1024

def withCapacity (self : LocalBatchSink) (capacity : Nat) : LocalBatchSink := { self with capacity }

variable (toStringPretty : JsonSinkData → Except String Bytes)

def writeToFile (self : LocalBatchSink) (files : FileSystem) (outcome : WriteOutcome) :
    Except SinkError Unit × FileSystem :=
  match self.outputPath with
  | none => (.ok (), files)
  | some path =>
    match toStringPretty self.data with
    | .error e => (.error (.txFailed s!"JSON serialization error: {e}"), files)
    | .ok json =>
      match outcome with
      | .failed message left =>
        (.error (.txFailed s!"File write error: {message}"), Function.update files path left)
      | .written => (.ok (), files.write path json)

/-- The sink once a batch is in its data, which `submit` makes of it before it writes the file. -/
def record (self : LocalBatchSink) (batch : CompressedBatch) : LocalBatchSink :=
  { self with
    nextL1Block := self.nextL1Block + 1
    data := {
      batches := self.data.batches ++ [jsonBatch batch]
      receipts := self.data.receipts ++ [jsonReceipt batch self.nextL1Block] } }

/-- Locks are never poisoned: nothing panics while it holds one. -/
def submit (self : LocalBatchSink) (files : FileSystem) (batch : CompressedBatch) (outcome : WriteOutcome) :
    Except SinkError SubmissionReceipt × LocalBatchSink × FileSystem :=
  let l1Block := self.nextL1Block
  let self := self.record batch
  match self.writeToFile toStringPretty files outcome with
  | (.error e, files) => (.error e, self, files)
  | (.ok (), files) =>
    (.ok {
      batchNumber := batch.batchNumber
      txHash := txHash batch.batchNumber
      l1Block
      blobHash := some (blobHash batch.batchNumber) }, self, files)

end LocalBatchSink

end Montana.Local
