/-! The types that pass between the node's roles: L2 blocks, the payload of a
batch, its compressed form, and the traits of the two ends of L1. -/

namespace Montana

abbrev Bytes := List UInt8

/-- `OpBlock` is the RPC's block type; these are the parts that are read. -/
class BlockResponse (Block : Type) (Tx : outParam Type) where
  number : Block → Nat
  timestamp : Block → Nat
  gasUsed : Block → Nat
  transactions : Block → List Tx

structure OpBlockBatch (Block : Type) where
  blocks : List Block
  deriving DecidableEq, Repr

/-- `serde_json` on blocks and on batch payloads. -/
class BlockJson (Block : Type) where
  blockToVec : Block → Except String Bytes
  toBytes : OpBlockBatch Block → Except String Bytes
  fromBytes : Bytes → Except String (OpBlockBatch Block)

/-- The reader gives back every payload that the writer accepted. -/
class LawfulBlockJson (Block : Type) [BlockJson Block] : Prop where
  roundtrip : ∀ (batch : OpBlockBatch Block) (bytes : Bytes),
    BlockJson.toBytes batch = .ok bytes → BlockJson.fromBytes bytes = .ok batch

structure CompressedBatch where
  batchNumber : Nat
  data : Bytes
  blockCount : Nat
  firstBlock : Nat
  lastBlock : Nat
  deriving DecidableEq, Repr

structure SubmissionReceipt where
  batchNumber : Nat
  txHash : Bytes
  l1Block : Nat
  blobHash : Option Bytes
  deriving DecidableEq, Repr

inductive CompressionError where
  | failed (message : String)
  | corrupted
  | tooLarge (size max : Nat)
  deriving DecidableEq, Repr

def CompressionError.display : CompressionError → String
  | .failed message => s!"Compression failed: {message}"
  | .corrupted => "Decompression failed: corrupted data"
  | .tooLarge size max => s!"Input too large: {size} > {max}"

structure Compressor where
  compress : Bytes → Except CompressionError Bytes
  decompress : Bytes → Except CompressionError Bytes

/-- The contract of the trait: `decompress` must roundtrip with `compress`. -/
def Compressor.Roundtrips (compressor : Compressor) : Prop :=
  ∀ data packed, compressor.compress data = .ok packed → compressor.decompress packed = .ok data

/-- The blocks that a batch on L1 contains, when it can be decoded. -/
def payload [BlockJson Block] (compressor : Compressor) (batch : CompressedBatch) :
    Option (List Block) :=
  match compressor.decompress batch.data with
  | .error _ => none
  | .ok data =>
    match BlockJson.fromBytes data with
    | .error _ => none
    | .ok blockBatch => some blockBatch.blocks

inductive SinkError where
  | connection (message : String)
  | txFailed (message : String)
  | insufficientFunds
  | blobGasTooExpensive (max current : Nat)
  | timeout
  deriving DecidableEq, Repr

def SinkError.display : SinkError → String
  | .connection message => s!"L1 connection failed: {message}"
  | .txFailed message => s!"Transaction failed: {message}"
  | .insufficientFunds => "Insufficient funds"
  | .blobGasTooExpensive max current => s!"Blob gas too expensive: {current} > {max}"
  | .timeout => "Timeout waiting for confirmation"

inductive SourceError where
  | connection (message : String)
  | empty
  deriving DecidableEq, Repr

def SourceError.display : SourceError → String
  | .connection message => s!"RPC connection failed: {message}"
  | .empty => "No blocks available"

/-- A sink may answer from any state of its own, so one state machine covers
every pattern of outcomes. -/
class BatchSink (Sink : Type) where
  submit : Sink → CompressedBatch → Except SinkError SubmissionReceipt × Sink

class L1BatchSource (Source : Type) where
  nextBatch : Source → Except SourceError (Option CompressedBatch) × Source
  l1Head : Source → Except SourceError Nat

end Montana
