import Montana.Anvil.Provider
import Montana.Lib.LittleEndian

/-! The two ends of the batch inbox: a sink that sends batches to its address, and a
source that scans the blocks of L1 for them. -/

namespace Montana.Anvil

/-- The calldata of a batch: block count, first and last block in 8 bytes each, then the data. -/
def encodeBatch (batch : CompressedBatch) : Bytes :=
  LittleEndian.encode 8 batch.blockCount ++ LittleEndian.encode 8 batch.firstBlock ++
    LittleEndian.encode 8 batch.lastBlock ++ batch.data

/-- The number is not part of the calldata; input without a header gets the defaults. -/
def decodeBatch (batchNumber : Nat) (input : Bytes) : CompressedBatch :=
  if input.length ≥ 24 then {
    batchNumber
    blockCount := LittleEndian.decode (input.take 8)
    firstBlock := LittleEndian.decode ((input.drop 8).take 8)
    lastBlock := LittleEndian.decode ((input.drop 16).take 8)
    data := input.drop 24 }
  else { batchNumber, data := input, blockCount := 1, firstBlock := 0, lastBlock := 0 }

structure AnvilBatchSink where
  provider : Provider
  sender : Address
  batchInbox : Address
  /-- History: the batches whose transaction reached the node. -/
  sent : List CompressedBatch
  deriving DecidableEq, Repr

namespace AnvilBatchSink

def new (provider : Provider) (sender batchInbox : Address) : AnvilBatchSink where
  provider := provider
  sender := sender
  batchInbox := batchInbox
  sent := []

def txRequest (self : AnvilBatchSink) (batch : CompressedBatch) : L1Transaction where
  sender := self.sender
  destination := some self.batchInbox
  input := encodeBatch batch

def submit (self : AnvilBatchSink) (batch : CompressedBatch) :
    Except SinkError SubmissionReceipt × AnvilBatchSink :=
  let sent := if self.provider.reaches then self.sent ++ [batch] else self.sent
  match self.provider.sendTransaction (self.txRequest batch) with
  | (.error e, provider) =>
    (.error (.txFailed s!"Failed to send transaction: {e}"), { self with provider, sent })
  | (.ok txHash, provider) =>
    match provider.getReceipt with
    | (.error e, provider) =>
      (.error (.txFailed s!"Failed to get receipt: {e}"), { self with provider, sent })
    | (.ok blockNumber, provider) =>
      (.ok { batchNumber := batch.batchNumber, txHash, l1Block := blockNumber.getD 0, blobHash := none },
        { self with provider, sent })

instance : BatchSink AnvilBatchSink where
  submit := submit

end AnvilBatchSink

structure AnvilBatchSource where
  provider : Provider
  batchInbox : Address
  lastScannedBlock : Nat
  nextBatchNumber : Nat
  /-- History: the batches returned, and the heads observed by calls that found nothing more. -/
  returned : List CompressedBatch
  drained : List Nat
  deriving DecidableEq, Repr

namespace AnvilBatchSource

def new (provider : Provider) (batchInbox : Address) : AnvilBatchSource where
  provider := provider
  batchInbox := batchInbox
  lastScannedBlock := 0
  nextBatchNumber := 1
  returned := []
  drained := []

/-- The loop over the blocks from this number on, as many as there are up to the head
that was observed. -/
def scan (currentBlock : Nat) : Nat → Nat → AnvilBatchSource →
    Except SourceError (Option CompressedBatch) × AnvilBatchSource
  | 0, _, self => (.ok none, { self with drained := self.drained ++ [currentBlock] })
  | remaining + 1, blockNum, self =>
    match self.provider.getBlockByNumber blockNum with
    | (.error e, provider) => (.error (.connection e), { self with provider })
    | (.ok none, provider) => scan currentBlock remaining (blockNum + 1) { self with provider }
    | (.ok (some block), provider) =>
      match block.find? (·.destination = some self.batchInbox) with
      | some tx =>
        let batch := decodeBatch self.nextBatchNumber tx.input
        (.ok (some batch), { self with
          provider
          nextBatchNumber := self.nextBatchNumber + 1
          lastScannedBlock := blockNum
          returned := self.returned ++ [batch] })
      | none =>
        scan currentBlock remaining (blockNum + 1) { self with provider, lastScannedBlock := blockNum }

def nextBatch (self : AnvilBatchSource) :
    Except SourceError (Option CompressedBatch) × AnvilBatchSource :=
  match self.provider.getBlockNumber with
  | (.error e, provider) => (.error (.connection e), { self with provider })
  | (.ok currentBlock, provider) =>
    let self := { self with provider }
    if currentBlock ≤ self.lastScannedBlock then
      (.ok none, { self with drained := self.drained ++ [currentBlock] })
    else scan currentBlock (currentBlock - self.lastScannedBlock) (self.lastScannedBlock + 1) self

/-- `l1_head`; the provider's answer does not depend on what the call leaves behind. -/
def l1Head (self : AnvilBatchSource) : Except SourceError Nat :=
  match self.provider.getBlockNumber.1 with
  | .error e => .error (.connection e)
  | .ok head => .ok head

instance : L1BatchSource AnvilBatchSource where
  nextBatch := nextBatch
  l1Head := l1Head

/-- Calls of `next_batch`, each with the turns of its RPC calls. -/
def run (self : AnvilBatchSource) (calls : List (List Turn)) : AnvilBatchSource :=
  calls.foldl (fun self schedule =>
    (nextBatch { self with provider := { self.provider with schedule } }).2) self

end AnvilBatchSource

end Montana.Anvil
