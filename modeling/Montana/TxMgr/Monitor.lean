import Montana.Lib.Polling
import Montana.TxMgr.Config

/-! Waiting for the receipt of a transaction, and for its confirmations. -/

namespace Montana.TxMgr

open Storage (B256)

/-- The receipt as the provider answers it. -/
structure TransactionReceipt where
  transactionHash : B256
  status : Bool
  blockNumber : Option Nat
  blockHash : Option B256
  gasUsed : U64
  effectiveGasPrice : U128
  blobGasUsed : Option U64
  blobGasPrice : Option U128
  deriving DecidableEq, Repr

structure TxReceipt where
  txHash : B256
  blockNumber : Nat
  blockHash : B256
  gasUsed : U64
  effectiveGasPrice : U128
  blobGasUsed : Option U64
  blobGasPrice : Option U128
  deriving DecidableEq, Repr

structure MinedTransaction where
  hash : B256
  status : Bool
  gasUsed : U64
  effectiveGasPrice : U128
  blobGasUsed : Option U64
  blobGasPrice : Option U128
  deriving DecidableEq, Repr

/-- A canonical chain, by the hashes of its blocks. -/
structure Chain where
  genesis : B256
  later : List B256
  deriving DecidableEq, Repr

namespace Chain

def blocks (chain : Chain) : List B256 := chain.genesis :: chain.later

def getBlockNumber (chain : Chain) : Nat := chain.later.length

section

-- the transactions in the block of this hash
variable (mined : B256 → List MinedTransaction)

def receiptFrom (txHash : B256) : Nat → List B256 → Option TransactionReceipt
  | _, [] => none
  | number, block :: later =>
    match (mined block).find? fun transaction => transaction.hash = txHash with
    | some transaction => some {
        transactionHash := transaction.hash
        status := transaction.status
        blockNumber := some number
        blockHash := some block
        gasUsed := transaction.gasUsed
        effectiveGasPrice := transaction.effectiveGasPrice
        blobGasUsed := transaction.blobGasUsed
        blobGasPrice := transaction.blobGasPrice }
    | none => receiptFrom txHash (number + 1) later

def getTransactionReceipt (chain : Chain) (txHash : B256) : Option TransactionReceipt :=
  receiptFrom mined txHash 0 chain.blocks

end

end Chain

structure TxMonitor where
  config : TxManagerConfig
  deriving DecidableEq, Repr

namespace TxMonitor

/-- The request fails or is answered from the chain that is canonical at the time. -/
abbrev Answer := Except String Chain

section

variable (mined : B256 → List MinedTransaction)

def getReceipt (txHash : B256) (answer : Answer) : Except TxError (Option TxReceipt) :=
  match answer with
  | .error e => .error (.rpc e)
  | .ok chain =>
    match chain.getTransactionReceipt mined txHash with
    | none => .ok none
    | some receipt =>
      if !receipt.status then .error .reverted
      else
        match receipt.blockNumber with
        | none => .error (.rpc "Receipt missing block number")
        | some blockNumber =>
          match receipt.blockHash with
          | none => .error (.rpc "Receipt missing block hash")
          | some blockHash => .ok (some {
              txHash := receipt.transactionHash
              blockNumber
              blockHash
              gasUsed := receipt.gasUsed
              effectiveGasPrice := receipt.effectiveGasPrice
              blobGasUsed := receipt.blobGasUsed
              blobGasPrice := receipt.blobGasPrice })

/-- It waits as long as there is no receipt. -/
def waitForReceipt (txHash : B256) (answers : List Answer) :
    Option (Except TxError TxReceipt × List Answer) :=
  Polling.ask (fun answer => match getReceipt mined txHash answer with
    | .error e => some (.error e)
    | .ok (some receipt) => some (.ok receipt)
    | .ok none => none) answers

end

def isConfirmed (self : TxMonitor) (receipt : TxReceipt) (answer : Answer) : Except TxError Bool :=
  match answer with
  | .error e => .error (.rpc e)
  | .ok chain =>
    let currentBlock := chain.getBlockNumber
    if currentBlock < receipt.blockNumber then .ok false
    else .ok (self.config.numConfirmations.toNat ≤ currentBlock - receipt.blockNumber)

/-- The hash of the transaction is not used. -/
def waitForConfirmations (self : TxMonitor) (_txHash : B256) (receipt : TxReceipt) (answers : List Answer) :
    Option (Except TxError Unit × List Answer) :=
  Polling.ask (fun answer => match self.isConfirmed receipt answer with
    | .error e => some (.error e)
    | .ok true => some (.ok ())
    | .ok false => none) answers

end TxMonitor

end Montana.TxMgr
