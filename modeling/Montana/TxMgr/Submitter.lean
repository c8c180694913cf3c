import Montana.TxMgr.SendState

/-! How the errors of the node are classified, and which are tried again. -/

namespace Montana.TxMgr

open Storage (B256)

/-- `str::contains`. -/
def contains (text pattern : String) : Bool := decide (pattern.toList <:+: text.toList)

namespace TxError

/-- `to_lowercase` follows the tables of Unicode; nothing depends on them. -/
def fromRpcError (toLowercase : String → String) (msg : String) : TxError :=
  let lower := toLowercase msg
  if contains lower "underpriced" || contains lower "replacement transaction underpriced" then
    .underpriced
  else if contains lower "nonce too low" then .nonceTooLow
  else if contains lower "insufficient funds" || contains lower "insufficient balance" then
    .insufficientFunds
  else if contains lower "transaction reverted" || contains lower "execution reverted" ||
      contains lower "revert" then
    .reverted
  else if contains lower "already known" || contains lower "already reserved" then .alreadyReserved
  else .rpc msg

def isRetryable : TxError → Bool
  | .rpc _ | .underpriced | .nonceTooLow => true
  | _ => false

end TxError

structure TxSubmitter where
  config : TxManagerConfig
  deriving DecidableEq, Repr

namespace TxSubmitter

def shouldAbort (self : TxSubmitter) (error : TxError) (state : SendState) : Bool :=
  match error with
  | .alreadyReserved | .insufficientFunds => true
  | .nonceTooLowAbort => true
  | .nonceTooLow => state.shouldAbortNonce self.config.safeAbortNonceTooLowCount
  | _ => false

/-- The node's answer to the raw transaction is its hash or the text of an error. -/
def publish (toLowercase : String → String) (answer : Except String B256) : Except TxError B256 :=
  answer.mapError fun errorMsg =>
    if contains (toLowercase errorMsg) "already known" then .alreadyReserved
    else TxError.fromRpcError toLowercase errorMsg

end TxSubmitter

end Montana.TxMgr
