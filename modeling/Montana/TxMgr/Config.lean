import Montana.Storage.State

/-! What the transaction manager is configured with, and the errors it reports. -/

namespace Montana.TxMgr

open Storage (U256)

abbrev U32 := BitVec 32
abbrev U64 := BitVec 64
abbrev U128 := BitVec 128

/-- The fields that the components read or that bound what they do. -/
structure TxManagerConfig where
  numConfirmations : U64 := 10
  safeAbortNonceTooLowCount : U32 := 3
  feeLimitMultiplier : U64 := 5
  /-- `(min_tip_cap_gwei * 1e9) as u128`: the product of floats, cut to an integer. -/
  minTipCapWei : U128 := 1000000000
  maxBlobFeePerGas : Option U256 := none
  priceBumpPercent : U64 := 10
  blobPriceBumpPercent : U64 := 100
  deriving DecidableEq, Repr

inductive TxError where
  | rpc (message : String)
  | underpriced
  | nonceTooLow
  | nonceTooLowAbort
  | notInMempool
  | alreadyReserved
  | blobGasTooExpensive (current max : U128)
  | insufficientFunds
  | confirmationTimeout
  | reverted
  | signing (message : String)
  | gasEstimation (message : String)
  deriving DecidableEq, Repr

def TxError.display : TxError → String
  | .rpc message => s!"RPC error: {message}"
  | .underpriced => "Transaction underpriced"
  | .nonceTooLow => "Nonce too low"
  | .nonceTooLowAbort => "Nonce too low count exceeded threshold"
  | .notInMempool => "Transaction not in mempool after timeout"
  | .alreadyReserved => "Transaction type conflict: already reserved"
  | .blobGasTooExpensive current max => s!"Blob gas too expensive: {current.toNat} > {max.toNat}"
  | .insufficientFunds => "Insufficient funds"
  | .confirmationTimeout => "Timeout waiting for confirmation"
  | .reverted => "Transaction reverted"
  | .signing message => s!"Signing error: {message}"
  | .gasEstimation message => s!"Gas estimation failed: {message}"

end Montana.TxMgr
