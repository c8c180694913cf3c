import Montana.TxMgr.Gas

/-! Transaction candidates, and the requests that are built from them. -/

namespace Montana.TxMgr

open Storage (Address U256)

structure TxCandidate (Sidecar : Type) where
  destination : Address
  value : U256
  data : Bytes
  blobSidecar : Option Sidecar
  gasLimit : Option U64
  deriving DecidableEq, Repr

namespace TxCandidate

variable {Sidecar : Type}

def calldata (destination : Address) (data : Bytes) : TxCandidate Sidecar where
  destination
  value := 0
  data
  blobSidecar := none
  gasLimit := none

def blob (destination : Address) (sidecar : Sidecar) : TxCandidate Sidecar where
  destination
  value := 0
  data := []
  blobSidecar := some sidecar
  gasLimit := none

def isBlob (self : TxCandidate Sidecar) : Bool := self.blobSidecar.isSome

end TxCandidate

/-- The fields that are set, none of them by default. -/
structure TransactionRequest (Sidecar : Type) where
  sender : Option Address := none
  destination : Option Address := none
  value : Option U256 := none
  input : Option Bytes := none
  nonce : Option U64 := none
  chainId : Option U64 := none
  gas : Option U64 := none
  maxFeePerGas : Option U128 := none
  maxPriorityFeePerGas : Option U128 := none
  sidecar : Option Sidecar := none
  maxFeePerBlobGas : Option U128 := none
  deriving DecidableEq, Repr

structure TxBuilder where
  chainId : U64
  deriving DecidableEq, Repr

namespace TxBuilder

variable {Sidecar : Type}

/-- It never returns an error; no value where a cap does not fit and the conversion panics. -/
def buildRequest (self : TxBuilder) (candidate : TxCandidate Sidecar) (nonce : U64) (caps : GasCaps)
    (sender : Address) : Option (Except TxError (TransactionRequest Sidecar)) := do
  let maxFeePerGas ← caps.maxFeePerGas
  let maxPriorityFeePerGas ← caps.maxPriorityFeePerGas
  let request : TransactionRequest Sidecar := {
    sender := some sender
    destination := some candidate.destination
    value := some candidate.value
    input := some candidate.data
    nonce := some nonce
    chainId := some self.chainId
    maxFeePerGas := some maxFeePerGas
    maxPriorityFeePerGas := some maxPriorityFeePerGas }
  let request := match candidate.gasLimit with
    | some gasLimit => { request with gas := some gasLimit }
    | none => request
  match candidate.blobSidecar with
  | none => return .ok request
  | some sidecar =>
    let request := { request with sidecar := some sidecar }
    match caps.blobFeeCap with
    | none => return .ok request
    | some blobFeeCap =>
      let maxFeePerBlobGas ← GasCaps.toU128 blobFeeCap
      return .ok { request with maxFeePerBlobGas := some maxFeePerBlobGas }

end TxBuilder

end Montana.TxMgr
