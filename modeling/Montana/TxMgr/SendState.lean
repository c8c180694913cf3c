import Mathlib.Data.Finset.Card
import Montana.Lib.Words
import Montana.TxMgr.Config

/-! The state of one attempt to submit a transaction. -/

namespace Montana.TxMgr

open Storage (B256)
open Words (checkedAdd)

structure SendState where
  minedTxs : Finset B256
  successfulPublishCount : U32
  nonceTooLowCount : U32
  alreadyReserved : Bool
  bumpFees : Bool
  bumpCount : U32
  deriving DecidableEq

namespace SendState

def new : SendState where
  minedTxs := ∅
  successfulPublishCount := 0
  nonceTooLowCount := 0
  alreadyReserved := false
  bumpFees := false
  bumpCount := 0

/-- The counters panic on overflow. -/
def txPublished (self : SendState) : Option SendState :=
  (checkedAdd self.successfulPublishCount 1).map fun count => { self with successfulPublishCount := count }

def txMined (self : SendState) (hash : B256) : SendState :=
  { self with minedTxs := insert hash self.minedTxs }

def txNotMined (self : SendState) (hash : B256) : SendState :=
  let minedTxs := self.minedTxs.erase hash
  if minedTxs = ∅ then { self with minedTxs, nonceTooLowCount := 0 } else { self with minedTxs }

def nonceTooLow (self : SendState) : Option SendState :=
  (checkedAdd self.nonceTooLowCount 1).map fun count => { self with nonceTooLowCount := count }

def shouldAbortNonce (self : SendState) (threshold : U32) : Bool :=
  threshold > 0 && self.nonceTooLowCount ≥ threshold

def wasPublished (self : SendState) : Bool := self.successfulPublishCount > 0

def setBumpFees (self : SendState) : Option SendState :=
  (checkedAdd self.bumpCount 1).map fun count => { self with bumpFees := true, bumpCount := count }

def takeBumpFees (self : SendState) : Bool × SendState := (self.bumpFees, { self with bumpFees := false })

def minedCount (self : SendState) : Nat := self.minedTxs.card

/-- A call of one of the methods that change the state. -/
inductive Event where
  | txPublished
  | txMined (hash : B256)
  | txNotMined (hash : B256)
  | nonceTooLow
  | setBumpFees
  | takeBumpFees
  deriving DecidableEq, Repr

def apply (self : SendState) : Event → Option SendState
  | .txPublished => self.txPublished
  | .txMined hash => some (self.txMined hash)
  | .txNotMined hash => some (self.txNotMined hash)
  | .nonceTooLow => self.nonceTooLow
  | .setBumpFees => self.setBumpFees
  | .takeBumpFees => some self.takeBumpFees.2

def run (trace : List Event) : Option SendState := trace.foldlM apply new

end SendState

end Montana.TxMgr
