import Montana.Lib.Threads
import Montana.TxMgr.Config

/-! The nonces of one sender, handed out to concurrent callers. -/

namespace Montana.TxMgr

open Threads (Program)

/-- What callers and the chain have seen of a tracker. -/
inductive Entry where
  | returned (nonce : Nat)
  | read (answer : Nat)
  | wrote (nonce : Nat)
  deriving DecidableEq, Repr

/-- The cached nonce, with the history of what happened to it. -/
structure NonceTracker where
  nonce : Option Nat
  log : List Entry
  deriving DecidableEq, Repr

namespace NonceTracker

def new : NonceTracker := ⟨none, []⟩

/-- The nonce is handed out and the cache incremented, which wraps in a release build. -/
def take (self : NonceTracker) (current : Nat) : NonceTracker where
  nonce := some ((current + 1) % 2 ^ 64)
  log := self.log ++ [.returned current]

end NonceTracker

/-- A call of the tracker. A reset that has read the chain remembers the answer and how long
the history was. -/
inductive Call where
  | nextNonce
  | returned (nonce : Nat)
  | reset
  | write (chainNonce since : Nat)
  | resetDone
  | failed (error : TxError)
  | cancelled
  deriving DecidableEq, Repr

inductive Request where
  | nextNonce
  | reset

def Request.start : Request → Call
  | .nextNonce => .nextNonce
  | .reset => .reset

/-- A call goes on, with what the provider answers if it is asked, or is dropped. -/
inductive Move where
  | advance (answer : Except String Nat)
  | cancel

namespace Call

/-- `next_nonce` runs under the write lock from its fetch to its return. -/
def takeNonce (self : NonceTracker) (answer : Except String Nat) : Call × NonceTracker :=
  match self.nonce with
  | some current => (.returned current, self.take current)
  | none =>
    match answer with
    | .error e => (.failed (.rpc s!"Failed to fetch nonce: {e}"), self)
    | .ok chainNonce => (.returned chainNonce, self.take chainNonce)

/-- `reset` reads the chain first and takes the lock afterwards. -/
def readChain (self : NonceTracker) (answer : Except String Nat) : Call × NonceTracker :=
  match answer with
  | .error e => (.failed (.rpc s!"Failed to reset nonce: {e}"), self)
  | .ok chainNonce =>
    (.write chainNonce (self.log.length + 1), { self with log := self.log ++ [.read chainNonce] })

def advance (self : NonceTracker) (answer : Except String Nat) : Call → Call × NonceTracker
  | .nextNonce => takeNonce self answer
  | .reset => readChain self answer
  | .write chainNonce _ =>
    (.resetDone, { nonce := some chainNonce, log := self.log ++ [.wrote chainNonce] })
  | ended => (ended, self)

def cancel : Call → Call
  | .nextNonce => .cancelled
  | .reset => .cancelled
  | .write _ _ => .cancelled
  | ended => ended

end Call

/-- The calls of all users of the tracker. -/
def calls : Program NonceTracker Call Request Move where
  start := Request.start
  next
    | .advance answer, _, self, call => call.advance self answer
    | .cancel, _, self, call => (call.cancel, self)

end Montana.TxMgr
