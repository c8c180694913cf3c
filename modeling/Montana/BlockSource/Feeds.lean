import Mathlib.Algebra.GroupWithZero.Nat
import Montana.Common.Primitives
import Montana.Lib.Polling

/-! The two loops that feed new blocks of a chain to a consumer. -/

namespace Montana.BlockSource

open Polling (Turn Outcome)

/-- `u64::MAX`. -/
def u64Max : Nat := 2 ^ 64 - 1

/-- The provider's blocks, and whether the consumer still takes blocks after some of them. -/
structure Endpoint (Block : Type) where
  getBlockByNumber : Nat → Except String (Option Block)
  takes : List Block → Bool

/-- How a loop returned. -/
inductive Exit where
  | consumerClosed
  | failed (message : String)
  deriving DecidableEq, Repr

namespace RpcBlockProducer

/-- The local variable of `produce`, and what it has sent. -/
structure State (Block : Type) where
  lastBlock : Nat
  sent : List Block

/-- The block before `start_block`, as far as there is one. -/
def start (startBlock : Nat) : State Block where
  lastBlock := startBlock - 1
  sent := []

/-- One pass through the loop over the new blocks. -/
def fetchNext (endpoint : Endpoint Block) (latest : Nat) (self : State Block) : Turn (State Block) Exit :=
  if self.lastBlock < latest then
    let nextBlock := self.lastBlock + 1
    match endpoint.getBlockByNumber nextBlock with
    | .error e => .stopped (.failed e) self
    | .ok none => .stopped (.failed s!"Block {nextBlock} not found") self
    | .ok (some block) =>
      if endpoint.takes self.sent then .again { lastBlock := nextBlock, sent := self.sent ++ [block] }
      else .stopped .consumerClosed self
  else .caughtUp

/-- `produce`, for these answers of `get_block_number`. -/
def produce (endpoint : Endpoint Block) (startBlock fuel : Nat) (tips : List (Except Exit Nat)) :
    Outcome (State Block) Exit :=
  Polling.poll (fetchNext endpoint) fuel tips (start startBlock)

end RpcBlockProducer

inductive TuiEvent where
  | blockBuilt (number txCount sizeBytes gasUsed : Nat)
  | unsafeHeadUpdated (number : Nat)
  | backlogUpdated (blocksFetched lastFetchedBlock : Nat)
  deriving DecidableEq, Repr

namespace BlockFeeder

/-- The local variables of `run_block_feeder`, and what it has sent. -/
structure State (Block : Type) where
  current : Nat
  blocksFetched : Nat
  sent : List Block
  tuiEvents : Option (List TuiEvent)

def start (startBlock : Nat) (withTui : Bool) : State Block where
  current := startBlock
  blocksFetched := 0
  sent := []
  tuiEvents := if withTui then some [] else none

variable [BlockResponse Block Tx] [BlockJson Block]

/-- The events of a fetched block, before it is sent. -/
def announce (self : State Block) (block : Block) : Option (List TuiEvent) :=
  let sizeBytes := match BlockJson.blockToVec block with
    | .ok bytes => bytes.length
    | .error _ => 0
  self.tuiEvents.map (· ++
    [.blockBuilt self.current (BlockResponse.transactions block).length sizeBytes (BlockResponse.gasUsed block),
     .unsafeHeadUpdated self.current])

/-- One pass through the loop up to the chain tip. In a release build the counter wraps. -/
def fetchNext (endpoint : Endpoint Block) (chainTip : Nat) (self : State Block) : Turn (State Block) Exit :=
  if self.current ≤ chainTip then
    match endpoint.getBlockByNumber self.current with
    | .error e => .stopped (.failed e) self
    | .ok none => .stopped (.failed s!"Block {self.current} not found") self
    | .ok (some block) =>
      let events := announce self block
      if endpoint.takes self.sent then
        .again {
          current := (self.current + 1) % 2 ^ 64
          blocksFetched := self.blocksFetched + 1
          sent := self.sent ++ [block]
          tuiEvents := events.map (· ++ [.backlogUpdated (self.blocksFetched + 1) self.current]) }
      else .stopped .consumerClosed { self with tuiEvents := events }
  else .caughtUp

/-- `run_block_feeder`, for these answers of `get_block_number`. -/
def runBlockFeeder (endpoint : Endpoint Block) (startBlock fuel : Nat) (tips : List (Except Exit Nat))
    (withTui : Bool) : Outcome (State Block) Exit :=
  Polling.poll (fetchNext endpoint) fuel tips (start startBlock withTui)

end BlockFeeder

end Montana.BlockSource
