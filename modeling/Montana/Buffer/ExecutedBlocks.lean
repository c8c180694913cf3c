import Montana.Common.Primitives
import Montana.Lib.Threads

/-! The buffer of executed blocks between execution and batch submission. -/

namespace Montana.Buffer

structure L2BlockData where
  blockNumber : Nat
  timestamp : Nat
  transactions : List Bytes
  deriving DecidableEq, Repr

/-- The transactions of the block in their RLP encoding. -/
def opBlockToL2Data [BlockResponse Block Tx] (encode : Tx → Bytes) (block : Block) : L2BlockData where
  blockNumber := BlockResponse.number block
  timestamp := BlockResponse.timestamp block
  transactions := (BlockResponse.transactions block).map encode

inductive BufferError where
  | full (capacity : Nat)
  | lockFailed
  | conversionFailed (message : String)
  deriving DecidableEq, Repr

def BufferError.display : BufferError → String
  | .full capacity => s!"Buffer is full (capacity: {capacity})"
  | .lockFailed => "Failed to acquire buffer lock"
  | .conversionFailed message => s!"Block conversion failed: {message}"

/-- The queue under its lock and the permits of the semaphore. What was enqueued and drained
so far is kept as history. -/
structure ExecutedBlockBuffer where
  pending : List L2BlockData
  writer : Option Nat
  readers : Nat
  capacity : Nat
  slots : Nat
  enqueued : List L2BlockData
  drained : List L2BlockData
  deriving DecidableEq, Repr

namespace ExecutedBlockBuffer

/-- Panics if `capacity` is zero. -/
def new (capacity : Nat) : Option ExecutedBlockBuffer :=
  if capacity > 0 then
    some { pending := [], writer := none, readers := 0, capacity, slots := capacity,
           enqueued := [], drained := [] }
  else none

def pushBack (self : ExecutedBlockBuffer) (data : L2BlockData) : ExecutedBlockBuffer :=
  { self with pending := self.pending ++ [data], enqueued := self.enqueued ++ [data] }

def drain (self : ExecutedBlockBuffer) : ExecutedBlockBuffer :=
  { self with pending := [], drained := self.drained ++ self.pending }

@[simp, grind =] theorem pushBack_slots (self : ExecutedBlockBuffer) (data : L2BlockData) :
    (self.pushBack data).slots = self.slots := rfl

@[simp, grind =] theorem pushBack_pending (self : ExecutedBlockBuffer) (data : L2BlockData) :
    (self.pushBack data).pending = self.pending ++ [data] := rfl

@[simp, grind =] theorem pushBack_enqueued (self : ExecutedBlockBuffer) (data : L2BlockData) :
    (self.pushBack data).enqueued = self.enqueued ++ [data] := rfl

@[simp, grind =] theorem pushBack_drained (self : ExecutedBlockBuffer) (data : L2BlockData) :
    (self.pushBack data).drained = self.drained := rfl

@[simp, grind =] theorem drain_slots (self : ExecutedBlockBuffer) : self.drain.slots = self.slots := rfl

@[simp, grind =] theorem drain_pending (self : ExecutedBlockBuffer) : self.drain.pending = [] := rfl

@[simp, grind =] theorem drain_enqueued (self : ExecutedBlockBuffer) : self.drain.enqueued = self.enqueued := rfl

@[simp, grind =] theorem drain_drained (self : ExecutedBlockBuffer) :
    self.drain.drained = self.drained ++ self.pending := rfl

def isFree (self : ExecutedBlockBuffer) : Bool := self.writer.isNone && self.readers == 0

end ExecutedBlockBuffer

/-- A call of the buffer, by the step it takes next. -/
inductive Call (Block : Type) where
  -- `push`
  | acquire (block : Block)
  | write (block : Block)
  | pushBack (block : Block)
  | unlock
  | forget
  | pushed
  -- `try_push`, whose guard lives until it returns
  | tryAcquire (block : Block)
  | tryWrite (block : Block)
  | tryPushBack (block : Block)
  | tryForget
  | tryUnlock
  | tryPushed
  | dropPermit
  | refused (error : BufferError)
  -- `pending_blocks`
  | writeToDrain
  | drain
  | unlockDrained (blocks : List L2BlockData)
  | addPermits (blocks : List L2BlockData)
  | returned (blocks : List L2BlockData)
  -- `len` and `is_empty`
  | read
  | length
  | counted (length : Nat)
  | cancelled
  deriving DecidableEq, Repr

inductive Request (Block : Type) where
  | push (block : Block)
  | tryPush (block : Block)
  | pendingBlocks
  | len

def Request.start : Request Block → Call Block
  | .push block => .acquire block
  | .tryPush block => .tryAcquire block
  | .pendingBlocks => .writeToDrain
  | .len => .read

inductive Move where
  | advance
  | cancel

namespace Call

/-- One step of a call. It stays where it is while it waits for a permit or for the lock. -/
def advance [BlockResponse Block Tx] (encode : Tx → Bytes) (id : Nat) (self : ExecutedBlockBuffer) :
    Call Block → Call Block × ExecutedBlockBuffer
  | .acquire block =>
    if self.slots = 0 then (.acquire block, self) else (.write block, { self with slots := self.slots - 1 })
  | .write block =>
    if self.isFree then (.pushBack block, { self with writer := some id }) else (.write block, self)
  | .pushBack block => (.unlock, self.pushBack (opBlockToL2Data encode block))
  | .unlock => (.forget, { self with writer := none })
  | .forget => (.pushed, self)
  | .tryAcquire block =>
    if self.slots = 0 then (.refused (.full self.capacity), self)
    else (.tryWrite block, { self with slots := self.slots - 1 })
  | .tryWrite block =>
    if self.isFree then (.tryPushBack block, { self with writer := some id }) else (.dropPermit, self)
  | .tryPushBack block => (.tryForget, self.pushBack (opBlockToL2Data encode block))
  | .tryForget => (.tryUnlock, self)
  | .tryUnlock => (.tryPushed, { self with writer := none })
  | .dropPermit => (.refused .lockFailed, { self with slots := self.slots + 1 })
  | .writeToDrain =>
    if self.isFree then (.drain, { self with writer := some id }) else (.writeToDrain, self)
  | .drain => (.unlockDrained self.pending, self.drain)
  | .unlockDrained blocks => (.addPermits blocks, { self with writer := none })
  | .addPermits blocks => (.returned blocks, { self with slots := self.slots + blocks.length })
  | .read =>
    if self.writer.isNone then (.length, { self with readers := self.readers + 1 }) else (.read, self)
  | .length => (.counted self.pending.length, { self with readers := self.readers - 1 })
  | ended => (ended, self)

/-- A call whose future is dropped while it waits gives back the permit it holds. -/
def cancel (self : ExecutedBlockBuffer) : Call Block → Call Block × ExecutedBlockBuffer
  | .acquire _ => (.cancelled, self)
  | .write _ => (.cancelled, { self with slots := self.slots + 1 })
  | .writeToDrain => (.cancelled, self)
  | .read => (.cancelled, self)
  | running => (running, self)

end Call

open Threads (Program Pool Turn)

/-- The calls of all tasks that share the buffer. -/
def calls [BlockResponse Block Tx] (encode : Tx → Bytes) :
    Program ExecutedBlockBuffer (Call Block) (Request Block) Move where
  start := Request.start
  next
    | .advance, id, self, call => call.advance encode id self
    | .cancel, _, self, call => call.cancel self

end Montana.Buffer
