import Montana.Common.Primitives

/-! The L1 node behind an Anvil provider. Its chain grows while calls are on their
way, and every call may fail. -/

namespace Montana.Anvil

abbrev Address := BitVec 160

structure L1Transaction where
  sender : Address
  destination : Option Address
  input : Bytes
  deriving DecidableEq, Repr

abbrev L1Block := List L1Transaction

/-- A new block: the first transactions of the mempool between transactions of others. -/
structure Mined where
  before : List L1Transaction := []
  taken : Nat := 0
  after : List L1Transaction := []
  deriving DecidableEq, Repr

/-- What happens before one call is answered, and what the answer is made of. -/
structure Turn where
  mined : List Mined := []
  failure : Option String := none
  /-- Whether a transaction reached the node although its call failed. -/
  reached : Bool := false
  txHash : Bytes := []
  blockNumber : Option Nat := none
  deriving DecidableEq, Repr

structure Provider where
  genesis : L1Block
  /-- The blocks from number 1 on. -/
  blocks : List L1Block
  mempool : List L1Transaction
  /-- The turns of the coming calls; afterwards nothing happens on its own any more. -/
  schedule : List Turn
  deriving DecidableEq, Repr

namespace Provider

def fresh (genesis : L1Block) : Provider where
  genesis := genesis
  blocks := []
  mempool := []
  schedule := []

def mine (self : Provider) (mined : Mined) : Provider :=
  { self with
    blocks := self.blocks ++ [mined.before ++ self.mempool.take mined.taken ++ mined.after]
    mempool := self.mempool.drop mined.taken }

/-- Let the turn of the next call happen. -/
def turn (self : Provider) : Turn × Provider :=
  match self.schedule with
  | [] => ({}, self)
  | turn :: rest => (turn, turn.mined.foldl mine { self with schedule := rest })

def answer (turn : Turn) (value : α) : Except String α :=
  match turn.failure with
  | some e => .error e
  | none => .ok value

def getBlockNumber (self : Provider) : Except String Nat × Provider :=
  match self.turn with
  | (turn, self) => (answer turn self.blocks.length, self)

/-- A node that has announced a block also returns it: `none` is for blocks after the head. -/
def getBlockByNumber (self : Provider) (number : Nat) : Except String (Option L1Block) × Provider :=
  match self.turn with
  | (turn, self) => (answer turn (self.genesis :: self.blocks)[number]?, self)

/-- Whether the transaction of the next call will reach the node. -/
def reaches (self : Provider) : Bool :=
  self.turn.1.failure.isNone || self.turn.1.reached

def sendTransaction (self : Provider) (tx : L1Transaction) : Except String Bytes × Provider :=
  match self.turn with
  | (turn, after) => (answer turn turn.txHash,
      if self.reaches then { after with mempool := after.mempool ++ [tx] } else after)

/-- The wait for the receipt of the transaction sent last ends after it was mined. What
the turn has not mined until then goes into blocks of its own. -/
def getReceipt (self : Provider) : Except String (Option Nat) × Provider :=
  match self.turn with
  | (turn, after) =>
    match turn.failure with
    | some e => (.error e, after)
    | none => (.ok turn.blockNumber,
        { after with blocks := after.blocks ++ after.mempool.map ([·]), mempool := [] })

end Provider

end Montana.Anvil
