import Montana.Buffer.ExecutedBlocks
import Montana.Common.Checkpoint
import Montana.Lib.Runs
import Montana.Roles.Sequencer

/-! The batch driver: it collects blocks, decides when to cut a batch of them, and keeps
in a checkpoint which batches were submitted. -/

namespace Montana.Batcher

open Buffer (L2BlockData)
open Roles (BatcherConfig)

structure PendingBatch where
  batchNumber : Nat
  blocks : List L2BlockData
  uncompressedSize : Nat
  deriving DecidableEq, Repr

/-- The bytes of all transactions of these blocks. -/
def transactionBytes (blocks : List L2BlockData) : Nat :=
  ((blocks.flatMap (·.transactions)).map List.length).sum

@[simp] theorem transactionBytes_nil : transactionBytes [] = 0 := rfl

@[simp] theorem transactionBytes_append (first second : List L2BlockData) :
    transactionBytes (first ++ second) = transactionBytes first + transactionBytes second := by
  simp [transactionBytes]

structure BatchDriver (Store : Type) where
  config : BatcherConfig
  pendingBlocks : List L2BlockData
  currentSize : Nat
  lastSubmission : Nat
  batchNumber : Nat
  checkpoint : Checkpoint
  checkpointPath : Option String
  /-- Runtime: the monotone clock, the time of day and the disk. -/
  clock : Nat
  wallClock : Nat
  store : Store
  deriving DecidableEq, Repr

namespace BatchDriver

variable {Store : Type}

/-- `BatchDriver::new`: numbering starts at 1, since 0 in a checkpoint means none. -/
def new (config : BatcherConfig) (store : Store) (now : Nat) : BatchDriver Store where
  config := config
  pendingBlocks := []
  currentSize := 0
  lastSubmission := now
  batchNumber := 1
  checkpoint := .fresh
  checkpointPath := none
  clock := now
  wallClock := 0
  store := store

/-- A checkpoint that exists is taken over; the number of the next batch is not. -/
def withCheckpoint [CheckpointStore Store] (self : BatchDriver Store) (path : String) :
    Except CheckpointError (BatchDriver Store) :=
  match CheckpointStore.load self.store path with
  | .error e => .error e
  | .ok (some checkpoint) => .ok { self with checkpoint, checkpointPath := some path }
  | .ok none => .ok { self with checkpointPath := some path }

def addBlock (self : BatchDriver Store) (block : L2BlockData) : BatchDriver Store :=
  { self with
    currentSize := self.currentSize + (block.transactions.map List.length).sum
    pendingBlocks := self.pendingBlocks ++ [block] }

def addBlocks (self : BatchDriver Store) (blocks : List L2BlockData) : BatchDriver Store :=
  blocks.foldl addBlock self

def sizeReady (self : BatchDriver Store) : Bool :=
  self.currentSize ≥ self.config.minBatchSize

def timeReady (self : BatchDriver Store) : Bool :=
  self.clock - self.lastSubmission ≥ self.config.batchInterval

def blocksReady (self : BatchDriver Store) : Bool :=
  self.pendingBlocks.length ≥ self.config.maxBlocksPerBatch

def shouldSubmit (self : BatchDriver Store) : Bool :=
  self.sizeReady || self.timeReady || self.blocksReady

/-- The loop of `build_batch`: from the blocks taken so far to those taken and those left. -/
def drainLoop (maxBlocks : Nat) :
    List L2BlockData → List L2BlockData → List L2BlockData × List L2BlockData
  | blocks, [] => (blocks, [])
  | blocks, block :: rest =>
    if blocks.length < maxBlocks then drainLoop maxBlocks (blocks ++ [block]) rest
    else (blocks, block :: rest)

def buildBatch (self : BatchDriver Store) : Option PendingBatch × BatchDriver Store :=
  if !self.shouldSubmit then (none, self)
  else
    match drainLoop self.config.maxBlocksPerBatch [] self.pendingBlocks with
    | (blocks, pendingBlocks) =>
      (some { batchNumber := self.batchNumber, blocks, uncompressedSize := transactionBytes blocks },
        { self with
          pendingBlocks
          currentSize := transactionBytes pendingBlocks
          batchNumber := self.batchNumber + 1
          lastSubmission := self.clock })

def shouldSkipBatch (self : BatchDriver Store) (batchNumber : Nat) : Bool :=
  self.checkpoint.shouldSkipBatch batchNumber

def recordBatchSubmitted [CheckpointStore Store] (self : BatchDriver Store) (batchNumber : Nat) :
    Except CheckpointError Unit × BatchDriver Store :=
  let checkpoint := (self.checkpoint.recordBatchSubmitted batchNumber).touch self.wallClock
  match Checkpoint.saveIfEnabled self.store self.checkpointPath checkpoint with
  | (result, store) => (result, { self with checkpoint, store })

private theorem drainLoop_eq (maxBlocks : Nat) (pending : List L2BlockData) {blocks : List L2BlockData}
    (few : blocks.length ≤ maxBlocks) : drainLoop maxBlocks blocks pending =
      (blocks ++ pending.take (maxBlocks - blocks.length), pending.drop (maxBlocks - blocks.length)) := by
  induction pending generalizing blocks with
  | nil => simp [drainLoop]
  | cons block rest ih =>
    unfold drainLoop
    split
    · rename_i room
      have more : (blocks ++ [block]).length ≤ maxBlocks := by
        rw [List.length_append, List.length_singleton]
        exact room
      obtain ⟨left, counted⟩ := Nat.exists_eq_add_of_lt room
      have before : maxBlocks - blocks.length = left + 1 := by omega
      have after : maxBlocks - (blocks ++ [block]).length = left := by
        rw [List.length_append, List.length_singleton]
        omega
      rw [ih more, before, after, List.take_succ_cons, List.drop_succ_cons, List.append_assoc,
        List.singleton_append]
    · rename_i full
      have none : maxBlocks - blocks.length = 0 := by omega
      rw [none, List.take_zero, List.append_nil, List.drop_zero]

/-- `build_batch` does nothing, or cuts the first blocks under the next number. -/
theorem buildBatch_cases (self : BatchDriver Store) :
    self.shouldSubmit = false ∧ self.buildBatch = (none, self) ∨
      self.shouldSubmit = true ∧ ∃ blocks pendingBlocks,
        blocks = self.pendingBlocks.take self.config.maxBlocksPerBatch ∧
        pendingBlocks = self.pendingBlocks.drop self.config.maxBlocksPerBatch ∧
        self.buildBatch =
          (some { batchNumber := self.batchNumber, blocks, uncompressedSize := transactionBytes blocks },
            { self with
              pendingBlocks
              currentSize := transactionBytes pendingBlocks
              batchNumber := self.batchNumber + 1
              lastSubmission := self.clock }) := by
  unfold buildBatch
  cases ready : self.shouldSubmit with
  | false => exact .inl ⟨rfl, rfl⟩
  | true =>
    refine .inr ⟨rfl, _, _, rfl, rfl, ?_⟩
    have drained : drainLoop self.config.maxBlocksPerBatch [] self.pendingBlocks =
        (self.pendingBlocks.take self.config.maxBlocksPerBatch,
          self.pendingBlocks.drop self.config.maxBlocksPerBatch) :=
      drainLoop_eq _ _ (Nat.zero_le _)
    simp only [Bool.not_true, Bool.false_eq_true, if_false, drained]

/-- Adding blocks touches the queue and its size only. -/
theorem addBlocks_frame (self : BatchDriver Store) (blocks : List L2BlockData) :
    self.addBlocks blocks = { self with
      currentSize := self.currentSize + transactionBytes blocks
      pendingBlocks := self.pendingBlocks ++ blocks } := by
  unfold addBlocks
  induction blocks generalizing self with
  | nil => simp
  | cons block rest ih =>
    have size : (block.transactions.map List.length).sum = transactionBytes [block] := by
      simp [transactionBytes]
    have whole : transactionBytes (block :: rest) = transactionBytes [block] + transactionBytes rest :=
      transactionBytes_append [block] rest
    rw [List.foldl_cons, ih]
    simp only [addBlock, size, whole, List.append_assoc, List.singleton_append, Nat.add_assoc]

theorem recordBatchSubmitted_frame [CheckpointStore Store] (self : BatchDriver Store) (batchNumber : Nat) :
    ∃ store, (self.recordBatchSubmitted batchNumber).2 = { self with
      store, checkpoint := (self.checkpoint.recordBatchSubmitted batchNumber).touch self.wallClock } :=
  ⟨_, rfl⟩

/-- The driver as its constructors leave it. -/
inductive Created [CheckpointStore Store] : BatchDriver Store → Prop where
  | new (config : BatcherConfig) (store : Store) (now : Nat) : Created (new config store now)
  | withCheckpoint {self made : BatchDriver Store} {path : String} (created : Created self)
      (loaded : self.withCheckpoint path = .ok made) : Created made

theorem withCheckpoint_frame [CheckpointStore Store] {self made : BatchDriver Store} {path : String}
    (loaded : self.withCheckpoint path = .ok made) :
    ∃ checkpoint checkpointPath, made = { self with checkpoint, checkpointPath } := by
  unfold BatchDriver.withCheckpoint at loaded
  split at loaded
  · cases loaded
  · cases loaded
    exact ⟨_, _, rfl⟩
  · cases loaded
    exact ⟨self.checkpoint, _, rfl⟩

/-- Nothing is pending, and the first batch will be number 1 whatever was loaded. -/
theorem Created.empty [CheckpointStore Store] {self : BatchDriver Store} (created : Created self) :
    self.pendingBlocks = [] ∧ self.currentSize = 0 ∧ self.batchNumber = 1 := by
  induction created with
  | new => exact ⟨rfl, rfl, rfl⟩
  | withCheckpoint _ loaded ih =>
    obtain ⟨checkpoint, checkpointPath, rfl⟩ := withCheckpoint_frame loaded
    exact ih

/-- One call of a method, or what happens between two calls. -/
inductive Input where
  | addBlocks (blocks : List L2BlockData)
  | buildBatch
  | recordBatchSubmitted (batchNumber : Nat)
  | clockAdvanced (elapsed : Nat)
  | wallClockSet (unixSeconds : Nat)
  deriving DecidableEq, Repr

end BatchDriver

/-- The driver with the history of its calls. -/
structure DriverRun (Store : Type) where
  driver : BatchDriver Store
  added : List L2BlockData := []
  built : List PendingBatch := []
  /-- The numbers for which `should_skip_batch` held when they were built. -/
  skippable : List Nat := []
  deriving DecidableEq, Repr

namespace DriverRun

variable {Store : Type}

/-- A driver of which nothing was asked yet. -/
def start (driver : BatchDriver Store) : DriverRun Store := { driver }

variable [CheckpointStore Store]

def buildBatch (self : DriverRun Store) : DriverRun Store :=
  match self.driver.buildBatch with
  | (none, driver) => { self with driver }
  | (some batch, driver) => { self with
      driver
      built := self.built ++ [batch]
      skippable :=
        if self.driver.shouldSkipBatch batch.batchNumber then self.skippable ++ [batch.batchNumber]
        else self.skippable }

def step (self : DriverRun Store) : BatchDriver.Input → DriverRun Store
  | .addBlocks blocks =>
    { self with driver := self.driver.addBlocks blocks, added := self.added ++ blocks }
  | .buildBatch => self.buildBatch
  | .recordBatchSubmitted batchNumber =>
    { self with driver := (self.driver.recordBatchSubmitted batchNumber).2 }
  | .clockAdvanced elapsed =>
    { self with driver := { self.driver with clock := self.driver.clock + elapsed } }
  | .wallClockSet unixSeconds =>
    { self with driver := { self.driver with wallClock := unixSeconds } }

def run (self : DriverRun Store) (inputs : List BatchDriver.Input) : DriverRun Store :=
  inputs.foldl step self

end DriverRun

end Montana.Batcher
