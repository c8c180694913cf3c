import Montana.Common.Checkpoint

/-! The sync stage: it fetches blocks until the node is close enough to the chain tip. -/

namespace Montana.Lifecycle

/-- The source of blocks as the sync stage uses it. -/
class BlockProducer (Producer : Type) (Block : outParam Type) where
  getChainTip : Producer → Except String Nat × Producer
  getBlock : Producer → Nat → Except String (Option Block) × Producer

/-- Times are in milliseconds. -/
structure SyncConfig where
  syncThreshold : Nat := 10
  tipRefreshInterval : Nat := 12000
  blocksPerTick : Nat := 100
  deriving DecidableEq, Repr

/-- The measured rate and the estimated time that remains are left out. -/
structure SyncProgress where
  startBlock : Nat
  currentBlock : Nat
  targetBlock : Nat
  deriving DecidableEq, Repr

/-- Without measured durations and rates. -/
inductive SyncEvent where
  | started (startBlock targetBlock : Nat)
  | progress (currentBlock targetBlock : Nat)
  | completed (blocksSynced : Nat)
  deriving DecidableEq, Repr

inductive SyncStatus where
  | syncing (progress : SyncProgress)
  | complete
  deriving DecidableEq, Repr

structure SyncStage (Producer : Type) where
  blockProducer : Producer
  config : SyncConfig
  startBlock : Nat
  currentBlock : Nat
  targetBlock : Nat
  lastTipRefresh : Nat
  blocksSynced : Nat
  eventTx : Option (List SyncEvent)

namespace SyncStage

variable {Producer Block : Type}

def new (blockProducer : Producer) (config : SyncConfig) (now : Nat) : SyncStage Producer where
  blockProducer := blockProducer
  config := config
  startBlock := 0
  currentBlock := 0
  targetBlock := 0
  lastTipRefresh := now
  blocksSynced := 0
  eventTx := none

def withEventSender (self : SyncStage Producer) : SyncStage Producer := { self with eventTx := some [] }

def emit (self : SyncStage Producer) (event : SyncEvent) : SyncStage Producer :=
  { self with eventTx := self.eventTx.map (· ++ [event]) }

/-- The rate and the remaining time are left out, and with them that `Duration::from_secs_f64`
panics on a remaining time of more seconds than a u64 holds. -/
def progress (self : SyncStage Producer) : SyncProgress where
  startBlock := self.startBlock
  currentBlock := self.currentBlock
  targetBlock := self.targetBlock

/-- Only the blocks are in it: the batch numbers are those of a fresh checkpoint. -/
def checkpoint (self : SyncStage Producer) : Checkpoint :=
  { Checkpoint.fresh with syncedToBlock := self.currentBlock, lastBlockExecuted := self.currentBlock }

def isSynced (self : SyncStage Producer) : Bool :=
  self.currentBlock + self.config.syncThreshold ≥ self.targetBlock

def shouldRefreshTip (self : SyncStage Producer) (now : Nat) : Bool :=
  now - self.lastTipRefresh ≥ self.config.tipRefreshInterval

section Production

variable [BlockProducer Producer Block]

def refreshTip (self : SyncStage Producer) (now : Nat) : Except String Unit × SyncStage Producer :=
  match BlockProducer.getChainTip self.blockProducer with
  | (.error e, blockProducer) => (.error e, { self with blockProducer })
  | (.ok tip, blockProducer) =>
    (.ok (), { self with blockProducer, targetBlock := tip, lastTipRefresh := now })

def initializeFrom (self : SyncStage Producer) (startBlock now : Nat) :
    Except String Unit × SyncStage Producer :=
  match refreshTip { self with startBlock, currentBlock := startBlock } now with
  | (.error e, self) => (.error e, self)
  | (.ok (), self) => (.ok (), self.emit (.started self.startBlock self.targetBlock))

/-- The part of `tick` before the check whether the stage is synced. -/
def refreshIfDue (self : SyncStage Producer) (now : Nat) : Except String Unit × SyncStage Producer :=
  if self.shouldRefreshTip now then self.refreshTip now else (.ok (), self)

/-- The loop of `tick`, for at most so many blocks. -/
def processBlocks : Nat → SyncStage Producer → Except String Unit × SyncStage Producer
  | 0, self => (.ok (), self)
  | limit + 1, self =>
    if self.isSynced then (.ok (), self)
    else
      let nextBlock := self.currentBlock + 1
      match BlockProducer.getBlock self.blockProducer nextBlock with
      | (.error e, blockProducer) => (.error e, { self with blockProducer })
      | (.ok none, blockProducer) => (.ok (), { self with blockProducer })
      | (.ok (some _), blockProducer) => processBlocks limit { self with
          blockProducer
          currentBlock := nextBlock
          blocksSynced := self.blocksSynced + 1 }

def tick (self : SyncStage Producer) (now : Nat) : Except String SyncStatus × SyncStage Producer :=
  match self.refreshIfDue now with
  | (.error e, self) => (.error e, self)
  | (.ok (), self) =>
    if self.isSynced then (.ok .complete, self.emit (.completed self.blocksSynced))
    else
      match processBlocks self.config.blocksPerTick self with
      | (.error e, self) => (.error e, self)
      | (.ok (), self) =>
        let progress := self.progress
        (.ok (.syncing progress), self.emit (.progress progress.currentBlock progress.targetBlock))

/-- Whether a tick at this time finds the stage synced, with the tip refreshed when it is due. -/
def completes (self : SyncStage Producer) (now : Nat) : Bool :=
  match self.refreshIfDue now with
  | (.error _, _) => false
  | (.ok (), refreshed) => refreshed.isSynced

private theorem refreshTip_frame (self : SyncStage Producer) (now : Nat) :
    (self.refreshTip now).2.startBlock = self.startBlock ∧
      (self.refreshTip now).2.currentBlock = self.currentBlock := by
  unfold refreshTip
  split <;> exact ⟨rfl, rfl⟩

/-- A stage that was initialized stands at its start block. -/
theorem initializeFrom_currentBlock (self : SyncStage Producer) (startBlock now : Nat) :
    (self.initializeFrom startBlock now).2.currentBlock = startBlock := by
  have refreshed := (refreshTip_frame { self with startBlock, currentBlock := startBlock } now).2
  unfold initializeFrom
  split <;> rename_i answer <;> rw [answer] at refreshed <;> exact refreshed

theorem refreshIfDue_currentBlock (self : SyncStage Producer) (now : Nat) :
    (self.refreshIfDue now).2.currentBlock = self.currentBlock := by
  unfold refreshIfDue
  split
  · exact (self.refreshTip_frame now).2
  · rfl

private theorem processBlocks_currentBlock (limit : Nat) (self : SyncStage Producer) :
    self.currentBlock ≤ (processBlocks limit self).2.currentBlock := by
  induction limit generalizing self with
  | zero => exact Nat.le_refl _
  | succ limit ih =>
    unfold processBlocks
    split
    · exact Nat.le_refl _
    · simp only []
      split
      · exact Nat.le_refl _
      · exact Nat.le_refl _
      · rename_i blockProducer _
        have rest := ih { self with
          blockProducer, currentBlock := self.currentBlock + 1, blocksSynced := self.blocksSynced + 1 }
        exact Nat.le_of_succ_le rest

/-- The ends of a tick: the stage is synced and stands where it stood, it moved on and says
how far, or the producer failed. -/
theorem tick_cases (self : SyncStage Producer) (now : Nat) :
    (self.completes now = true ∧ (self.tick now).1 = .ok .complete ∧
      (self.tick now).2.currentBlock = self.currentBlock) ∨
    (self.completes now = false ∧
      ((∃ e, (self.tick now).1 = .error e) ∨
        (self.tick now).1 = .ok (.syncing (self.tick now).2.progress) ∧
          self.currentBlock ≤ (self.tick now).2.currentBlock)) := by
  have kept := self.refreshIfDue_currentBlock now
  unfold completes tick
  cases answer : self.refreshIfDue now with
  | mk result refreshed =>
    rw [answer] at kept
    cases result with
    | error e => exact .inr ⟨rfl, .inl ⟨e, rfl⟩⟩
    | ok =>
      simp only []
      by_cases synced : refreshed.isSynced = true
      · rw [if_pos synced]
        exact .inl ⟨synced, rfl, kept⟩
      · rw [if_neg synced]
        refine .inr ⟨Bool.eq_false_iff.mpr synced, ?_⟩
        have further := processBlocks_currentBlock refreshed.config.blocksPerTick refreshed
        rw [kept] at further
        split <;> rename_i processed <;> rw [processed] at further
        · exact .inl ⟨_, rfl⟩
        · exact .inr ⟨rfl, further⟩

end Production

end SyncStage

end Montana.Lifecycle
