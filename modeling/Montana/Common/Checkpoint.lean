/-! The checkpoint of a node and the file that keeps it. -/

namespace Montana

structure Checkpoint where
  lastBatchSubmitted : Nat := 0
  lastBatchDerived : Nat := 0
  lastBlockExecuted : Nat := 0
  syncedToBlock : Nat := 0
  updatedAt : Nat := 0
  deriving DecidableEq, Repr

namespace Checkpoint

/-- `Checkpoint::default`: nothing submitted, derived, executed or synced. -/
def fresh : Checkpoint := {}

def touch (checkpoint : Checkpoint) (unixSeconds : Nat) : Checkpoint :=
  { checkpoint with updatedAt := unixSeconds }

/-- The default value 0 means that no batch was submitted yet, so that nothing is skipped. -/
def shouldSkipBatch (checkpoint : Checkpoint) (batchNumber : Nat) : Bool :=
  if checkpoint.lastBatchSubmitted = 0 then false
  else batchNumber ≤ checkpoint.lastBatchSubmitted

def recordBatchSubmitted (checkpoint : Checkpoint) (batchNumber : Nat) : Checkpoint :=
  if batchNumber > checkpoint.lastBatchSubmitted then
    { checkpoint with lastBatchSubmitted := batchNumber }
  else checkpoint

def recordBatchDerived (checkpoint : Checkpoint) (batchNumber : Nat) : Checkpoint :=
  if batchNumber > checkpoint.lastBatchDerived then
    { checkpoint with lastBatchDerived := batchNumber }
  else checkpoint

def recordBlockExecuted (checkpoint : Checkpoint) (blockNumber : Nat) : Checkpoint :=
  if blockNumber > checkpoint.lastBlockExecuted then
    { checkpoint with lastBlockExecuted := blockNumber }
  else checkpoint

def recordSyncProgress (checkpoint : Checkpoint) (blockNumber : Nat) : Checkpoint :=
  if blockNumber > checkpoint.syncedToBlock then
    { checkpoint with syncedToBlock := blockNumber }
  else checkpoint

/-- No recorded number of the second checkpoint is less than that of the first. -/
structure Below (lower upper : Checkpoint) : Prop where
  lastBatchSubmitted : lower.lastBatchSubmitted ≤ upper.lastBatchSubmitted
  lastBatchDerived : lower.lastBatchDerived ≤ upper.lastBatchDerived
  lastBlockExecuted : lower.lastBlockExecuted ≤ upper.lastBlockExecuted
  syncedToBlock : lower.syncedToBlock ≤ upper.syncedToBlock

@[simp] theorem touch_lastBatchSubmitted (checkpoint : Checkpoint) (unixSeconds : Nat) :
    (checkpoint.touch unixSeconds).lastBatchSubmitted = checkpoint.lastBatchSubmitted := rfl

@[simp] theorem touch_lastBatchDerived (checkpoint : Checkpoint) (unixSeconds : Nat) :
    (checkpoint.touch unixSeconds).lastBatchDerived = checkpoint.lastBatchDerived := rfl

@[simp] theorem recordBatchSubmitted_lastBatchSubmitted (checkpoint : Checkpoint) (batchNumber : Nat) :
    (checkpoint.recordBatchSubmitted batchNumber).lastBatchSubmitted =
      max checkpoint.lastBatchSubmitted batchNumber := by
  unfold recordBatchSubmitted
  split
  · show batchNumber = max checkpoint.lastBatchSubmitted batchNumber
    omega
  · omega

@[simp] theorem recordBatchDerived_lastBatchDerived (checkpoint : Checkpoint) (batchNumber : Nat) :
    (checkpoint.recordBatchDerived batchNumber).lastBatchDerived =
      max checkpoint.lastBatchDerived batchNumber := by
  unfold recordBatchDerived
  split
  · show batchNumber = max checkpoint.lastBatchDerived batchNumber
    omega
  · omega

@[simp] theorem recordBatchSubmitted_lastBatchDerived (checkpoint : Checkpoint) (batchNumber : Nat) :
    (checkpoint.recordBatchSubmitted batchNumber).lastBatchDerived = checkpoint.lastBatchDerived := by
  unfold recordBatchSubmitted
  split <;> rfl

@[simp] theorem recordBatchDerived_lastBatchSubmitted (checkpoint : Checkpoint) (batchNumber : Nat) :
    (checkpoint.recordBatchDerived batchNumber).lastBatchSubmitted = checkpoint.lastBatchSubmitted := by
  unfold recordBatchDerived
  split <;> rfl

@[simp] theorem recordBlockExecuted_lastBatchSubmitted (checkpoint : Checkpoint) (blockNumber : Nat) :
    (checkpoint.recordBlockExecuted blockNumber).lastBatchSubmitted = checkpoint.lastBatchSubmitted := by
  unfold recordBlockExecuted
  split <;> rfl

@[simp] theorem recordBlockExecuted_lastBatchDerived (checkpoint : Checkpoint) (blockNumber : Nat) :
    (checkpoint.recordBlockExecuted blockNumber).lastBatchDerived = checkpoint.lastBatchDerived := by
  unfold recordBlockExecuted
  split <;> rfl

@[simp] theorem recordSyncProgress_lastBatchSubmitted (checkpoint : Checkpoint) (blockNumber : Nat) :
    (checkpoint.recordSyncProgress blockNumber).lastBatchSubmitted = checkpoint.lastBatchSubmitted := by
  unfold recordSyncProgress
  split <;> rfl

@[simp] theorem recordSyncProgress_lastBatchDerived (checkpoint : Checkpoint) (blockNumber : Nat) :
    (checkpoint.recordSyncProgress blockNumber).lastBatchDerived = checkpoint.lastBatchDerived := by
  unfold recordSyncProgress
  split <;> rfl

theorem below_refl (checkpoint : Checkpoint) : checkpoint.Below checkpoint :=
  ⟨Nat.le_refl _, Nat.le_refl _, Nat.le_refl _, Nat.le_refl _⟩

theorem Below.trans {first second third : Checkpoint} (left : first.Below second)
    (right : second.Below third) : first.Below third where
  lastBatchSubmitted := Nat.le_trans left.lastBatchSubmitted right.lastBatchSubmitted
  lastBatchDerived := Nat.le_trans left.lastBatchDerived right.lastBatchDerived
  lastBlockExecuted := Nat.le_trans left.lastBlockExecuted right.lastBlockExecuted
  syncedToBlock := Nat.le_trans left.syncedToBlock right.syncedToBlock

theorem below_touch (checkpoint : Checkpoint) (unixSeconds : Nat) :
    checkpoint.Below (checkpoint.touch unixSeconds) :=
  ⟨Nat.le_refl _, Nat.le_refl _, Nat.le_refl _, Nat.le_refl _⟩

/-- Recording a submission moves one number up and keeps the others. -/
theorem below_recordBatchSubmitted (checkpoint : Checkpoint) (batchNumber : Nat) :
    checkpoint.Below (checkpoint.recordBatchSubmitted batchNumber) := by
  unfold recordBatchSubmitted
  split
  · rename_i greater
    exact ⟨Nat.le_of_lt greater, Nat.le_refl _, Nat.le_refl _, Nat.le_refl _⟩
  · exact checkpoint.below_refl

theorem below_recordBatchDerived (checkpoint : Checkpoint) (batchNumber : Nat) :
    checkpoint.Below (checkpoint.recordBatchDerived batchNumber) := by
  unfold recordBatchDerived
  split
  · rename_i greater
    exact ⟨Nat.le_refl _, Nat.le_of_lt greater, Nat.le_refl _, Nat.le_refl _⟩
  · exact checkpoint.below_refl

theorem below_recordBlockExecuted (checkpoint : Checkpoint) (blockNumber : Nat) :
    checkpoint.Below (checkpoint.recordBlockExecuted blockNumber) := by
  unfold recordBlockExecuted
  split
  · rename_i greater
    exact ⟨Nat.le_refl _, Nat.le_refl _, Nat.le_of_lt greater, Nat.le_refl _⟩
  · exact checkpoint.below_refl

theorem below_recordSyncProgress (checkpoint : Checkpoint) (blockNumber : Nat) :
    checkpoint.Below (checkpoint.recordSyncProgress blockNumber) := by
  unfold recordSyncProgress
  split
  · rename_i greater
    exact ⟨Nat.le_refl _, Nat.le_refl _, Nat.le_refl _, Nat.le_of_lt greater⟩
  · exact checkpoint.below_refl

@[simp] theorem recordSyncProgress_syncedToBlock (checkpoint : Checkpoint) (blockNumber : Nat) :
    (checkpoint.recordSyncProgress blockNumber).syncedToBlock =
      max checkpoint.syncedToBlock blockNumber := by
  unfold recordSyncProgress
  split
  · show blockNumber = max checkpoint.syncedToBlock blockNumber
    omega
  · omega

/-- For a positive number the guard on the default value changes nothing. -/
theorem shouldSkipBatch_iff (checkpoint : Checkpoint) (batchNumber : Nat) (positive : 0 < batchNumber) :
    checkpoint.shouldSkipBatch batchNumber = true ↔ batchNumber ≤ checkpoint.lastBatchSubmitted := by
  unfold shouldSkipBatch
  split
  · rename_i none
    simp [none]
    omega
  · simp

end Checkpoint

inductive CheckpointError where
  | io (message : String)
  | serialize (message : String)
  deriving DecidableEq, Repr

def CheckpointError.display : CheckpointError → String
  | .io message => s!"I/O error: {message}"
  | .serialize message => s!"Serialization error: {message}"

/-- `Checkpoint::load` and `Checkpoint::save` on a file system, either of which
may fail at any call. -/
class CheckpointStore (Store : Type) where
  load : Store → String → Except CheckpointError (Option Checkpoint)
  save : Store → String → Checkpoint → Except CheckpointError Unit × Store

/-- How both roles start: a missing path or a missing file means a fresh checkpoint. -/
def Checkpoint.loadOrFresh [CheckpointStore Store] (store : Store) (checkpointPath : Option String) :
    Except CheckpointError Checkpoint :=
  match checkpointPath with
  | none => .ok Checkpoint.fresh
  | some path =>
    match CheckpointStore.load store path with
    | .error e => .error e
    | .ok loaded => .ok (loaded.getD Checkpoint.fresh)

/-- How all roles save: without a path, persistence is disabled. -/
def Checkpoint.saveIfEnabled [CheckpointStore Store] (store : Store) (checkpointPath : Option String)
    (checkpoint : Checkpoint) : Except CheckpointError Unit × Store :=
  match checkpointPath with
  | none => (.ok (), store)
  | some path => CheckpointStore.save store path checkpoint

/-- A load after a successful save of the same path gives back what was saved. -/
class LawfulCheckpointStore (Store : Type) [CheckpointStore Store] : Prop where
  load_save : ∀ (store store' : Store) (path : String) (checkpoint : Checkpoint),
    CheckpointStore.save store path checkpoint = (.ok (), store') →
      CheckpointStore.load store' path = .ok (some checkpoint)

/-- A save writes a temporary file and renames it: whatever it answers, the file is as it
was or as it should be. -/
class AtomicCheckpointStore (Store : Type) [CheckpointStore Store] : Prop where
  load_save_cases : ∀ (store : Store) (path : String) (checkpoint : Checkpoint),
    CheckpointStore.load (CheckpointStore.save store path checkpoint).2 path =
        CheckpointStore.load store path ∨
      CheckpointStore.load (CheckpointStore.save store path checkpoint).2 path = .ok (some checkpoint)

end Montana
