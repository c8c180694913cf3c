import Montana.Lib.Copies
import Montana.Roles.SequencerSaves
import Montana.Roles.ValidatorSaves

/-! The checkpoint file with a history of its saves, and what a tick of a role adds to it. -/

namespace Montana.Lifecycle

open Relation (ReflTransGen)
open Roles Vm

/-- A successful save, with what a load of the same path gives behind it. -/
structure SaveEntry where
  saved : Checkpoint
  loaded : Except CheckpointError (Option Checkpoint)
  deriving DecidableEq, Repr

/-- Files, with a history of the successful saves at one path. -/
structure RecordedStore (Store : Type) where
  files : Store
  path : String
  history : List SaveEntry
  deriving DecidableEq, Repr

instance {Store : Type} [CheckpointStore Store] : CheckpointStore (RecordedStore Store) where
  load self path := CheckpointStore.load self.files path
  save self path checkpoint :=
    match CheckpointStore.save self.files path checkpoint with
    | (.error e, files) => (.error e, { self with files })
    | (.ok (), files) =>
      let entry : SaveEntry := ⟨checkpoint, CheckpointStore.load files path⟩
      (.ok (), { self with
        files
        history := if path = self.path then self.history ++ [entry] else self.history })

/-- The two batch numbers of a checkpoint. -/
def batchNumbers (checkpoint : Checkpoint) : Nat × Nat :=
  (checkpoint.lastBatchSubmitted, checkpoint.lastBatchDerived)

/-- The load behind the later save gives no smaller batch number than the earlier save wrote. -/
def SaveEntry.KeptBy (earlier later : SaveEntry) : Prop :=
  ∃ loaded, later.loaded = .ok (some loaded) ∧
    earlier.saved.lastBatchSubmitted ≤ loaded.lastBatchSubmitted ∧
    earlier.saved.lastBatchDerived ≤ loaded.lastBatchDerived

instance (earlier later : SaveEntry) : Decidable (earlier.KeptBy later) :=
  match stands : later.loaded with
  | .ok (some loaded) =>
    decidable_of_iff (earlier.saved.lastBatchSubmitted ≤ loaded.lastBatchSubmitted ∧
        earlier.saved.lastBatchDerived ≤ loaded.lastBatchDerived)
      ⟨fun ordered => ⟨loaded, stands, ordered⟩, fun ⟨_, same, ordered⟩ => by
        cases stands.symm.trans same
        exact ordered⟩
  | .ok none => .isFalse fun ⟨_, same, _⟩ => nomatch stands.symm.trans same
  | .error _ => .isFalse fun ⟨_, same, _⟩ => nomatch stands.symm.trans same

/-- After each save the loaded checkpoint has batch numbers that are not below those of any
checkpoint that was saved before. -/
def NoLostUpdate (history : List SaveEntry) : Prop := history.Pairwise SaveEntry.KeptBy

instance (history : List SaveEntry) : Decidable (NoLostUpdate history) :=
  inferInstanceAs (Decidable (history.Pairwise SaveEntry.KeptBy))

namespace RecordedStore

variable {Store : Type}

/-- The batch numbers of the saved checkpoints, in the order of their saves. -/
def numbers (self : RecordedStore Store) : List (Nat × Nat) :=
  self.history.map fun entry => batchNumbers entry.saved

/-- Every save could be read back. -/
def Legible (self : RecordedStore Store) : Prop :=
  ∀ entry ∈ self.history, entry.loaded = .ok (some entry.saved)

/-- Where every save can be read back, the law is about the saved numbers alone. -/
theorem noLostUpdate_iff {self : RecordedStore Store} (legible : self.Legible) :
    NoLostUpdate self.history ↔ Copies.Ascending self.numbers := by
  unfold NoLostUpdate Copies.Ascending numbers
  rw [List.pairwise_map]
  refine List.Pairwise.iff_of_mem fun {earlier later} _ member => ?_
  rw [SaveEntry.KeptBy, legible later member]
  constructor
  · rintro ⟨loaded, same, submitted, derived⟩
    cases same
    exact ⟨submitted, derived⟩
  · exact fun ordered => ⟨later.saved, rfl, ordered.1, ordered.2⟩

variable [CheckpointStore Store]

theorem save_path (self : RecordedStore Store) (path : String) (checkpoint : Checkpoint) :
    (CheckpointStore.save self path checkpoint).2.path = self.path := by
  simp only [CheckpointStore.save]
  split <;> rfl

theorem save_ok [LawfulCheckpointStore Store] {self after : RecordedStore Store} {checkpoint : Checkpoint}
    (saved : CheckpointStore.save self self.path checkpoint = (.ok (), after)) :
    after.path = self.path ∧ after.history = self.history ++ [⟨checkpoint, .ok (some checkpoint)⟩] := by
  simp only [CheckpointStore.save] at saved
  split at saved
  · cases saved
  · rename_i files written
    have read := LawfulCheckpointStore.load_save _ _ _ _ written
    cases saved
    exact ⟨rfl, by simp [read]⟩

theorem save_error {self after : RecordedStore Store} {checkpoint : Checkpoint} {e : CheckpointError}
    (failed : CheckpointStore.save self self.path checkpoint = (.error e, after)) :
    after.path = self.path ∧ after.history = self.history := by
  simp only [CheckpointStore.save] at failed
  split at failed
  · cases failed
    exact ⟨rfl, rfl⟩
  · cases failed

/-- What is saved is added at the end, and can be read back. -/
structure Grows (added : List (Nat × Nat)) (before after : RecordedStore Store) : Prop where
  numbers : after.numbers = before.numbers ++ added
  legible : before.Legible → after.Legible

omit [CheckpointStore Store] in
theorem Grows.of_same {before after : RecordedStore Store} (same : after.history = before.history) :
    Grows [] before after where
  numbers := by rw [RecordedStore.numbers, same, List.append_nil, RecordedStore.numbers]
  legible readable := by rwa [Legible, same]

omit [CheckpointStore Store] in
theorem Grows.of_save {before after : RecordedStore Store} {checkpoint : Checkpoint}
    (saved : after.history = before.history ++ [⟨checkpoint, .ok (some checkpoint)⟩]) :
    Grows [batchNumbers checkpoint] before after where
  numbers := by simp [RecordedStore.numbers, saved]
  legible readable entry member := by
    rw [saved] at member
    rcases List.mem_append.mp member with old | new
    · exact readable entry old
    · rw [List.mem_singleton.mp new]

omit [CheckpointStore Store] in
theorem Grows.trans {first second : List (Nat × Nat)} {before middle after : RecordedStore Store}
    (left : Grows first before middle) (right : Grows second middle after) :
    Grows (first ++ second) before after where
  numbers := by rw [right.numbers, left.numbers, List.append_assoc]
  legible readable := right.legible (left.legible readable)

omit [CheckpointStore Store] in
/-- A write that failed adds nothing. -/
theorem Grows.then_same {added : List (Nat × Nat)} {before middle after : RecordedStore Store}
    (grows : Grows added before middle) (same : after.history = middle.history) :
    Grows added before after := by
  have whole := grows.trans (.of_same same)
  rwa [List.append_nil] at whole

end RecordedStore

/-- A checkpoint in memory with the file it is saved to. -/
structure Copy (Store : Type) where
  checkpoint : Checkpoint
  file : RecordedStore Store

/-- One number of the copy moves up and the copy is saved; the other number stays. -/
inductive CopySaved [CheckpointStore Store] (own other : Checkpoint → Nat) : Copy Store → Copy Store → Prop where
  | saved {before after : Copy Store} (ahead : own before.checkpoint < own after.checkpoint)
      (same : other after.checkpoint = other before.checkpoint)
      (written : CheckpointStore.save before.file before.file.path after.checkpoint = (.ok (), after.file)) :
      CopySaved own other before after

section Copies

variable {Store : Type} [CheckpointStore Store] {own other : Checkpoint → Nat}

/-- What a number of saves of one copy adds to the file. -/
structure Added (own other : Checkpoint → Nat) (entry : Nat → Nat → Nat × Nat) (before : Copy Store)
    (file : RecordedStore Store) (values : List Nat) : Prop where
  rising : (own before.checkpoint :: values).Pairwise (· < ·)
  grows : RecordedStore.Grows (values.map fun value => entry value (other before.checkpoint)) before.file file
  path : file.path = before.file.path

theorem CopySaved.added [LawfulCheckpointStore Store] {before after : Copy Store}
    (saves : ReflTransGen (CopySaved own other) before after) (entry : Nat → Nat → Nat × Nat)
    (reads : ∀ checkpoint, batchNumbers checkpoint = entry (own checkpoint) (other checkpoint)) :
    ∃ values, Added own other entry before after.file values ∧
      own after.checkpoint = values.getLastD (own before.checkpoint) ∧
      other after.checkpoint = other before.checkpoint := by
  induction saves with
  | refl => exact ⟨[], ⟨List.pairwise_singleton _ _, .of_same rfl, rfl⟩, rfl, rfl⟩
  | @tail middle after _ save ih =>
    obtain ⟨values, added, last, kept⟩ := ih
    cases save with
    | saved ahead same written =>
      obtain ⟨path, history⟩ := RecordedStore.save_ok written
      refine ⟨values ++ [own after.checkpoint], ⟨?_, ?_, path.trans added.path⟩, by simp, same.trans kept⟩
      · rw [← List.cons_append, List.pairwise_append]
        refine ⟨added.rising, List.pairwise_singleton _ _, fun value member next only => ?_⟩
        rw [List.mem_singleton.mp only]
        obtain ⟨reached, within⟩ := Copies.le_getLastD added.rising
        rw [last] at ahead
        rcases List.mem_cons.mp member with first | later
        · rw [first]
          exact Nat.lt_of_le_of_lt reached ahead
        · exact Nat.lt_of_le_of_lt (within value later) ahead
      · have saved := added.grows.trans (.of_save history)
        rw [reads, same, kept] at saved
        rw [List.map_append]
        exact saved

end Copies

/-- How a tick leaves the copy of a role: as its last save did, or with a save that failed. -/
def Leaves [CheckpointStore Store] (own other : Checkpoint → Nat) (failed : Bool) (before after : Copy Store) :
    Prop :=
  ∃ middle, ReflTransGen (CopySaved own other) before middle ∧
    if failed then after.file.history = middle.file.history ∧ after.file.path = middle.file.path
    else middle = after

section Sequencer

variable {Block Sink Store Tx : Type}
variable [BlockResponse Block Tx] [BlockJson Block] [BatchSink Sink] [CheckpointStore Store]

def sequencerCopy (sequencer : Sequencer Block Sink (RecordedStore Store)) : Copy Store :=
  ⟨sequencer.checkpoint, sequencer.store⟩

/-- The sequencer saves at the recorded path, and its numbering has started. -/
structure SequencerKeeps (sequencer : Sequencer Block Sink (RecordedStore Store)) : Prop where
  path : sequencer.checkpointPath = some sequencer.store.path
  numbered : 0 < sequencer.nextSubmissionNumber

omit [BlockResponse Block Tx] [BlockJson Block] in
private theorem settled_copies {before after : Sequencer Block Sink (RecordedStore Store)}
    (settled : ReflTransGen Sequencer.Settled before after) (keeps : SequencerKeeps before) :
    SequencerKeeps after ∧ ReflTransGen (CopySaved Checkpoint.lastBatchSubmitted Checkpoint.lastBatchDerived)
      (sequencerCopy before) (sequencerCopy after) := by
  induction settled with
  | refl => exact ⟨keeps, .refl⟩
  | @tail middle after _ step ih =>
    obtain ⟨keeps, saves⟩ := ih
    cases step with
    | undisturbed same =>
      have copy : sequencerCopy after = sequencerCopy middle := by
        rw [sequencerCopy, same.checkpoint, same.store]
        rfl
      rw [copy]
      refine ⟨⟨?_, ?_⟩, saves⟩
      · rw [same.checkpointPath, same.store]
        exact keeps.path
      · rw [same.nextSubmissionNumber]
        exact keeps.numbered
    | @submitted prepared next succeeded =>
      obtain ⟨path, number, ⟨checkpoint, store⟩ | ⟨submits, checkpoint, saved⟩⟩ :=
        Sequencer.submitPreparedBatch_ok succeeded
      · have copy : sequencerCopy after = sequencerCopy middle := by
          rw [sequencerCopy, checkpoint, store]
          rfl
        rw [copy]
        refine ⟨⟨?_, ?_⟩, saves⟩
        · rw [path, store]
          exact keeps.path
        · rw [number]
          exact Nat.succ_pos _
      · rw [keeps.path] at saved
        -- the number is positive, so that a batch which is not skipped is ahead of the checkpoint
        have ahead : middle.checkpoint.lastBatchSubmitted < prepared.batchNumber := by
          have skips := Checkpoint.shouldSkipBatch_iff middle.checkpoint _ (next ▸ keeps.numbered)
          rw [submits] at skips
          exact Nat.not_le.mp fun behind => Bool.false_ne_true (skips.mpr behind)
        have kept := RecordedStore.save_path middle.store middle.store.path (middle.written prepared.batchNumber)
        rw [show CheckpointStore.save _ _ _ = _ from saved] at kept
        refine ⟨⟨?_, ?_⟩, saves.tail (.saved ?_ ?_ ?_)⟩
        · rw [path, keeps.path, kept]
        · rw [number]
          exact Nat.succ_pos _
        · show middle.checkpoint.lastBatchSubmitted < after.checkpoint.lastBatchSubmitted
          rw [checkpoint, Sequencer.written]
          simpa using ahead
        · show after.checkpoint.lastBatchDerived = middle.checkpoint.lastBatchDerived
          rw [checkpoint, Sequencer.written, Checkpoint.touch_lastBatchDerived,
            Checkpoint.recordBatchSubmitted_lastBatchDerived]
        · rw [← checkpoint] at saved
          exact saved

/-- A tick of the sequencer saves rising submissions, each behind the same derivation. -/
theorem sequencer_leaves {self : Sequencer Block Sink (RecordedStore Store)} (keeps : SequencerKeeps self)
    (rounds : Nat) :
    Leaves Checkpoint.lastBatchSubmitted Checkpoint.lastBatchDerived (self.tick rounds).1.isFailed
      (sequencerCopy self) (sequencerCopy (self.tick rounds).2) ∧
      ((self.tick rounds).1.isFailed = false → SequencerKeeps (self.tick rounds).2) := by
  obtain ⟨middle, settled, ends⟩ := self.tick_ends rounds
  obtain ⟨kept, saves⟩ := settled_copies settled keeps
  cases failed : (self.tick rounds).1.isFailed with
  | false =>
    rw [failed] at ends
    have same : middle = (self.tick rounds).2 := ends
    rw [← same]
    exact ⟨⟨_, saves, rfl⟩, fun _ => kept⟩
  | true =>
    rw [failed] at ends
    obtain ⟨prepared, e, _, refused⟩ := ends
    refine ⟨⟨_, saves, ?_⟩, nofun⟩
    rcases Sequencer.submitPreparedBatch_error refused with store | ⟨checkpoint, error, unsaved⟩
    · show (self.tick rounds).2.store.history = _ ∧ (self.tick rounds).2.store.path = _
      rw [store]
      exact ⟨rfl, rfl⟩
    · rw [kept.path] at unsaved
      exact (RecordedStore.save_error unsaved).symm

end Sequencer

section Validator

variable {Block Source Exec Result Store Tx : Type}
variable [BlockResponse Block Tx] [BlockJson Block] [L1BatchSource Source]
variable [Executor Exec Block Result] [CheckpointStore Store]

def validatorCopy (validator : Validator Block Source Exec Result (RecordedStore Store)) : Copy Store :=
  ⟨validator.checkpoint, validator.store⟩

def ValidatorKeeps (validator : Validator Block Source Exec Result (RecordedStore Store)) : Prop :=
  validator.checkpointPath = some validator.store.path

omit [BlockJson Block] [L1BatchSource Source] [Executor Exec Block Result] in
private theorem validator_settled_copies
    {before after : Validator Block Source Exec Result (RecordedStore Store)}
    (settled : ReflTransGen Validator.Settled before after) (keeps : ValidatorKeeps before) :
    ValidatorKeeps after ∧ ReflTransGen (CopySaved Checkpoint.lastBatchDerived Checkpoint.lastBatchSubmitted)
      (validatorCopy before) (validatorCopy after) := by
  induction settled with
  | refl => exact ⟨keeps, .refl⟩
  | @tail middle after _ step ih =>
    obtain ⟨keeps, saves⟩ := ih
    cases step with
    | kept path checkpoint store =>
      have copy : validatorCopy after = validatorCopy middle := by
        rw [validatorCopy, checkpoint, store]
        rfl
      rw [copy]
      refine ⟨?_, saves⟩
      rw [ValidatorKeeps, path, store]
      exact keeps
    | @recorded batchNumber path ahead checkpoint saved =>
      rw [Validator.savedAfter, show middle.checkpointPath = _ from keeps] at saved
      have kept := RecordedStore.save_path middle.store middle.store.path (middle.checkpointAfter batchNumber)
      rw [show CheckpointStore.save _ _ _ = _ from saved] at kept
      refine ⟨?_, saves.tail (.saved ?_ ?_ ?_)⟩
      · rw [ValidatorKeeps, path, kept]
        exact keeps
      · show middle.checkpoint.lastBatchDerived < after.checkpoint.lastBatchDerived
        rw [checkpoint]
        simpa using ahead
      · show after.checkpoint.lastBatchSubmitted = middle.checkpoint.lastBatchSubmitted
        rw [checkpoint, Validator.checkpointAfter, Checkpoint.touch_lastBatchSubmitted,
          Checkpoint.recordBatchDerived_lastBatchSubmitted]
      · rw [← checkpoint] at saved
        exact saved

/-- A tick of the validator saves rising derivations, each behind the same submission. -/
theorem validator_leaves {self : Validator Block Source Exec Result (RecordedStore Store)}
    (keeps : ValidatorKeeps self) :
    Leaves Checkpoint.lastBatchDerived Checkpoint.lastBatchSubmitted (!self.tick.1.isOk)
      (validatorCopy self) (validatorCopy self.tick.2) ∧
      (self.tick.1.isOk = true → ValidatorKeeps self.tick.2) := by
  obtain ⟨middle, settled, ends⟩ := self.tick_ends
  obtain ⟨kept, saves⟩ := validator_settled_copies settled keeps
  cases succeeded : self.tick.1.isOk with
  | true =>
    rw [succeeded] at ends
    have same : middle = self.tick.2 := ends
    rw [← same]
    exact ⟨⟨_, saves, rfl⟩, fun _ => kept⟩
  | false =>
    rw [succeeded] at ends
    obtain ⟨_, unsaved⟩ := ends
    refine ⟨⟨_, saves, ?_⟩, nofun⟩
    rcases unsaved with store | ⟨batchNumber, error, unsaved⟩
    · show self.tick.2.store.history = _ ∧ self.tick.2.store.path = _
      rw [store]
      exact ⟨rfl, rfl⟩
    · rw [Validator.savedAfter, show middle.checkpointPath = _ from kept] at unsaved
      exact (RecordedStore.save_error unsaved).symm

end Validator

end Montana.Lifecycle
