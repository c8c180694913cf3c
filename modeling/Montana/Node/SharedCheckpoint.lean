import Montana.Node.DualNode
import Montana.Node.Rewind

/-! The node, its sequencer and its validator save whole checkpoints at one path. When does a
save put back a number that another of them had moved on? -/

namespace Montana.Lifecycle

open Relation (ReflTransGen)
open Roles Vm
open RecordedStore (Grows)

/-- Who makes a save: the node in the loop of the sync stage or at its completion, one of
the roles, or the node in the active stage. -/
inductive Writer where
  | sync
  | synced
  | sequencer
  | validator
  | node
  deriving DecidableEq, Repr

abbrev DualNode (Producer Block Sink Source Exec Result Store : Type) :=
  Node Producer (Sequencer Block Sink (RecordedStore Store))
    (Validator Block Source Exec Result (RecordedStore Store)) (RecordedStore Store)

variable {Producer Fetched Block Sink Source Exec Result Store Tx : Type}

section Frames

variable {Seq Val : Type}

/-- The stage, the roles and the configuration stay, and so do the batch numbers. -/
structure Node.Kept (before after : Node Producer Seq Val (RecordedStore Store)) : Prop where
  config : after.config = before.config
  sequencer : after.sequencer = before.sequencer
  validator : after.validator = before.validator
  path : after.store.path = before.store.path
  numbers : batchNumbers after.checkpoint = batchNumbers before.checkpoint

theorem Node.Kept.trans {first second third : Node Producer Seq Val (RecordedStore Store)}
    (left : first.Kept second) (right : second.Kept third) : first.Kept third where
  config := right.config.trans left.config
  sequencer := right.sequencer.trans left.sequencer
  validator := right.validator.trans left.validator
  path := right.path.trans left.path
  numbers := right.numbers.trans left.numbers

/-- The check for shutdown at the start of an iteration. -/
theorem Node.check_kept {SeqMeanwhile ValMeanwhile : Type} (self : Node Producer Seq Val (RecordedStore Store))
    (round : Round SeqMeanwhile ValMeanwhile) :
    self.Kept (self.arrive round).checkShutdown.2 ∧
      (self.arrive round).checkShutdown.2.store = self.store ∧
      (self.arrive round).checkShutdown.2.phase = self.phase := by
  obtain ⟨shutdownRx, trace, frame⟩ := (self.arrive round).checkShutdown_frame
  rw [frame]
  exact ⟨⟨rfl, rfl, rfl, rfl, rfl⟩, rfl, rfl⟩

variable [CheckpointStore Store] [LawfulCheckpointStore Store]

private theorem Node.saveCheckpoint_saves {self : Node Producer Seq Val (RecordedStore Store)}
    (own : self.config.checkpointPath = self.store.path) :
    self.Kept self.saveCheckpoint.2 ∧ self.saveCheckpoint.2.phase = self.phase ∧
      ((∃ e, self.saveCheckpoint.1 = .error e ∧ Grows [] self.store self.saveCheckpoint.2.store) ∨
        self.saveCheckpoint.1 = .ok () ∧
          Grows [batchNumbers self.checkpoint] self.store self.saveCheckpoint.2.store) := by
  have path := RecordedStore.save_path self.store self.store.path (self.checkpoint.touch self.wallClock)
  unfold saveCheckpoint
  simp only [assign, own]
  split <;> rename_i saved <;> rw [saved] at path
  · exact ⟨⟨rfl, rfl, rfl, path, rfl⟩, rfl, .inl ⟨_, rfl, .of_same (RecordedStore.save_error saved).2⟩⟩
  · have grows := Grows.of_save (RecordedStore.save_ok saved).2
    exact ⟨⟨rfl, rfl, rfl, path, rfl⟩, rfl, .inr ⟨rfl, grows⟩⟩

private theorem Node.maybeSaveCheckpoint_saves {self : Node Producer Seq Val (RecordedStore Store)}
    (own : self.config.checkpointPath = self.store.path) :
    self.Kept self.maybeSaveCheckpoint.2 ∧ self.maybeSaveCheckpoint.2.phase = self.phase ∧
      ∃ saves, Grows (List.replicate saves (batchNumbers self.checkpoint)) self.store
        self.maybeSaveCheckpoint.2.store := by
  unfold maybeSaveCheckpoint
  simp only []
  split
  · obtain ⟨kept, phase, ⟨_, _, same⟩ | ⟨_, grows⟩⟩ := saveCheckpoint_saves own
    · exact ⟨kept, phase, 0, same⟩
    · exact ⟨kept, phase, 1, grows⟩
  · exact ⟨⟨rfl, rfl, rfl, rfl, rfl⟩, rfl, 0, .of_same rfl⟩

end Frames

section Sync

variable [BlockResponse Block Tx] [BlockJson Block] [BatchSink Sink] [L1BatchSource Source]
variable [Executor Exec Block Result] [CheckpointStore Store]

/-- The roles have the checkpoint that the node had when they were resumed. -/
structure Resumed (before after : DualNode Producer Block Sink Source Exec Result Store) : Prop where
  phase : after.phase = .active
  config : after.config = before.config
  store : after.store = before.store
  checkpoint : after.checkpoint = before.checkpoint
  sequencer : after.sequencer = before.sequencer.map (·.resume before.checkpoint)
  validator : after.validator = before.validator.map (·.resume before.checkpoint)

omit [L1BatchSource Source] [Executor Exec Block Result] in
private theorem resumeSequencer_frame (self : DualNode Producer Block Sink Source Exec Result Store) :
    ∃ after, self.resumeSequencer = (.ok (), after) ∧ after.config = self.config ∧
      after.store = self.store ∧ after.checkpoint = self.checkpoint ∧
      after.sequencer = self.sequencer.map (·.resume self.checkpoint) ∧
      after.validator = self.validator := by
  unfold Node.resumeSequencer
  cases present : self.sequencer with
  | none => exact ⟨self, rfl, rfl, rfl, rfl, present, rfl⟩
  | some sequencer => exact ⟨_, rfl, rfl, rfl, rfl, rfl, rfl⟩

omit [BatchSink Sink] in
private theorem resumeValidator_frame (self : DualNode Producer Block Sink Source Exec Result Store) :
    ∃ after, self.resumeValidator = (.ok (), after) ∧ after.config = self.config ∧
      after.store = self.store ∧ after.checkpoint = self.checkpoint ∧
      after.sequencer = self.sequencer ∧
      after.validator = self.validator.map (·.resume self.checkpoint) := by
  unfold Node.resumeValidator
  cases present : self.validator with
  | none => exact ⟨self, rfl, rfl, rfl, rfl, rfl, present⟩
  | some validator => exact ⟨_, rfl, rfl, rfl, rfl, rfl, rfl⟩

private theorem activate_resumed (self : DualNode Producer Block Sink Source Exec Result Store) :
    Resumed self self.activate := by
  obtain ⟨middle, first, config, store, checkpoint, sequencer, validator⟩ :=
    resumeSequencer_frame (self.setState .active)
  obtain ⟨last, second, config', store', checkpoint', sequencer', validator'⟩ :=
    resumeValidator_frame middle
  unfold Node.activate
  simp only [first, second]
  refine ⟨rfl, config'.trans config, store'.trans store, checkpoint'.trans checkpoint,
    sequencer'.trans sequencer, ?_⟩
  rw [checkpoint, validator] at validator'
  exact validator'

variable [BlockProducer Producer Fetched] [LawfulCheckpointStore Store]

/-- What an iteration of the sync stage does to the writers: it goes on, it ends the run, it
makes the node active, or it completes and its checkpoint without batch numbers is saved. -/
inductive SyncTurn (self next : DualNode Producer Block Sink Source Exec Result Store)
    (completes : Prop) : Prop where
  | opening (phase : next.phase = .syncing) (kept : self.Kept next) (not : ¬ completes) (saves : Nat)
      (grows : Grows (List.replicate saves (batchNumbers self.checkpoint)) self.store next.store)
  | ended (phase : ∃ result, next.phase = .returned result) (saves : Nat)
      (grows : Grows (List.replicate saves (batchNumbers self.checkpoint)) self.store next.store)
      (unsaved : completes → saves = 0)
  | active (middle : DualNode Producer Block Sink Source Exec Result Store) (kept : self.Kept middle)
      (grows : Grows [] self.store middle.store) (resumed : Resumed middle next)
  | completed (holds : completes) (stage : SyncStage Producer)
      (middle : DualNode Producer Block Sink Source Exec Result Store)
      (kept : (self.assign stage.checkpoint).Kept middle)
      (grows : Grows [(0, 0)] self.store middle.store) (resumed : Resumed middle next)

omit [LawfulCheckpointStore Store] in
private theorem launch_turn (self : DualNode Producer Block Sink Source Exec Result Store)
    (round : Round (SequencerMeanwhile Block) ValidatorMeanwhile) (launched : self.phase = .launched) :
    SyncTurn self (self.step round) (self.syncCompletes round) := by
  have not : ¬ self.syncCompletes round := (nomatch launched.symm.trans ·.1)
  have arrived : self.Kept (self.arrive round) := ⟨rfl, rfl, rfl, rfl, rfl⟩
  have same : Grows [] self.store (self.arrive round).store := .of_same rfl
  rw [Node.step, launched]
  show SyncTurn self (self.arrive round).launch _
  unfold Node.launch
  split
  · exact .active _ arrived same (activate_resumed _)
  · split
    · exact .active _ arrived same (activate_resumed _)
    · simp only []
      split
      · exact .ended ⟨_, rfl⟩ 0 same fun _ => rfl
      · exact .opening rfl ⟨rfl, rfl, rfl, rfl, rfl⟩ not 0 same

omit [BlockJson Block] [BatchSink Sink] [L1BatchSource Source] [Executor Exec Block Result] in
private theorem reportProgress_turn {self : DualNode Producer Block Sink Source Exec Result Store}
    (own : self.config.checkpointPath = self.store.path) (syncing : self.phase = .syncing)
    (progress : SyncProgress) (beforeSave : Nat) :
    SyncTurn self (self.reportProgress progress beforeSave) False := by
  let announced := ((self.setState (.syncing progress)).emit (.syncProgress progress)).wait beforeSave
  have first : self.Kept announced := ⟨rfl, rfl, rfl, rfl, rfl⟩
  have path : announced.config.checkpointPath = announced.store.path := own
  obtain ⟨kept, phase, saves, grows⟩ := Node.maybeSaveCheckpoint_saves path
  unfold Node.reportProgress
  simp only []
  split <;> rename_i answer <;> rw [answer] at kept phase grows
  · exact .ended ⟨_, rfl⟩ saves grows nofun
  · rename_i after
    have recorded : after.Kept (after.assign (after.checkpoint.recordSyncProgress progress.currentBlock)) := by
      refine ⟨rfl, rfl, rfl, rfl, ?_⟩
      simp [batchNumbers, Node.assign]
    exact .opening (phase.trans syncing) ((first.trans kept).trans recorded) not_false saves grows

private theorem completeSync_turn {self : DualNode Producer Block Sink Source Exec Result Store}
    (own : self.config.checkpointPath = self.store.path) (stage : SyncStage Producer) {completes : Prop}
    (holds : completes) : SyncTurn self (self.completeSync stage) completes := by
  let announced := self.emit (.syncCompleted (stage.progress.currentBlock - stage.progress.startBlock))
  have first : (self.assign stage.checkpoint).Kept (announced.assign stage.checkpoint) :=
    ⟨rfl, rfl, rfl, rfl, rfl⟩
  have path : (announced.assign stage.checkpoint).config.checkpointPath =
    (announced.assign stage.checkpoint).store.path := own
  obtain ⟨kept, _, ⟨e, failed, same⟩ | ⟨saved, grows⟩⟩ := Node.saveCheckpoint_saves path
  · unfold Node.completeSync
    simp only []
    split <;> rename_i answer
    · rw [answer] at same
      exact .ended ⟨_, rfl⟩ 0 same fun _ => rfl
    · exact nomatch failed.symm.trans (congrArg Prod.fst answer)
  · unfold Node.completeSync
    simp only []
    split <;> rename_i answer
    · exact nomatch saved.symm.trans (congrArg Prod.fst answer)
    · rw [answer] at kept grows
      exact .completed holds stage _ (first.trans kept) grows (activate_resumed _)

omit [BlockJson Block] [BatchSink Sink] [L1BatchSource Source] [Executor Exec Block Result]
  [CheckpointStore Store] [LawfulCheckpointStore Store] in
/-- What goes before in the same iteration may change anything but the writers. -/
theorem SyncTurn.after {self before next : DualNode Producer Block Sink Source Exec Result Store}
    {completes holds : Prop} (kept : self.Kept before) (store : before.store = self.store)
    (same : completes ↔ holds) (turn : SyncTurn before next completes) : SyncTurn self next holds := by
  cases turn with
  | opening phase later not saves grows =>
    rw [store, kept.numbers] at grows
    exact .opening phase (kept.trans later) (mt same.mpr not) saves grows
  | ended phase saves grows unsaved =>
    rw [store, kept.numbers] at grows
    exact .ended phase saves grows fun completed => unsaved (same.mpr completed)
  | active middle later grows resumed => exact .active middle (kept.trans later) (store ▸ grows) resumed
  | completed completed stage middle later grows resumed =>
    have assigned : (self.assign stage.checkpoint).Kept (before.assign stage.checkpoint) :=
      ⟨kept.config, kept.sequencer, kept.validator, kept.path, rfl⟩
    exact .completed (same.mp completed) stage middle (assigned.trans later) (store ▸ grows) resumed

/-- A turn of the sync stage, from its start to its end. -/
theorem sync_turn {self : DualNode Producer Block Sink Source Exec Result Store}
    (own : self.config.checkpointPath = self.store.path)
    (opening : self.phase = .launched ∨ self.phase = .syncing)
    (round : Round (SequencerMeanwhile Block) ValidatorMeanwhile) :
    SyncTurn self (self.step round) (self.syncCompletes round) := by
  rcases opening with launched | syncing
  · exact launch_turn self round launched
  · rw [Node.step, syncing]
    show SyncTurn self ((self.arrive round).syncIteration round.beforeSave) _
    obtain ⟨kept, store, _⟩ := self.check_kept round
    cases asked : (self.arrive round).checkShutdown with
    | mk stops checked =>
      rw [asked] at kept store
      have same : Grows [] self.store checked.store := .of_same (congrArg RecordedStore.history store)
      cases stops with
      | true =>
        rw [Node.syncIteration_asked asked]
        exact .active _ kept same (activate_resumed _)
      | false =>
        obtain ⟨rfl, none, requested⟩ := Node.checkShutdown_false asked
        unfold Node.syncIteration
        simp only [asked]
        cases present : (self.arrive round).syncStage with
        | none => exact .active _ kept same (activate_resumed _)
        | some stage =>
          have ends := stage.tick_cases (self.arrive round).clock
          have completes : self.syncCompletes round ↔ stage.completes (self.arrive round).clock = true := by
            refine ⟨fun holds => ?_, fun synced => ⟨syncing, none, requested, stage, present, synced⟩⟩
            obtain ⟨_, _, _, other, there, synced⟩ := holds
            cases present.symm.trans there
            exact synced
          simp only []
          cases ticked : stage.tick (self.arrive round).clock with
          | mk status finished =>
            rw [ticked] at ends
            let recorded := { self.arrive round with syncStage := some finished }.record .syncTick
            have moved : self.Kept recorded := ⟨rfl, rfl, rfl, rfl, rfl⟩
            have path : recorded.config.checkpointPath = recorded.store.path := own
            rcases ends with ⟨synced, complete, _⟩ | ⟨behind, ⟨e, failed⟩ | ⟨progressed, _⟩⟩
            · cases complete
              exact .after moved rfl (Iff.refl _) (completeSync_turn path finished (completes.mpr synced))
            · cases failed
              exact .ended ⟨_, rfl⟩ 0 same fun _ => rfl
            · have synced : status = .ok (.syncing finished.progress) := progressed
              subst synced
              have not : False ↔ self.syncCompletes round := by
                rw [completes, behind]
                simp
              exact .after moved rfl not (reportProgress_turn path syncing finished.progress round.beforeSave)

end Sync

section Active

/-- The copies that the three writers hold in the active stage. -/
structure Holds (state : Copies.State Nat Nat)
    (dual : DualNode Producer Block Sink Source Exec Result Store) : Prop where
  own : dual.config.checkpointPath = dual.store.path
  node : batchNumbers dual.checkpoint = (state.first, state.second)
  sequencer : ∃ there, dual.sequencer = some there ∧ there.checkpointPath = some dual.store.path ∧
    0 < there.nextSubmissionNumber ∧ batchNumbers there.checkpoint = (state.first, state.base.2)
  validator : ∃ there, dual.validator = some there ∧ there.checkpointPath = some dual.store.path ∧
    batchNumbers there.checkpoint = (state.base.1, state.second)

/-- What a turn in the active stage does: one of the writers writes, and as long as the node
is active they hold what was written. -/
inductive ActiveTurn (state : Copies.State Nat Nat)
    (self next : DualNode Producer Block Sink Source Exec Result Store) : Writer → Prop where
  | silent {writer : Writer} (grows : Grows [] self.store next.store)
      (held : next.phase = .active → Holds state next) : ActiveTurn state self next writer
  | first (values : List Nat) (rising : (state.first :: values).Pairwise (· < ·))
      (grows : Grows (values.map fun value => (value, state.base.2)) self.store next.store)
      (held : next.phase = .active → Holds (state.writeFirst values) next) :
      ActiveTurn state self next .sequencer
  | second (values : List Nat) (rising : (state.second :: values).Pairwise (· < ·))
      (grows : Grows (values.map fun value => (state.base.1, value)) self.store next.store)
      (held : next.phase = .active → Holds (state.writeSecond values) next) :
      ActiveTurn state self next .validator
  | both (grows : Grows [(state.first, state.second)] self.store next.store)
      (held : next.phase = .active → Holds state.writeBoth next) : ActiveTurn state self next .node

theorem Sharing.kept {self next : DualNode Producer Block Sink Source Exec Result Store}
    (sharing : Sharing self.store.path self) (kept : self.Kept next) : Sharing next.store.path next := by
  refine ⟨?_, ?_, ?_⟩
  · rw [kept.path, kept.config]
    exact sharing.own
  · rw [kept.path, kept.sequencer]
    exact sharing.sequencer
  · rw [kept.path, kept.validator]
    exact sharing.validator

/-- When the roles are resumed, all three writers have the numbers of the node. -/
theorem Resumed.holds {self middle next : DualNode Producer Block Sink Source Exec Result Store}
    (resumed : Resumed middle next) (sharing : Sharing self.store.path self) (kept : self.Kept middle)
    (history : List (Nat × Nat)) : Holds (.starting (batchNumbers self.checkpoint) history) next := by
  have path : next.store.path = self.store.path := (congrArg _ resumed.store).trans kept.path
  have numbers := kept.numbers
  refine ⟨?_, ?_, ?_, ?_⟩
  · rw [path, resumed.config, kept.config]
    exact sharing.own
  · rw [resumed.checkpoint]
    exact numbers
  · obtain ⟨there, present, shared, numbered⟩ := sharing.sequencer
    refine ⟨there.resume middle.checkpoint, ?_, ?_, numbered, numbers⟩
    · rw [resumed.sequencer, kept.sequencer, present]
      rfl
    · rw [path]
      exact shared
  · obtain ⟨there, present, shared⟩ := sharing.validator
    refine ⟨there.resume middle.checkpoint, ?_, ?_, numbers⟩
    · rw [resumed.validator, kept.validator, present]
      rfl
    · rw [path]
      exact shared

variable [BlockResponse Block Tx] [BlockJson Block] [CheckpointStore Store] [LawfulCheckpointStore Store]

omit [BlockJson Block] [CheckpointStore Store] [LawfulCheckpointStore Store] in
/-- What the node takes over from the report of the sequencer. -/
theorem merged_submission (self : DualNode Producer Block Sink Source Exec Result Store)
    (submitted executed : Nat) :
    batchNumbers ((self.merge Checkpoint.recordBatchSubmitted (some submitted)).merge
      Checkpoint.recordBlockExecuted (some executed)).checkpoint =
      (max self.checkpoint.lastBatchSubmitted submitted, self.checkpoint.lastBatchDerived) := by
  simp [Node.merge, Node.assign, batchNumbers]

omit [BlockJson Block] [CheckpointStore Store] [LawfulCheckpointStore Store] in
private theorem merged_derivation (self : DualNode Producer Block Sink Source Exec Result Store)
    (derived executed : Nat) :
    batchNumbers ((self.merge Checkpoint.recordBatchDerived (some derived)).merge
      Checkpoint.recordBlockExecuted (some executed)).checkpoint =
      (self.checkpoint.lastBatchSubmitted, max self.checkpoint.lastBatchDerived derived) := by
  simp [Node.merge, Node.assign, batchNumbers]

private theorem sequencer_turn [BatchSink Sink] {state : Copies.State Nat Nat}
    {self : DualNode Producer Block Sink Source Exec Result Store} (holds : Holds state self)
    (meanwhile : SequencerMeanwhile Block) :
    ActiveTurn state self (Node.settle (self.tickSequencer meanwhile)) .sequencer := by
  obtain ⟨sequencer, present, path, numbered, copy⟩ := holds.sequencer
  obtain ⟨submitted, derived⟩ := Prod.mk.inj copy
  let ready := { sequencer with store := self.store, schedule := meanwhile.schedule }
  have keeps : SequencerKeeps ready := ⟨path, numbered⟩
  obtain ⟨⟨middle, saves, ends⟩, kept⟩ := sequencer_leaves keeps meanwhile.rounds
  obtain ⟨values, added, last, other⟩ := CopySaved.added saves Prod.mk fun _ => rfl
  obtain ⟨rising, grows, samePath⟩ := added
  have start : (sequencerCopy ready).checkpoint.lastBatchSubmitted = state.first := submitted
  have behind : (sequencerCopy ready).checkpoint.lastBatchDerived = state.base.2 := derived
  rw [start] at rising last
  rw [behind] at grows other
  unfold Node.tickSequencer
  rw [present]
  simp only [Role.tick]
  cases ran : Sequencer.tick ready meanwhile.rounds with
  | mk outcome after =>
    rw [ran] at ends kept
    cases outcome with
    | done result =>
      have same : middle = sequencerCopy after := ends
      subst same
      obtain ⟨keptPath, keptNumbered⟩ := kept rfl
      refine .first values rising grows fun _ => ⟨?_, ?_, ⟨after, rfl, keptPath, keptNumbered, ?_⟩, ?_⟩
      · exact holds.own.trans samePath.symm
      · obtain ⟨first, second⟩ := Prod.mk.inj holds.node
        have reached := (Copies.le_getLastD rising).1
        refine (merged_submission _ _ _).trans (Prod.ext ?_ second)
        show max self.checkpoint.lastBatchSubmitted after.checkpoint.lastBatchSubmitted = _
        rw [first, show after.checkpoint.lastBatchSubmitted = _ from last]
        exact Nat.max_eq_right reached
      · exact Prod.ext last other
      · obtain ⟨validator, there, validatorPath, validatorCopy⟩ := holds.validator
        exact ⟨validator, there, validatorPath.trans (congrArg some samePath.symm), validatorCopy⟩
    | failed error =>
      have same : after.store.history = middle.file.history := ends.1
      exact .first values rising (grows.then_same same) nofun
    | flushing =>
      have same : middle = sequencerCopy after := ends
      subst same
      exact .first values rising grows nofun

/-- The same of the validator, with the numbers exchanged. -/
theorem validator_turn [L1BatchSource Source] [Executor Exec Block Result] {state : Copies.State Nat Nat}
    {self : DualNode Producer Block Sink Source Exec Result Store} (holds : Holds state self)
    (meanwhile : ValidatorMeanwhile) :
    ActiveTurn state self (Node.settle (self.tickValidator meanwhile)) .validator := by
  obtain ⟨validator, present, path, copy⟩ := holds.validator
  obtain ⟨submitted, derived⟩ := Prod.mk.inj copy
  let ready := { validator with store := self.store, wallClock := meanwhile.unixSeconds }
  have keeps : ValidatorKeeps ready := path
  obtain ⟨⟨middle, saves, ends⟩, kept⟩ := validator_leaves keeps
  obtain ⟨values, added, last, other⟩ :=
    CopySaved.added saves (fun derived submitted => (submitted, derived)) fun _ => rfl
  obtain ⟨rising, grows, samePath⟩ := added
  have start : (validatorCopy ready).checkpoint.lastBatchDerived = state.second := derived
  have behind : (validatorCopy ready).checkpoint.lastBatchSubmitted = state.base.1 := submitted
  rw [start] at rising last
  rw [behind] at grows other
  unfold Node.tickValidator
  rw [present]
  simp only [Role.tick]
  cases ran : Validator.tick ready with
  | mk outcome after =>
    rw [ran] at ends kept
    cases outcome with
    | ok result =>
      have same : middle = validatorCopy after := ends
      subst same
      have keptPath : after.checkpointPath = some after.store.path := kept rfl
      refine .second values rising grows fun _ => ⟨?_, ?_, ?_, ⟨after, rfl, keptPath, ?_⟩⟩
      · exact holds.own.trans samePath.symm
      · obtain ⟨first, second⟩ := Prod.mk.inj holds.node
        have reached := (Copies.le_getLastD rising).1
        refine (merged_derivation _ _ _).trans (Prod.ext first ?_)
        show max self.checkpoint.lastBatchDerived after.checkpoint.lastBatchDerived = _
        rw [second, show after.checkpoint.lastBatchDerived = _ from last]
        exact Nat.max_eq_right reached
      · obtain ⟨sequencer, there, sequencerPath, numbered, sequencerCopy⟩ := holds.sequencer
        exact ⟨sequencer, there, sequencerPath.trans (congrArg some samePath.symm), numbered, sequencerCopy⟩
      · exact Prod.ext other last
    | error error =>
      have same : after.store.history = middle.file.history := ends.1
      exact .second values rising (grows.then_same same) nofun

omit [BlockResponse Block Tx] [BlockJson Block] [CheckpointStore Store] [LawfulCheckpointStore Store] in
theorem Holds.kept {state : Copies.State Nat Nat}
    {self next : DualNode Producer Block Sink Source Exec Result Store} (holds : Holds state self)
    (kept : self.Kept next) : Holds state next where
  own := kept.config ▸ holds.own.trans kept.path.symm
  node := kept.numbers.trans holds.node
  sequencer := by
    rw [kept.sequencer, kept.path]
    exact holds.sequencer
  validator := by
    rw [kept.validator, kept.path]
    exact holds.validator

omit [BlockResponse Block Tx] [BlockJson Block] [CheckpointStore Store] [LawfulCheckpointStore Store] in
theorem Holds.writeBoth {state : Copies.State Nat Nat}
    {self : DualNode Producer Block Sink Source Exec Result Store} (holds : Holds state self) :
    Holds state.writeBoth self := ⟨holds.own, holds.node, holds.sequencer, holds.validator⟩

omit [BlockResponse Block Tx] [BlockJson Block] [CheckpointStore Store] [LawfulCheckpointStore Store] in
theorem ActiveTurn.after {state : Copies.State Nat Nat} {writer : Writer}
    {self before next : DualNode Producer Block Sink Source Exec Result Store}
    (store : before.store = self.store) (turn : ActiveTurn state before next writer) :
    ActiveTurn state self next writer := by
  cases turn with
  | silent grows held => exact .silent (store ▸ grows) held
  | first values rising grows held => exact .first values rising (store ▸ grows) held
  | second values rising grows held => exact .second values rising (store ▸ grows) held
  | both grows held => exact .both (store ▸ grows) held

omit [BlockResponse Block Tx] [BlockJson Block] in
/-- The last save of a run. -/
theorem shutdown_turn {state : Copies.State Nat Nat}
    {self : DualNode Producer Block Sink Source Exec Result Store} (holds : Holds state self) :
    ActiveTurn state self self.shutdown .node := by
  have stopping : self.Kept (self.setState .stopping) := ⟨rfl, rfl, rfl, rfl, rfl⟩
  obtain ⟨result, returned⟩ := self.shutdown_phase
  have left : self.shutdown.phase ≠ .active := by
    rw [returned]
    nofun
  obtain ⟨_, _, ⟨e, failed, grows⟩ | ⟨saved, grows⟩⟩ :=
    Node.saveCheckpoint_saves ((holds.kept stopping).own)
  · refine .silent ?_ (absurd · left)
    unfold Node.shutdown
    split <;> rename_i answer <;> rw [answer] at grows <;> exact grows
  · refine .both ?_ (absurd · left)
    rw [(holds.kept stopping).node] at grows
    unfold Node.shutdown
    split <;> rename_i answer <;> rw [answer] at grows <;> exact grows

/-- Whose saves a turn makes. -/
def Node.writer [BlockProducer Producer Fetched] (self : DualNode Producer Block Sink Source Exec Result Store) :
    Turn (SequencerMeanwhile Block) ValidatorMeanwhile → Writer
  | .sync round => if self.syncCompletes round then .synced else .sync
  | .sequencer _ => .sequencer
  | .validator _ => .validator
  | _ => .node

/-- Every turn in the active stage is that of one writer. -/
theorem active_turn [BlockProducer Producer Fetched] [BatchSink Sink] [L1BatchSource Source]
    [Executor Exec Block Result] {state : Copies.State Nat Nat}
    {self : DualNode Producer Block Sink Source Exec Result Store} (holds : Holds state self)
    (turn : Turn (SequencerMeanwhile Block) ValidatorMeanwhile) :
    ActiveTurn state self (self.activeTurn turn) (Node.writer self turn) := by
  cases turn with
  | sync round => exact .silent (.of_same rfl) fun _ => holds
  | pass round =>
    obtain ⟨kept, store, _⟩ := self.check_kept round
    unfold Node.activeTurn
    simp only []
    cases asked : (self.arrive round).checkShutdown with
    | mk stops checked =>
      rw [asked] at kept store
      cases stops with
      | true => exact .after store (shutdown_turn (holds.kept kept))
      | false => exact .silent (.of_same (congrArg RecordedStore.history store)) fun _ => holds.kept kept
  | sequencer meanwhile => exact sequencer_turn holds meanwhile
  | validator meanwhile => exact validator_turn holds meanwhile
  | elapse elapsed => exact .silent (.of_same rfl) fun _ => holds.kept ⟨rfl, rfl, rfl, rfl, rfl⟩
  | save =>
    obtain ⟨kept, phase, ⟨e, failed, grows⟩ | ⟨saved, grows⟩⟩ := Node.saveCheckpoint_saves holds.own
    · unfold Node.activeTurn
      simp only []
      split <;> rename_i answer
      · rw [answer] at grows
        exact .silent grows nofun
      · exact nomatch failed.symm.trans (congrArg Prod.fst answer)
    · unfold Node.activeTurn
      simp only []
      split <;> rename_i answer
      · exact nomatch saved.symm.trans (congrArg Prod.fst answer)
      · rw [answer] at kept grows
        rw [holds.node] at grows
        exact .both grows fun _ => (holds.kept kept).writeBoth

end Active

end Montana.Lifecycle
