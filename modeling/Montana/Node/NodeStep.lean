import Mathlib.Logic.Relation
import Montana.Lib.Runs
import Montana.Node.Lifecycle

/-! What a node does between two checks for shutdown, as a sequence of atomic actions. -/

namespace Montana.Lifecycle

/-- Everything but the receipt of a shutdown message. -/
def Action.own (action : Action) : Prop := action ≠ .shutdownReceived

@[simp] theorem Action.emitted_own (event : NodeEvent) : (Action.emitted event).own := nofun

namespace Node

open Relation (ReflTransGen)

variable {Producer Block Seq Val Store SeqMeanwhile ValMeanwhile : Type}

/-- Both have the same checkpoint and the same histories. -/
structure Alike (before after : Node Producer Seq Val Store) : Prop where
  checkpoint : after.checkpoint = before.checkpoint
  trace : after.trace = before.trace
  assigned : after.assigned = before.assigned
  handed : after.handed = before.handed

/-- The atomic actions, of which only some may be seen from outside. The checkpoint never
moves down in one. -/
inductive Act (visible : Action → Prop) : Node Producer Seq Val Store → Node Producer Seq Val Store → Prop where
  | quiet {before after : Node Producer Seq Val Store} (alike : before.Alike after) :
      Act visible before after
  | record (self : Node Producer Seq Val Store) {action : Action} (shown : visible action) :
      Act visible self (self.record action)
  | assign (self : Node Producer Seq Val Store) {checkpoint : Checkpoint}
      (below : self.checkpoint.Below checkpoint) : Act visible self (self.assign checkpoint)
  | hand (self : Node Producer Seq Val Store) :
      Act visible self { self with handed := self.handed ++ [self.checkpoint] }

abbrev Acts (visible : Action → Prop) : Node Producer Seq Val Store → Node Producer Seq Val Store → Prop :=
  ReflTransGen (Act visible)

section Acts

variable {visible : Action → Prop}

theorem Acts.mono {larger : Action → Prop} (grows : ∀ action, visible action → larger action)
    {before after : Node Producer Seq Val Store} (acts : Acts visible before after) :
    Acts larger before after := by
  refine ReflTransGen.mono (fun first second act => ?_) _ _ acts
  cases act with
  | quiet alike => exact .quiet alike
  | record shown => exact .record _ (grows _ shown)
  | assign below => exact .assign _ below
  | hand => exact .hand _

@[simp] theorem record_trace (self : Node Producer Seq Val Store) (action : Action) :
    (self.record action).trace = self.trace ++ [action] := rfl

private theorem emit_acts (self : Node Producer Seq Val Store) {event : NodeEvent}
    (shown : visible (.emitted event)) : Acts visible self (self.emit event) := .single (.record self shown)

private theorem wait_acts (self : Node Producer Seq Val Store) (elapsed : Nat) :
    Acts visible self (self.wait elapsed) := .single (.quiet ⟨rfl, rfl, rfl, rfl⟩)

private theorem finish_acts (self : Node Producer Seq Val Store) (result : Except Report Unit) :
    Acts visible self (self.finish result) := .single (.quiet ⟨rfl, rfl, rfl, rfl⟩)

private theorem setState_acts (self : Node Producer Seq Val Store) {newState : NodeState}
    (shown : visible (.emitted (.stateChanged newState))) : Acts visible self (self.setState newState) := by
  have moved : Act visible self { self with state := newState } := .quiet ⟨rfl, rfl, rfl, rfl⟩
  exact .head moved (emit_acts _ shown)

section Saving

variable [CheckpointStore Store]

/-- A save changes the time of the checkpoint, the file and the time of the last save. -/
theorem saveCheckpoint_frame (self : Node Producer Seq Val Store) :
    ∃ lastCheckpointSave events,
      self.saveCheckpoint.2 = { self.assign (self.checkpoint.touch self.wallClock) with
        store := (CheckpointStore.save self.store self.config.checkpointPath
          (self.checkpoint.touch self.wallClock)).2
        lastCheckpointSave
        trace := self.trace ++ events } ∧
      ∀ action ∈ events, action = .emitted (.checkpointSaved (self.checkpoint.touch self.wallClock)) := by
  unfold saveCheckpoint
  simp only [assign]
  split <;> rename_i saved <;> rw [saved]
  · exact ⟨self.lastCheckpointSave, [], by simp, by simp⟩
  · exact ⟨self.clock, [_], rfl, by simp⟩

/-- A save, if it is due, keeps the stages and the numbers of the checkpoint. -/
theorem maybeSaveCheckpoint_frame (self : Node Producer Seq Val Store) :
    self.maybeSaveCheckpoint.2.syncStage = self.syncStage ∧
      self.maybeSaveCheckpoint.2.phase = self.phase ∧
      self.maybeSaveCheckpoint.2.checkpoint.syncedToBlock = self.checkpoint.syncedToBlock := by
  unfold maybeSaveCheckpoint
  simp only []
  split
  · obtain ⟨lastCheckpointSave, events, same, _⟩ := self.saveCheckpoint_frame
    rw [same]
    exact ⟨rfl, rfl, rfl⟩
  · exact ⟨rfl, rfl, rfl⟩

private theorem saveCheckpoint_acts (self : Node Producer Seq Val Store)
    (saves : ∀ checkpoint, visible (.emitted (.checkpointSaved checkpoint))) :
    Acts visible self self.saveCheckpoint.2 := by
  have touched : Act visible self (self.assign (self.checkpoint.touch self.wallClock)) :=
    .assign self (self.checkpoint.below_touch _)
  unfold saveCheckpoint
  simp only []
  split
  · exact .tail (.single touched) (.quiet ⟨rfl, rfl, rfl, rfl⟩)
  · rename_i store _
    have written : Act visible (self.assign (self.checkpoint.touch self.wallClock))
        { self.assign (self.checkpoint.touch self.wallClock) with
          store, lastCheckpointSave := self.clock } := .quiet ⟨rfl, rfl, rfl, rfl⟩
    exact .head touched (.head written (.single (.record _ (saves _))))

private theorem maybeSaveCheckpoint_acts (self : Node Producer Seq Val Store)
    (saves : ∀ checkpoint, visible (.emitted (.checkpointSaved checkpoint))) :
    Acts visible self self.maybeSaveCheckpoint.2 := by
  unfold maybeSaveCheckpoint
  simp only []
  split
  · exact self.saveCheckpoint_acts saves
  · exact .refl

theorem shutdown_acts (self : Node Producer Seq Val Store)
    (saves : ∀ checkpoint, visible (.emitted (.checkpointSaved checkpoint)))
    (stopping : visible (.emitted (.stateChanged .stopping)))
    (stopped : visible (.emitted (.stateChanged .stopped))) : Acts visible self self.shutdown := by
  have saved := (self.setState_acts stopping).trans ((self.setState .stopping).saveCheckpoint_acts saves)
  unfold shutdown
  split <;> rename_i answer <;> rw [answer] at saved
  · exact saved.tail (.quiet ⟨rfl, rfl, rfl, rfl⟩)
  · exact (saved.trans (setState_acts _ stopped)).tail (.quiet ⟨rfl, rfl, rfl, rfl⟩)

/-- Behind the active stage `run` returns, with or without an error. -/
theorem shutdown_phase (self : Node Producer Seq Val Store) :
    ∃ result, self.shutdown.phase = .returned result := by
  unfold shutdown
  split <;> exact ⟨_, rfl⟩

theorem shutdown_left (self : Node Producer Seq Val Store) : self.shutdown.phase ≠ .syncing := by
  obtain ⟨result, returned⟩ := self.shutdown_phase
  rw [returned]
  nofun

end Saving

section Roles

variable [Role Seq Store SeqMeanwhile] [Role Val Store ValMeanwhile]

private theorem resumeSequencer_acts (self : Node Producer Seq Val Store) :
    Acts visible self self.resumeSequencer.2 := by
  unfold resumeSequencer
  split
  · exact .refl
  · exact .tail (.single (.hand self)) (.quiet ⟨rfl, rfl, rfl, rfl⟩)

private theorem resumeValidator_acts (self : Node Producer Seq Val Store) :
    Acts visible self self.resumeValidator.2 := by
  unfold resumeValidator
  split
  · exact .refl
  · exact .tail (.single (.hand self)) (.quiet ⟨rfl, rfl, rfl, rfl⟩)

/-- In the active state the roles are resumed. -/
theorem activate_resumes (self : Node Producer Seq Val Store) :
    Acts visible (self.setState .active) self.activate := by
  have sequencer : Acts visible (self.setState .active) (self.setState .active).resumeSequencer.2 :=
    resumeSequencer_acts _
  unfold activate
  split <;> rename_i first <;> rw [first] at sequencer
  · exact sequencer.trans (finish_acts _ _)
  · rename_i resumed
    have validator := sequencer.trans resumed.resumeValidator_acts
    split <;> rename_i second <;> rw [second] at validator
    · exact validator.trans (finish_acts _ _)
    · exact validator.tail (.quiet ⟨rfl, rfl, rfl, rfl⟩)

theorem activate_acts (self : Node Producer Seq Val Store)
    (active : visible (.emitted (.stateChanged .active))) : Acts visible self self.activate :=
  (self.setState_acts active).trans self.activate_resumes

/-- The change to the active stage succeeds or ends the run. -/
theorem activate_phase (self : Node Producer Seq Val Store) :
    self.activate.phase = .active ∨ ∃ result, self.activate.phase = .returned result := by
  unfold activate
  split
  · exact .inr ⟨_, rfl⟩
  · split
    · exact .inr ⟨_, rfl⟩
    · exact .inl rfl

theorem activate_left (self : Node Producer Seq Val Store) : self.activate.phase ≠ .syncing := by
  rcases self.activate_phase with active | ⟨result, returned⟩
  · rw [active]
    nofun
  · rw [returned]
    nofun

private theorem merge_acts (self : Node Producer Seq Val Store)
    {recordNumber : Checkpoint → Nat → Checkpoint}
    (rises : ∀ (checkpoint : Checkpoint) number, checkpoint.Below (recordNumber checkpoint number))
    (reported : Option Nat) :
    Acts visible self (self.merge recordNumber reported) := by
  cases reported with
  | none => exact .refl
  | some number => exact .single (.assign self (rises _ number))

private theorem merge_phase (self : Node Producer Seq Val Store)
    (recordNumber : Checkpoint → Nat → Checkpoint)
    (reported : Option Nat) : (self.merge recordNumber reported).phase = self.phase := by
  cases reported <;> rfl

/-- A tick that succeeds merges the two numbers that its role reports. -/
theorem merge_both_acts {self ticked : Node Producer Seq Val Store} (acts : Acts visible self ticked)
    {recordBatch : Checkpoint → Nat → Checkpoint}
    (rises : ∀ (checkpoint : Checkpoint) number, checkpoint.Below (recordBatch checkpoint number))
    (batch block : Option Nat) :
    Acts visible self ((ticked.merge recordBatch batch).merge Checkpoint.recordBlockExecuted block) :=
  (acts.trans (merge_acts _ rises _)).trans (merge_acts _ Checkpoint.below_recordBlockExecuted _)

private theorem tickSequencer_acts (self : Node Producer Seq Val Store) (meanwhile : SeqMeanwhile)
    (ticks : visible .sequencerTick) : Acts visible self (self.tickSequencer meanwhile).2 := by
  unfold tickSequencer
  split
  · exact .refl
  · rename_i sequencer _
    cases Role.tick sequencer meanwhile self.store with
    | mk outcome rest =>
      have moved : Act visible self { self with sequencer := some rest.1, store := rest.2 } :=
        .quiet ⟨rfl, rfl, rfl, rfl⟩
      have ticked := ReflTransGen.tail (.single moved) (.record _ ticks)
      cases outcome with
      | done result =>
        exact merge_both_acts ticked Checkpoint.below_recordBatchSubmitted _ _
      | failed report => exact ticked
      | awaited => exact ticked

private theorem tickValidator_acts (self : Node Producer Seq Val Store) (meanwhile : ValMeanwhile)
    (ticks : visible .validatorTick) : Acts visible self (self.tickValidator meanwhile).2 := by
  unfold tickValidator
  split
  · exact .refl
  · rename_i validator _
    cases Role.tick validator meanwhile self.store with
    | mk outcome rest =>
      have moved : Act visible self { self with validator := some rest.1, store := rest.2 } :=
        .quiet ⟨rfl, rfl, rfl, rfl⟩
      have ticked := ReflTransGen.tail (.single moved) (.record _ ticks)
      cases outcome with
      | done result =>
        exact merge_both_acts ticked Checkpoint.below_recordBatchDerived _ _
      | failed report => exact ticked
      | awaited => exact ticked

end Roles

/-- What was seen of a sequence of actions is added to the trace. -/
theorem Acts.trace {before after : Node Producer Seq Val Store} (acts : Acts visible before after) :
    ∃ added, after.trace = before.trace ++ added ∧ ∀ action ∈ added, visible action := by
  induction acts with
  | refl => exact ⟨[], by simp, by simp⟩
  | tail _ act ih =>
    obtain ⟨added, same, shown⟩ := ih
    cases act with
    | quiet alike => exact ⟨added, by rw [alike.trace, same], shown⟩
    | @record action ok =>
      refine ⟨added ++ [action], by simp [record, same], fun other member => ?_⟩
      rcases List.mem_append.mp member with earlier | last
      · exact shown other earlier
      · rw [List.mem_singleton.mp last]
        exact ok
    | assign below => exact ⟨added, same, shown⟩
    | hand => exact ⟨added, same, shown⟩

end Acts

/-- A check receives a waiting message, or it reads the global flag. -/
theorem checkShutdown_cases (self : Node Producer Seq Val Store) :
    (self.shutdownRx = 0 ∧ self.checkShutdown = (self.shutdownRequested, self)) ∨
    ∃ received, self.shutdownRx ≠ 0 ∧ self.checkShutdown = (true, received.record .shutdownReceived) ∧
      self.Alike received := by
  unfold checkShutdown
  cases waiting : self.shutdownRx with
  | zero => exact .inl ⟨rfl, rfl⟩
  | succ rest => exact .inr ⟨{ self with shutdownRx := rest }, by simp, rfl, ⟨rfl, rfl, rfl, rfl⟩⟩

theorem checkShutdown_frame (self : Node Producer Seq Val Store) :
    ∃ shutdownRx trace, self.checkShutdown.2 = { self with shutdownRx, trace } := by
  unfold checkShutdown
  split
  · exact ⟨self.shutdownRx, self.trace, rfl⟩
  · exact ⟨_, _, rfl⟩

/-- A check that finds nothing changes nothing. -/
theorem checkShutdown_false {self checked : Node Producer Seq Val Store}
    (asked : self.checkShutdown = (false, checked)) :
    checked = self ∧ self.shutdownRx = 0 ∧ self.shutdownRequested = false := by
  rcases self.checkShutdown_cases with ⟨none, same⟩ | ⟨received, _, same, _⟩
  · obtain ⟨requested, kept⟩ := Prod.mk.inj (asked.symm.trans same)
    exact ⟨kept, none, requested.symm⟩
  · exact nomatch (Prod.mk.inj (asked.symm.trans same)).1

/-- What ends the loop of a stage: the global flag, or a message that is received. -/
inductive Asked (self checked : Node Producer Seq Val Store) : Prop where
  | requested (none : self.shutdownRx = 0) (flag : self.shutdownRequested = true) (same : checked = self)
  | received {taken : Node Producer Seq Val Store} (some : self.shutdownRx ≠ 0) (alike : self.Alike taken)
      (same : checked = taken.record .shutdownReceived)

theorem Asked.acts {self checked : Node Producer Seq Val Store} (asked : self.Asked checked) :
    Acts (fun _ => True) self checked := by
  cases asked with
  | requested none flag same => exact same ▸ .refl
  | received some alike same => exact same ▸ .tail (.single (.quiet alike)) (.record _ trivial)

theorem Asked.stops {self checked : Node Producer Seq Val Store} (asked : self.Asked checked)
    (none : self.shutdownRx = 0) : self.shutdownRequested ≠ false := by
  cases asked with
  | requested _ flag => rw [flag]; nofun
  | received some => exact absurd none some

/-- A check that finds something ends the loop. -/
theorem checkShutdown_asked (self : Node Producer Seq Val Store) :
    (self.checkShutdown = (false, self) ∧ self.shutdownRx = 0 ∧ self.shutdownRequested = false) ∨
    ∃ checked, self.checkShutdown = (true, checked) ∧ self.Asked checked := by
  rcases self.checkShutdown_cases with ⟨none, answer⟩ | ⟨taken, some, answer, alike⟩
  · cases flag : self.shutdownRequested with
    | true =>
      rw [flag] at answer
      exact .inr ⟨self, answer, .requested none flag rfl⟩
    | false =>
      rw [flag] at answer
      exact .inl ⟨answer, none, rfl⟩
  · exact .inr ⟨_, answer, .received some alike rfl⟩

section Stages

variable [BlockProducer Producer Block] [CheckpointStore Store]
variable [Role Seq Store SeqMeanwhile] [Role Val Store ValMeanwhile]

omit [CheckpointStore Store] in
theorem launch_acts (self : Node Producer Seq Val Store) : Acts Action.own self self.launch := by
  have activated : Acts Action.own self self.activate := self.activate_acts (Action.emitted_own _)
  unfold launch
  split
  · exact activated
  · split
    · exact activated
    · simp only []
      split
      · exact .single (.quiet ⟨rfl, rfl, rfl, rfl⟩)
      · rename_i syncStage _
        have moved : Act Action.own self { self with syncStage := some syncStage, phase := .syncing } :=
          .quiet ⟨rfl, rfl, rfl, rfl⟩
        exact .head moved ((emit_acts _ (Action.emitted_own _)).trans
          (setState_acts _ (Action.emitted_own _)))

omit [CheckpointStore Store] in
/-- A sync stage that was started stands where the checkpoint says. -/
theorem launch_syncing (self : Node Producer Seq Val Store) (syncing : self.launch.phase = .syncing) :
    ∃ syncStage, self.launch.syncStage = some syncStage ∧
      syncStage.currentBlock = self.launch.checkpoint.syncedToBlock := by
  unfold launch at syncing ⊢
  split at syncing
  · exact absurd syncing self.activate_left
  · rename_i kept
    rw [if_neg kept]
    cases present : self.syncStage with
    | none =>
      rw [present] at syncing
      exact absurd syncing self.activate_left
    | some syncStage =>
      rw [present] at syncing
      have stands := syncStage.initializeFrom_currentBlock self.checkpoint.syncedToBlock self.clock
      simp only [] at syncing ⊢
      split at syncing <;> rename_i started <;> rw [started] at stands
      · cases syncing
      · exact ⟨_, rfl, stands⟩

private theorem reportProgress_acts (self : Node Producer Seq Val Store) (progress : SyncProgress)
    (beforeSave : Nat) : Acts Action.own self (self.reportProgress progress beforeSave) := by
  have announced := (self.setState_acts (Action.emitted_own (.stateChanged (.syncing progress)))).trans
    (emit_acts _ (Action.emitted_own (.syncProgress progress)))
  have saved := (announced.trans (wait_acts _ beforeSave)).trans
    (maybeSaveCheckpoint_acts _ fun checkpoint => Action.emitted_own _)
  unfold reportProgress
  simp only []
  split <;> rename_i answer <;> rw [answer] at saved
  · exact saved.trans (finish_acts _ _)
  · exact saved.tail (.assign _ (Checkpoint.below_recordSyncProgress _ _))

/-- Progress is recorded up to the block that was reported. -/
theorem reportProgress_frame (self : Node Producer Seq Val Store) (progress : SyncProgress)
    (beforeSave : Nat) : (self.reportProgress progress beforeSave).syncStage = self.syncStage ∧
      (self.reportProgress progress beforeSave).checkpoint.syncedToBlock ≤
        max self.checkpoint.syncedToBlock progress.currentBlock := by
  obtain ⟨stage, _, synced⟩ := maybeSaveCheckpoint_frame
    (((self.setState (.syncing progress)).emit (.syncProgress progress)).wait beforeSave)
  unfold reportProgress
  simp only []
  split <;> rename_i answer <;> rw [answer] at stage synced
  · exact ⟨stage, Nat.le_trans (Nat.le_of_eq synced) (Nat.le_max_left _ _)⟩
  · refine ⟨stage, ?_⟩
    show (Checkpoint.recordSyncProgress _ _).syncedToBlock ≤ _
    rw [Checkpoint.recordSyncProgress_syncedToBlock]
    exact Nat.le_of_eq (congrArg (max · progress.currentBlock) synced)

/-- What follows once the checkpoint is that of the sync stage. -/
theorem completeSync_acts (self : Node Producer Seq Val Store) (syncStage : SyncStage Producer) :
    ∃ announced, Acts Action.own self announced ∧ announced.checkpoint = self.checkpoint ∧
      announced.assigned = self.assigned ∧ announced.handed = self.handed ∧
      Acts Action.own (announced.assign syncStage.checkpoint) (self.completeSync syncStage) := by
  let blocksSynced := syncStage.progress.currentBlock - syncStage.progress.startBlock
  have emitted : Acts Action.own self (self.emit (.syncCompleted blocksSynced)) :=
    self.emit_acts (Action.emitted_own _)
  have saved := saveCheckpoint_acts ((self.emit (.syncCompleted blocksSynced)).assign syncStage.checkpoint)
    fun checkpoint => Action.emitted_own (.checkpointSaved checkpoint)
  refine ⟨_, emitted, rfl, rfl, rfl, ?_⟩
  unfold completeSync
  simp only []
  split <;> rename_i answer <;> rw [answer] at saved
  · exact saved.trans (finish_acts _ _)
  · exact saved.trans (activate_acts _ (Action.emitted_own _))

private theorem completeSync_phase (self : Node Producer Seq Val Store) (syncStage : SyncStage Producer) :
    (self.completeSync syncStage).phase ≠ .syncing := by
  unfold completeSync
  simp only []
  split
  · nofun
  · exact activate_left _

/-- The sync stage was ticked and found synced, and its checkpoint takes the place of the old one. -/
structure Replaced (before after : Node Producer Seq Val Store) (stage finished : SyncStage Producer)
    (announced : Node Producer Seq Val Store) : Prop where
  present : before.syncStage = some stage
  completes : stage.completes before.clock = true
  stands : finished.currentBlock = stage.currentBlock
  announces : Acts Action.own before announced
  checkpoint : announced.checkpoint = before.checkpoint
  assigned : announced.assigned = before.assigned
  handed : announced.handed = before.handed
  continues : Acts Action.own (announced.assign finished.checkpoint) after
  leaves : after.phase ≠ .syncing

/-- A shutdown during the sync stage ends the loop as completion does. -/
theorem syncIteration_asked {self checked : Node Producer Seq Val Store}
    (asked : self.checkShutdown = (true, checked)) (beforeSave : Nat) :
    self.syncIteration beforeSave = checked.activate := by
  unfold syncIteration
  rw [asked]

omit [BlockProducer Producer Block] in
theorem activeIteration_asked {self checked : Node Producer Seq Val Store}
    (asked : self.checkShutdown = (true, checked)) (round : Round SeqMeanwhile ValMeanwhile) :
    self.activeIteration round = checked.shutdown := by
  unfold activeIteration
  rw [asked]

/-- An iteration of the sync loop without shutdown: the checkpoint is replaced, or nothing
moves down and the stage stays ahead of the checkpoint. -/
theorem syncIteration_cases (self : Node Producer Seq Val Store) (beforeSave : Nat)
    (unasked : self.checkShutdown = (false, self)) :
    (∃ stage finished announced, self.Replaced (self.syncIteration beforeSave) stage finished announced) ∨
    ((∀ stage, self.syncStage = some stage → stage.completes self.clock = false) ∧
      Acts Action.own self (self.syncIteration beforeSave) ∧
      ((self.syncIteration beforeSave).phase = .syncing → ∃ stage finished,
        self.syncStage = some stage ∧ (self.syncIteration beforeSave).syncStage = some finished ∧
        stage.currentBlock ≤ finished.currentBlock ∧
        (self.syncIteration beforeSave).checkpoint.syncedToBlock ≤
          max self.checkpoint.syncedToBlock finished.currentBlock)) := by
  unfold syncIteration
  simp only [unasked]
  cases present : self.syncStage with
  | none =>
    exact .inr ⟨nofun, self.activate_acts (Action.emitted_own _),
      fun syncing => absurd syncing self.activate_left⟩
  | some stage =>
    have ends := stage.tick_cases self.clock
    simp only []
    cases ticked : stage.tick self.clock with
    | mk status finished =>
      rw [ticked] at ends
      have moved : Act Action.own self { self with syncStage := some finished } :=
        .quiet ⟨rfl, rfl, rfl, rfl⟩
      have recorded : Acts Action.own self ({ self with syncStage := some finished }.record .syncTick) :=
        .tail (.single moved) (.record _ nofun)
      rcases ends with ⟨synced, complete, stands⟩ | ⟨behind, ⟨e, failed⟩ | ⟨syncing, further⟩⟩
      · cases complete
        obtain ⟨announced, emitted, checkpoint, assigned, handed, continues⟩ :=
          completeSync_acts ({ self with syncStage := some finished }.record .syncTick) finished
        exact .inl ⟨stage, finished, announced, present, synced, stands, recorded.trans emitted, checkpoint,
          assigned, handed, continues, completeSync_phase _ _⟩
      · cases failed
        exact .inr ⟨fun other same => by cases same; exact behind, recorded.trans (finish_acts _ _), nofun⟩
      · have progressed : status = .ok (.syncing finished.progress) := syncing
        subst progressed
        obtain ⟨kept, synced⟩ := reportProgress_frame
          ({ self with syncStage := some finished }.record .syncTick) finished.progress beforeSave
        exact .inr ⟨fun other same => by cases same; exact behind,
          recorded.trans (reportProgress_acts _ _ _), fun _ => ⟨stage, finished, rfl, kept, further, synced⟩⟩

omit [BlockProducer Producer Block] [CheckpointStore Store] [Role Val Store ValMeanwhile] in
theorem tickSequencer_phase (self : Node Producer Seq Val Store) (meanwhile : SeqMeanwhile) :
    (self.tickSequencer meanwhile).2.phase = self.phase := by
  unfold tickSequencer
  split
  · rfl
  · simp only []
    split
    · rw [merge_phase, merge_phase]
      rfl
    · rfl

omit [BlockProducer Producer Block] [CheckpointStore Store] [Role Seq Store SeqMeanwhile] in
theorem tickValidator_phase (self : Node Producer Seq Val Store) (meanwhile : ValMeanwhile) :
    (self.tickValidator meanwhile).2.phase = self.phase := by
  unfold tickValidator
  split
  · rfl
  · simp only []
    split
    · rw [merge_phase, merge_phase]
      rfl
    · rfl

omit [BlockProducer Producer Block] in
/-- An iteration of the active loop without shutdown. -/
theorem activeIteration_acts (self : Node Producer Seq Val Store) (round : Round SeqMeanwhile ValMeanwhile)
    (unasked : self.checkShutdown = (false, self)) :
    Acts Action.own self (self.activeIteration round) := by
  have sequenced : Acts Action.own self (self.tickSequencer round.sequencer).2 :=
    self.tickSequencer_acts round.sequencer nofun
  unfold activeIteration
  simp only [unasked]
  split <;> rename_i first <;> rw [first] at sequenced
  · exact sequenced.trans (finish_acts _ _)
  · exact sequenced.tail (.quiet ⟨rfl, rfl, rfl, rfl⟩)
  · rename_i between
    have validated := sequenced.trans (between.tickValidator_acts round.validator nofun)
    split <;> rename_i second <;> rw [second] at validated
    · exact validated.trans (finish_acts _ _)
    · exact validated.tail (.quiet ⟨rfl, rfl, rfl, rfl⟩)
    · have saved := (validated.trans (wait_acts _ round.beforeSave)).trans
        (maybeSaveCheckpoint_acts _ fun checkpoint => Action.emitted_own _)
      split <;> rename_i third <;> rw [third] at saved
      · exact saved.trans (finish_acts _ _)
      · split
        · exact saved
        · exact saved.trans (wait_acts _ 10)

omit [BlockProducer Producer Block] in
/-- The sync stage is not entered again. -/
theorem activeIteration_phase (self : Node Producer Seq Val Store)
    (round : Round SeqMeanwhile ValMeanwhile) (unasked : self.checkShutdown = (false, self))
    (left : self.phase ≠ .syncing) : (self.activeIteration round).phase ≠ .syncing := by
  have sequenced := self.tickSequencer_phase round.sequencer
  unfold activeIteration
  simp only [unasked]
  split <;> rename_i first <;> rw [first] at sequenced
  · nofun
  · nofun
  · rename_i between
    have validated := (between.tickValidator_phase round.validator).trans sequenced
    split <;> rename_i second <;> rw [second] at validated
    · nofun
    · nofun
    · rename_i behind
      have saved := ((behind.wait round.beforeSave).maybeSaveCheckpoint_frame.2.1).trans validated
      split <;> rename_i third <;> rw [third] at saved
      · nofun
      · split <;> exact fun syncing => left (saved.symm.trans syncing)

/-- What a round is, by the stage and by what its check for shutdown finds. -/
inductive RoundCase (self next : Node Producer Seq Val Store) (round : Round SeqMeanwhile ValMeanwhile) :
    Prop where
  | launch (stands : self.phase = .launched) (same : next = (self.arrive round).launch)
  | sync (stands : self.phase = .syncing) (none : (self.arrive round).shutdownRx = 0)
      (unrequested : (self.arrive round).shutdownRequested = false)
      (unasked : (self.arrive round).checkShutdown = (false, self.arrive round))
      (same : next = (self.arrive round).syncIteration round.beforeSave)
  | leaveSync (stands : self.phase = .syncing) {checked : Node Producer Seq Val Store}
      (asked : (self.arrive round).Asked checked) (same : next = checked.activate)
  | work (stands : self.phase = .active)
      (unasked : (self.arrive round).checkShutdown = (false, self.arrive round))
      (same : next = (self.arrive round).activeIteration round)
  | leaveWork (stands : self.phase = .active) {checked : Node Producer Seq Val Store}
      (asked : (self.arrive round).Asked checked) (same : next = checked.shutdown)
  | still (halted : self.phase ≠ .syncing) (same : next = self)

theorem step_roundCase (self : Node Producer Seq Val Store) (round : Round SeqMeanwhile ValMeanwhile) :
    self.RoundCase (self.step round) round := by
  unfold step
  cases stands : self.phase with
  | launched => exact .launch stands rfl
  | syncing =>
    rcases (self.arrive round).checkShutdown_asked with ⟨unasked, none, unrequested⟩ | ⟨_, answer, asked⟩
    · exact .sync stands none unrequested unasked rfl
    · exact .leaveSync stands asked (syncIteration_asked answer _)
  | active =>
    rcases (self.arrive round).checkShutdown_asked with ⟨unasked, _, _⟩ | ⟨_, answer, asked⟩
    · exact .work stands unasked rfl
    · exact .leaveWork stands asked (activeIteration_asked answer _)
  | awaiting => exact .still (nomatch stands.symm.trans ·) rfl
  | returned result => exact .still (nomatch stands.symm.trans ·) rfl

end Stages

end Node

end Montana.Lifecycle
