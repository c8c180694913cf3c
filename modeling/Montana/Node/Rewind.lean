import Montana.Node.NodeStep
import Montana.Node.Reference

/-! When the checkpoint of a node moves back: the sync stage replaces it by one of its own. -/

namespace Montana.Lifecycle.Node

variable {Producer Block Seq Val Store SeqMeanwhile ValMeanwhile : Type}

/-- No number of the checkpoint ever decreased, and none that was given to a role is below
the one that was loaded. -/
structure NeverRewound (loaded : Checkpoint) (node : Node Producer Seq Val Store) : Prop where
  assigned : node.assigned.Pairwise Checkpoint.Below
  handed : ∀ given ∈ node.handed, loaded.Below given

/-- The history of the checkpoint starts with the loaded one and ends with the present one. -/
structure Tracked (loaded : Checkpoint) (node : Node Producer Seq Val Store) : Prop where
  first : loaded ∈ node.assigned
  last : ∃ earlier, node.assigned = earlier ++ [node.checkpoint]

/-- As `NeverRewound`, said of the present checkpoint, so that one more assignment is seen
against all that went before. -/
structure Risen (loaded : Checkpoint) (node : Node Producer Seq Val Store) : Prop where
  never : node.NeverRewound loaded
  latest : ∀ checkpoint ∈ node.assigned, checkpoint.Below node.checkpoint
  above : loaded.Below node.checkpoint

private theorem NeverRewound.risen {loaded : Checkpoint} {self : Node Producer Seq Val Store}
    (never : self.NeverRewound loaded) (tracked : self.Tracked loaded) : self.Risen loaded := by
  obtain ⟨earlier, same⟩ := tracked.last
  have latest : ∀ checkpoint ∈ self.assigned, checkpoint.Below self.checkpoint := by
    intro checkpoint member
    have ordered := never.assigned
    rw [same, List.pairwise_append] at ordered
    rw [same] at member
    rcases List.mem_append.mp member with before | present
    · exact ordered.2.2 checkpoint before _ List.mem_cons_self
    · rw [List.mem_singleton.mp present]
      exact self.checkpoint.below_refl
  exact ⟨never, latest, latest loaded tracked.first⟩

/-- One more assignment keeps the order exactly when the new value is not below the old one. -/
theorem Risen.assign {loaded checkpoint : Checkpoint} {self : Node Producer Seq Val Store}
    (risen : self.Risen loaded) (below : self.checkpoint.Below checkpoint) :
    (self.assign checkpoint).Risen loaded := by
  have above : ∀ earlier ∈ self.assigned, earlier.Below checkpoint :=
    fun earlier member => (risen.latest earlier member).trans below
  refine ⟨⟨List.pairwise_append.mpr ⟨risen.never.assigned, List.pairwise_singleton _ _, ?_⟩,
    risen.never.handed⟩, fun earlier member => ?_, risen.above.trans below⟩
  · intro earlier member last same
    rw [List.mem_singleton.mp same]
    exact above earlier member
  · rcases List.mem_append.mp member with before | present
    · exact above earlier before
    · rw [List.mem_singleton.mp present]
      exact checkpoint.below_refl

theorem Risen.alike {loaded : Checkpoint} {self next : Node Producer Seq Val Store}
    (risen : self.Risen loaded) (checkpoint : next.checkpoint = self.checkpoint)
    (assigned : next.assigned = self.assigned) (handed : next.handed = self.handed) : next.Risen loaded := by
  obtain ⟨⟨ordered, given⟩, latest, above⟩ := risen
  refine ⟨⟨?_, ?_⟩, ?_, ?_⟩
  · rw [assigned]
    exact ordered
  · rw [handed]
    exact given
  · rw [assigned, checkpoint]
    exact latest
  · rw [checkpoint]
    exact above

theorem Risen.act {loaded : Checkpoint} {visible : Action → Prop} (before after : Node Producer Seq Val Store)
    (act : Act visible before after) (risen : before.Risen loaded) : after.Risen loaded := by
  cases act with
  | quiet alike => exact risen.alike alike.checkpoint alike.assigned alike.handed
  | record shown => exact risen.alike rfl rfl rfl
  | assign below => exact risen.assign below
  | hand =>
    refine ⟨⟨risen.never.assigned, fun given member => ?_⟩, risen.latest, risen.above⟩
    rcases List.mem_append.mp member with earlier | last
    · exact risen.never.handed given earlier
    · rw [List.mem_singleton.mp last]
      exact risen.above

theorem Tracked.assign {loaded checkpoint : Checkpoint} {self : Node Producer Seq Val Store}
    (tracked : self.Tracked loaded) : (self.assign checkpoint).Tracked loaded :=
  ⟨List.mem_append_left _ tracked.first, self.assigned, rfl⟩

theorem Tracked.act {loaded : Checkpoint} {visible : Action → Prop} (before after : Node Producer Seq Val Store)
    (act : Act visible before after) (tracked : before.Tracked loaded) : after.Tracked loaded := by
  cases act with
  | quiet alike =>
    refine ⟨alike.assigned ▸ tracked.first, ?_⟩
    rw [alike.assigned, alike.checkpoint]
    exact tracked.last
  | record shown => exact ⟨tracked.first, tracked.last⟩
  | assign below => exact tracked.assign
  | hand => exact ⟨tracked.first, tracked.last⟩

/-- The history of the checkpoint is only added to. -/
theorem Acts.assigned {visible : Action → Prop} {before after : Node Producer Seq Val Store}
    (acts : Acts visible before after) : before.assigned <+: after.assigned := by
  induction acts with
  | refl => exact List.prefix_refl _
  | tail _ act ih =>
    refine ih.trans ?_
    cases act with
    | quiet alike => exact alike.assigned ▸ List.prefix_refl _
    | record shown => exact List.prefix_refl _
    | assign below => exact List.prefix_append _ _
    | hand => exact List.prefix_refl _

/-- While it syncs, the stage is not behind what the checkpoint says of it. -/
def SyncAhead (self : Node Producer Seq Val Store) : Prop :=
  self.phase = .syncing → ∃ stage, self.syncStage = some stage ∧
    self.checkpoint.syncedToBlock ≤ stage.currentBlock

private theorem SyncAhead.of_phase {self : Node Producer Seq Val Store} (left : self.phase ≠ .syncing) :
    self.SyncAhead := fun syncing => absurd syncing left

section Steps

variable [BlockProducer Producer Block] [CheckpointStore Store]
variable [Role Seq Store SeqMeanwhile] [Role Val Store ValMeanwhile]

/-- Whether the sync loop ends in this round because the stage is synced: no shutdown is
asked for, and the tip, refreshed when it is due, is near enough. -/
def syncCompletes (self : Node Producer Seq Val Store) (round : Round SeqMeanwhile ValMeanwhile) : Prop :=
  self.phase = .syncing ∧ self.shutdownRx + round.shutdownSent = 0 ∧
    (self.shutdownRequested || round.ctrlC) = false ∧
    ∃ stage ∈ self.syncStage, stage.completes (self.clock + round.beforeTick) = true

instance (self : Node Producer Seq Val Store) (round : Round SeqMeanwhile ValMeanwhile) :
    Decidable (self.syncCompletes round) :=
  inferInstanceAs (Decidable (_ ∧ _ ∧ _ ∧ _))

/-- When the sync stage completes, nothing is recorded that its own checkpoint lacks: no
batch was submitted or derived, and no block executed behind the one it reached. -/
def NothingToLose (self : Node Producer Seq Val Store) (round : Round SeqMeanwhile ValMeanwhile) : Prop :=
  self.syncCompletes round → self.checkpoint.lastBatchSubmitted = 0 ∧ self.checkpoint.lastBatchDerived = 0 ∧
    ∀ stage ∈ self.syncStage, self.checkpoint.lastBlockExecuted ≤ stage.currentBlock

instance (self : Node Producer Seq Val Store) (round : Round SeqMeanwhile ValMeanwhile) :
    Decidable (self.NothingToLose round) :=
  inferInstanceAs (Decidable (_ → _ ∧ _ ∧ _))

/-- A round: the checkpoint is replaced by that of the synced stage, or it never moves down. -/
theorem step_cases (self : Node Producer Seq Val Store) (round : Round SeqMeanwhile ValMeanwhile)
    (ahead : self.SyncAhead) :
    (self.syncCompletes round ∧ ∃ stage finished announced, self.syncStage = some stage ∧
      (self.arrive round).Replaced (self.step round) stage finished announced) ∨
    (¬ self.syncCompletes round ∧ Acts (fun _ => True) self (self.step round) ∧
      (self.step round).SyncAhead) := by
  have arrived : Act (fun _ => True) self (self.arrive round) := .quiet ⟨rfl, rfl, rfl, rfl⟩
  cases self.step_roundCase round with
  | launch stands same =>
    rw [same]
    refine .inr ⟨(nomatch stands.symm.trans ·.1), .head arrived ((launch_acts _).mono fun _ _ => trivial),
      fun syncing => ?_⟩
    obtain ⟨stage, present, reached⟩ := launch_syncing _ syncing
    exact ⟨stage, present, Nat.le_of_eq reached.symm⟩
  | sync stands none unrequested unasked same =>
    rw [same]
    rcases (self.arrive round).syncIteration_cases round.beforeSave unasked with
      ⟨stage, finished, announced, replaced⟩ | ⟨behind, acts, further⟩
    · exact .inl ⟨⟨stands, none, unrequested, stage, replaced.present, replaced.completes⟩,
        stage, finished, announced, replaced.present, replaced⟩
    · refine .inr ⟨fun completes => ?_, .head arrived (acts.mono fun _ _ => trivial), fun syncing => ?_⟩
      · obtain ⟨stage, present, completed⟩ := completes.2.2.2
        exact Bool.false_ne_true ((behind stage present).symm.trans completed)
      · obtain ⟨stage, finished, present, moved, advanced, synced⟩ := further syncing
        obtain ⟨other, same, before⟩ := ahead stands
        cases present.symm.trans same
        exact ⟨finished, moved, Nat.le_trans synced (Nat.max_le.mpr ⟨Nat.le_trans before advanced,
          Nat.le_refl _⟩)⟩
  | leaveSync stands asked same =>
    rw [same]
    exact .inr ⟨fun completes => asked.stops completes.2.1 completes.2.2.1,
      .head arrived (asked.acts.trans (activate_acts _ trivial)), .of_phase (activate_left _)⟩
  | work stands unasked same =>
    rw [same]
    have left : (self.arrive round).phase ≠ .syncing := (nomatch stands.symm.trans ·)
    exact .inr ⟨(nomatch stands.symm.trans ·.1),
      .head arrived ((activeIteration_acts _ round unasked).mono fun _ _ => trivial),
      .of_phase (activeIteration_phase _ round unasked left)⟩
  | leaveWork stands asked same =>
    rw [same]
    exact .inr ⟨(nomatch stands.symm.trans ·.1),
      .head arrived (asked.acts.trans (shutdown_acts _ (fun _ => trivial) trivial trivial)),
      .of_phase (shutdown_left _)⟩
  | still halted same =>
    rw [same]
    exact .inr ⟨(halted ·.1), .refl, ahead⟩

/-- What is known in every state of a run. -/
structure Known (loaded : Checkpoint) (node : Node Producer Seq Val Store) : Prop where
  tracked : node.Tracked loaded
  ahead : node.SyncAhead

theorem Known.step {loaded : Checkpoint} {self : Node Producer Seq Val Store} (known : self.Known loaded)
    (round : Round SeqMeanwhile ValMeanwhile) : (self.step round).Known loaded := by
  rcases self.step_cases round known.ahead with
    ⟨_, stage, finished, announced, present, replaced⟩ | ⟨_, acts, ahead⟩
  · have before := Runs.invariant_steps (Tracked loaded) Tracked.act replaced.announces
      (⟨known.tracked.first, known.tracked.last⟩ : (self.arrive round).Tracked loaded)
    exact ⟨Runs.invariant_steps (Tracked loaded) Tracked.act replaced.continues before.assign,
      .of_phase replaced.leaves⟩
  · exact ⟨Runs.invariant_steps (Tracked loaded) Tracked.act acts known.tracked, ahead⟩

omit [CheckpointStore Store] in
/-- The checkpoint of the stage is not below that of the node exactly when nothing is lost. -/
theorem below_stage_iff {self : Node Producer Seq Val Store} {stage finished : SyncStage Producer}
    (ahead : self.SyncAhead) (syncing : self.phase = .syncing) (present : self.syncStage = some stage)
    (stands : finished.currentBlock = stage.currentBlock) :
    self.checkpoint.Below finished.checkpoint ↔
      self.checkpoint.lastBatchSubmitted = 0 ∧ self.checkpoint.lastBatchDerived = 0 ∧
        ∀ stage ∈ self.syncStage, self.checkpoint.lastBlockExecuted ≤ stage.currentBlock := by
  obtain ⟨other, same, synced⟩ := ahead syncing
  cases present.symm.trans same
  constructor
  · intro below
    refine ⟨Nat.le_zero.mp below.lastBatchSubmitted, Nat.le_zero.mp below.lastBatchDerived,
      fun other same => ?_⟩
    cases present.symm.trans same
    exact Nat.le_trans below.lastBlockExecuted (Nat.le_of_eq stands)
  · rintro ⟨submitted, derived, executed⟩
    exact ⟨Nat.le_of_eq submitted, Nat.le_of_eq derived,
      Nat.le_trans (executed stage present) (Nat.le_of_eq stands.symm),
      Nat.le_trans synced (Nat.le_of_eq stands.symm)⟩

/-- One round keeps the law exactly when nothing is lost in it. -/
theorem step_neverRewound_iff {loaded : Checkpoint} {self : Node Producer Seq Val Store}
    (known : self.Known loaded) (never : self.NeverRewound loaded)
    (round : Round SeqMeanwhile ValMeanwhile) :
    (self.step round).NeverRewound loaded ↔ self.NothingToLose round := by
  have risen := never.risen known.tracked
  rcases self.step_cases round known.ahead with
    ⟨completes, stage, finished, announced, present, replaced⟩ | ⟨not, acts, _⟩
  · have decided := below_stage_iff known.ahead completes.1 present replaced.stands
    constructor
    · intro after _
      refine decided.mp ?_
      obtain ⟨rest, same⟩ := replaced.continues.assigned
      have ordered := after.assigned
      rw [← same, List.pairwise_append] at ordered
      obtain ⟨earlier, last⟩ := known.tracked.last
      have old : self.checkpoint ∈ announced.assigned := by
        rw [replaced.assigned]
        show self.checkpoint ∈ self.assigned
        rw [last]
        exact List.mem_append_right _ List.mem_cons_self
      exact (List.pairwise_append.mp ordered.1).2.2 _ old _ List.mem_cons_self
    · intro guarded
      have below := decided.mpr (guarded completes)
      have announces : announced.Risen loaded :=
        risen.alike replaced.checkpoint replaced.assigned replaced.handed
      have assigned := announces.assign (replaced.checkpoint ▸ below)
      exact (Runs.invariant_steps (Risen loaded) Risen.act replaced.continues assigned).never
  · exact ⟨fun _ completes => absurd completes not,
      fun _ => (Runs.invariant_steps (Risen loaded) Risen.act acts risen).never⟩

/-- Over a whole run no recorded number decreases, and the roles resume from no less than
what was loaded, exactly when the sync stage never completes while there is something to lose. -/
theorem neverRewound_iff_nothingToLose {node : Node Producer Seq Val Store} (launched : node.Launched)
    (rounds : List (Round SeqMeanwhile ValMeanwhile)) :
    (∀ count, (node.run (rounds.take count)).NeverRewound node.checkpoint) ↔
      Runs.Guarded step NothingToLose node rounds := by
  have tracked : node.Tracked node.checkpoint := by
    refine ⟨?_, [], launched.assigned⟩
    rw [launched.assigned]
    exact List.mem_cons_self
  have known : node.Known node.checkpoint := ⟨tracked, (nomatch launched.phase.symm.trans ·)⟩
  have never : node.NeverRewound node.checkpoint := by
    refine ⟨?_, ?_⟩
    · rw [launched.assigned]
      exact List.pairwise_singleton _ _
    · rw [launched.handed]
      nofun
  have admitted : Runs.Guarded step (fun _ _ => True) node rounds :=
    Runs.guarded_of_forall (fun _ _ _ => trivial) node
  exact Runs.guarded_iff_invariant_known (Known node.checkpoint) (NeverRewound node.checkpoint)
    (fun state round _ known => known.step round)
    (fun state round _ known never => step_neverRewound_iff known never round) rounds
    admitted known never

end Steps

section Examples

open Reference

/-- A fresh node that syncs a few blocks has nothing to lose. -/
theorem freshNode_neverRewound :
    ((idleNode .fresh 30).run [quietRound, quietRound, quietRound, quietRound]).NeverRewound
      (idleNode .fresh 30).checkpoint := by
  have launched : (idleNode .fresh 30).Launched := ⟨rfl, rfl, rfl, rfl⟩
  have guarded : Runs.Guarded step NothingToLose (idleNode .fresh 30)
      [quietRound, quietRound, quietRound, quietRound] := by decide
  exact (neverRewound_iff_nothingToLose launched _).mpr guarded 4

/-- A node that had submitted five batches resumes its roles as if there had been none. -/
theorem syncedNode_rewound : ¬ ∀ count,
    ((idleNode { lastBatchSubmitted := 5 } 0).run ([quietRound, quietRound].take count)).NeverRewound
      (idleNode { lastBatchSubmitted := 5 } 0).checkpoint := by
  intro always
  have given : Checkpoint.fresh ∈
      ((idleNode { lastBatchSubmitted := 5 } 0).run ([quietRound, quietRound].take 2)).handed := by decide
  exact absurd ((always 2).handed _ given).lastBatchSubmitted (by decide)

end Examples

end Montana.Lifecycle.Node
