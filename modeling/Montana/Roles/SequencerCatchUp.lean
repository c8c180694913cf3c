import Montana.Roles.SequencerBacklog
import Montana.Roles.SequencerLimits

/-! Whether falling behind shrinks the first batch that a tick cuts: it does only where
the added blocks switch to catch-up mode, and catch-up mode finds too few of them. -/

namespace Montana.Roles.Sequencer

variable {Block Sink Store Tx : Type}

/-- The length of the first batch cut. -/
def firstLength (cut : List (PreparationWorker Block)) : Option Nat :=
  cut.head?.map (·.blocks.length)

theorem Cuts.first {before after : Sequencer Block Sink Store} {cut : List (PreparationWorker Block)}
    (cuts : Cuts before after cut) : after.spawned.drop before.spawned.length = cut := by
  rw [cuts.spawned, List.drop_left]

section Cutting

variable [BlockResponse Block Tx] [BlockJson Block]

omit [BlockJson Block] in
private theorem firstLength_preparationWorker (blocks : List Block) (number : Nat)
    (rest : List (PreparationWorker Block)) :
    firstLength (preparationWorker blocks number :: rest) = some blocks.length := rfl

/-- How many blocks catch-up mode cuts first. -/
def catchUpCut (self : Sequencer Block Sink Store) : Option Nat :=
  let effectiveMax := self.dynamicMaxBlocks self.estimateBacklog
  if self.pendingBlocks.length < max (effectiveMax / 2) 1 then none
  else some (min self.pendingBlocks.length effectiveMax)

/-- How many blocks phase 4 cuts first, with a free slot and nothing else going on. -/
def workersCut (self : Sequencer Block Sink Store) : Option Nat :=
  if self.pendingBlocks.isEmpty then none
  else if self.estimateBacklog ≥ lightBacklogThreshold then self.catchUpCut
  else if self.shouldSubmit then some (min self.pendingBlocks.length self.batcherConfig.maxBlocksPerBatch)
  else none

omit [BlockResponse Block Tx] [BlockJson Block] in
theorem Unmoved.estimateBacklog {before after : Sequencer Block Sink Store}
    (unmoved : before.Unmoved after) : after.estimateBacklog = before.estimateBacklog := by
  rw [Sequencer.estimateBacklog, unmoved.blockRx, unmoved.pendingBlocks, Sequencer.estimateBacklog]

omit [BlockResponse Block Tx] [BlockJson Block] in
theorem Unmoved.dynamicMaxBlocks {before after : Sequencer Block Sink Store}
    (unmoved : before.Unmoved after) (backlogDepth : Nat) :
    after.dynamicMaxBlocks backlogDepth = before.dynamicMaxBlocks backlogDepth := by
  rw [Sequencer.dynamicMaxBlocks, unmoved.batcherConfig, Sequencer.dynamicMaxBlocks]

omit [BlockResponse Block Tx] [BlockJson Block] in
theorem Unmoved.shouldSubmit {before after : Sequencer Block Sink Store}
    (unmoved : before.Unmoved after) : after.shouldSubmit = before.shouldSubmit := by
  rw [Sequencer.shouldSubmit, unmoved.currentBatchSize, unmoved.batcherConfig, unmoved.sameClock,
    unmoved.lastSubmission, unmoved.pendingBlocks, Sequencer.shouldSubmit]

/-- The first pass of the catch-up loop cuts half a batch at least, or the loop cuts nothing. -/
theorem Quiet.spawnCatchUp_first {self : Sequencer Block Sink Store} (quiet : self.Quiet)
    (pending : self.pendingBlocks ≠ []) (slots : Nat) :
    ∃ cut, Cuts self (spawnCatchUp (slots + 1) self).2 cut ∧ firstLength cut = self.catchUpCut := by
  have unmoved := quiet.unmoved
  have waited := unmoved.toElapsed.cuts
  have filled : self.pendingBlocks.isEmpty = false := by simpa using pending
  have backlog : self.pendingBlocks.length + self.interfere.blockRx.queue.length =
      self.estimateBacklog := by
    rw [unmoved.blockRx]
    exact Nat.add_comm _ _
  simp only [spawnCatchUp, filled, Bool.false_eq_true, if_false, unmoved.dynamicMaxBlocks,
    unmoved.pendingBlocks, backlog, catchUpCut]
  by_cases few : self.pendingBlocks.length < max (self.dynamicMaxBlocks self.estimateBacklog / 2) 1
  · rw [if_pos few, if_pos few]
    exact ⟨[], waited, rfl⟩
  · rw [if_neg few, if_neg few]
    obtain ⟨cut, more⟩ := spawnCatchUp_cuts slots (self.interfere.cutBatch
      (min self.pendingBlocks.length (self.dynamicMaxBlocks self.estimateBacklog)))
    refine ⟨_, (waited.trans (cutBatch_cuts _ _)).trans more, ?_⟩
    rw [List.nil_append, List.singleton_append, firstLength_preparationWorker, List.length_take,
      unmoved.pendingBlocks, min_eq_left (min_le_left _ _)]

private theorem Quiet.spawnWorkers_first {self : Sequencer Block Sink Store} (quiet : self.Quiet)
    (slot : self.inFlightPreparations < maxConcurrentPreparations) :
    ∃ cut, Cuts self self.spawnWorkers.2 cut ∧ firstLength cut = self.workersCut := by
  by_cases pending : self.pendingBlocks = []
  · refine ⟨[], ?_, ?_⟩
    · simp only [spawnWorkers, pending, List.isEmpty_nil, Bool.not_true, Bool.and_false,
        Bool.false_eq_true, if_false]
      exact .none rfl rfl
    · rw [workersCut, pending]
      rfl
  · have unmoved := quiet.unmoved
    have free : 0 < maxConcurrentPreparations - self.inFlightPreparations := Nat.sub_pos_of_lt slot
    obtain ⟨slots, counted⟩ := Nat.exists_eq_add_one_of_ne_zero (Nat.ne_of_gt free)
    have filled : self.pendingBlocks.isEmpty = false := by simpa using pending
    have waiting : self.interfere.pendingBlocks ≠ [] := by
      rw [unmoved.pendingBlocks]
      exact pending
    by_cases behind : lightBacklogThreshold ≤ self.estimateBacklog
    · obtain ⟨cut, cuts, first⟩ := quiet.interfere.spawnCatchUp_first waiting slots
      have same : self.spawnWorkers.2 = (spawnCatchUp (slots + 1) self.interfere).2 := by
        simp [spawnWorkers, counted, filled, behind, unmoved.estimateBacklog]
      refine ⟨cut, ?_, ?_⟩
      · rw [same]
        exact unmoved.toElapsed.cuts.trans cuts
      · simp only [first, workersCut, filled, behind, Bool.false_eq_true, if_false, if_true, catchUpCut,
          unmoved.pendingBlocks, unmoved.estimateBacklog, unmoved.dynamicMaxBlocks]
    · have later := unmoved.trans quiet.interfere.unmoved
      have idle := later.toElapsed.cuts
      simp only [spawnWorkers, workersCut, counted, filled, Bool.not_false, Bool.and_true, behind,
        unmoved.estimateBacklog, later.shouldSubmit, Nat.succ_pos, decide_true, Bool.false_eq_true, if_false,
        if_true, gt_iff_lt]
      by_cases ready : self.shouldSubmit = true
      · rw [if_pos ready, if_pos ready]
        refine ⟨_, idle.trans (cutBatch_cuts _ _), ?_⟩
        rw [List.nil_append, firstLength_preparationWorker, List.length_take, later.pendingBlocks,
          later.batcherConfig, min_eq_left (min_le_left _ _)]
      · rw [if_neg ready, if_neg ready]
        exact ⟨[], idle, rfl⟩

end Cutting

section Ticks

variable [BlockResponse Block Tx] [BlockJson Block] [BatchSink Sink] [CheckpointStore Store]

/-- The length of the first batch that the tick cuts, zero where it cuts none. -/
def firstCut (self : Sequencer Block Sink Store) (rounds : Nat) : Nat :=
  (firstLength ((tick self rounds).2.spawned.drop self.spawned.length)).getD 0

/-- How many blocks phase 4, or the flush behind it, cuts first. -/
def lastPhasesCut (self : Sequencer Block Sink Store) (disconnected : Bool) : Nat :=
  self.workersCut.getD (if disconnected then self.pendingBlocks.length else 0)

omit [BatchSink Sink] [CheckpointStore Store] in
private theorem Quiet.lastCut_first {self : Sequencer Block Sink Store} (quiet : self.Quiet)
    (slot : self.inFlightPreparations < maxConcurrentPreparations) :
    ∃ cut, Cuts self self.lastCut cut ∧ (firstLength cut).getD 0 = self.lastPhasesCut true := by
  obtain ⟨cut, cuts, first⟩ := quiet.spawnWorkers_first slot
  unfold lastCut cutRemaining lastPhasesCut
  rw [← first]
  cases cut with
  | nil =>
    have same : self.spawnWorkers.2.pendingBlocks = self.pendingBlocks := cuts.taken.symm
    rw [same]
    split
    · rename_i none
      refine ⟨[], cuts, ?_⟩
      rw [List.isEmpty_iff.mp none]
      rfl
    · refine ⟨_, cuts.trans (cutBatch_cuts _ _), ?_⟩
      rw [List.nil_append, firstLength_preparationWorker, same, List.take_length]
      rfl
  | cons worker rest =>
    split
    · exact ⟨_, cuts, rfl⟩
    · exact ⟨_, cuts.trans (cutBatch_cuts _ _), rfl⟩

private theorem firstCut_accumulated {self filled : Sequencer Block Sink Store} {disconnected : Bool}
    (reached : self.accumulated = some (disconnected, filled)) (quiet : filled.Quiet)
    (slot : filled.inFlightPreparations < maxConcurrentPreparations) (rounds : Nat) :
    self.firstCut rounds = filled.lastPhasesCut disconnected := by
  have kept := accumulated_spawned reached
  unfold firstCut
  rw [← kept]
  cases disconnected with
  | false =>
    obtain ⟨cut, cuts, first⟩ := quiet.spawnWorkers_first slot
    rw [(tick_open reached rounds).1, cuts.first, first]
    rfl
  | true =>
    obtain ⟨cut, cuts, first⟩ := quiet.lastCut_first slot
    have flushed := cuts.trans (flush_cuts rounds filled.lastCut)
    rw [tick_closed reached rounds, flushed.first, List.append_nil, first]

private theorem firstCut_failed {self : Sequencer Block Sink Store} (refused : self.accumulated = none)
    (rounds : Nat) : self.firstCut rounds = 0 := by
  obtain ⟨error, after, failed, ended⟩ := tick_failed refused rounds
  have cuts := ((delivers_cut self).submitReadyBatches (Cuts.none rfl rfl)).2 error after failed
  rw [firstCut, ended, cuts.first]
  rfl

end Ticks

section Comparing

variable [BlockJson Block]

omit [BlockJson Block] in
private theorem dynamicMaxBlocks_cases (self : Sequencer Block Sink Store) (backlogDepth : Nat) :
    backlogDepth < lightBacklogThreshold ∧
        self.dynamicMaxBlocks backlogDepth = self.batcherConfig.maxBlocksPerBatch ∨
      lightBacklogThreshold ≤ backlogDepth ∧ backlogDepth < moderateBacklogThreshold ∧
        self.dynamicMaxBlocks backlogDepth = maxBlocksLightBacklog ∨
      moderateBacklogThreshold ≤ backlogDepth ∧ backlogDepth < heavyBacklogThreshold ∧
        self.dynamicMaxBlocks backlogDepth = maxBlocksModerateBacklog ∨
      heavyBacklogThreshold ≤ backlogDepth ∧
        self.dynamicMaxBlocks backlogDepth = maxBlocksHeavyBacklog := by
  unfold dynamicMaxBlocks
  by_cases heavy : heavyBacklogThreshold ≤ backlogDepth
  · exact .inr (.inr (.inr ⟨heavy, if_pos heavy⟩))
  rw [if_neg heavy]
  by_cases moderate : moderateBacklogThreshold ≤ backlogDepth
  · exact .inr (.inr (.inl ⟨moderate, Nat.not_le.mp heavy, if_pos moderate⟩))
  rw [if_neg moderate]
  by_cases light : lightBacklogThreshold ≤ backlogDepth
  · exact .inr (.inl ⟨light, Nat.not_le.mp moderate, if_pos light⟩)
  · exact .inl ⟨Nat.not_le.mp light, if_neg light⟩

omit [BlockJson Block] in
private theorem dynamicMaxBlocks_normal (self : Sequencer Block Sink Store) {backlogDepth : Nat}
    (normal : backlogDepth < lightBacklogThreshold) :
    self.dynamicMaxBlocks backlogDepth = self.batcherConfig.maxBlocksPerBatch := by
  have limits := self.dynamicMaxBlocks_cases backlogDepth
  simp only [lightBacklogThreshold, moderateBacklogThreshold, heavyBacklogThreshold] at limits normal
  omega

omit [BlockJson Block] in
/-- While no criterion is met, a batch is not full. -/
theorem shouldSubmit_pending (self : Sequencer Block Sink Store) (early : ¬ self.shouldSubmit = true) :
    self.pendingBlocks.length < self.batcherConfig.maxBlocksPerBatch := by
  simp only [shouldSubmit, Bool.or_eq_true, decide_eq_true_eq, not_or] at early
  exact Nat.not_le.mp early.2

theorem Filled.estimateBacklog {before after : Sequencer Block Sink Store} {taken : List Block}
    (filled : Filled before after taken) : after.estimateBacklog = before.estimateBacklog := by
  rw [Sequencer.estimateBacklog, Sequencer.estimateBacklog, filled.pendingBlocks, filled.queue,
    List.length_append, List.length_append]
  omega

omit [BlockJson Block] in
private theorem pending_le_estimateBacklog (self : Sequencer Block Sink Store) :
    self.pendingBlocks.length ≤ self.estimateBacklog :=
  Nat.le_add_left _ _

omit [BlockJson Block] in
/-- With fewer blocks than the maximum, phase 3 has drained the channel. -/
theorem Stopped.short {after : Sequencer Block Sink Store} {taken : List Block} {dynamicMax : Nat}
    {disconnected : Bool} (stopped : Stopped dynamicMax after taken disconnected)
    (short : after.pendingBlocks.length < dynamicMax) :
    disconnected = after.blockRx.closed ∧ after.pendingBlocks.length = after.estimateBacklog := by
  cases stopped with
  | full some enough last => omega
  | drained none few => exact ⟨rfl, by rw [estimateBacklog, none, List.length_nil, Nat.zero_add]⟩

omit [BlockJson Block] in
private theorem Stopped.min_pending {after : Sequencer Block Sink Store} {taken : List Block}
    {dynamicMax : Nat}
    {disconnected : Bool} (stopped : Stopped dynamicMax after taken disconnected) :
    min after.pendingBlocks.length dynamicMax = min after.estimateBacklog dynamicMax := by
  have within := pending_le_estimateBacklog after
  by_cases short : after.pendingBlocks.length < dynamicMax
  · rw [(stopped.short short).2]
  · omega

/-- With more blocks behind, phase 3 takes no fewer of them up to the same maximum. -/
theorem Stopped.taken_le {self first second : Sequencer Block Sink Store} {dynamicMax : Nat}
    {behind taken₁ taken₂ : List Block} {disconnected₁ disconnected₂ : Bool}
    (stopped₁ : Stopped dynamicMax first taken₁ disconnected₁)
    (stopped₂ : Stopped dynamicMax second taken₂ disconnected₂)
    (filled₁ : Filled self first taken₁) (filled₂ : Filled (self.fallBehind behind) second taken₂) :
    taken₁.length ≤ taken₂.length := by
  have pending₁ := congrArg List.length filled₁.pendingBlocks
  have pending₂ := congrArg List.length filled₂.pendingBlocks
  have queue₁ := congrArg List.length filled₁.queue
  have queue₂ := congrArg List.length filled₂.queue
  simp only [fallBehind_queue, fallBehind_pendingBlocks, List.length_append] at pending₁ pending₂ queue₁ queue₂
  cases stopped₂ with
  | drained none₂ few₂ =>
    rw [none₂, List.length_nil] at queue₂
    omega
  | full some₂ enough₂ last₂ =>
    have least := List.length_pos_iff.mpr some₂
    cases stopped₁ with
    | full some₁ enough₁ last₁ => omega
    | drained none₁ few₁ =>
      rcases few₁ with rfl | few₁
      · exact Nat.zero_le _
      · omega

/-- With the same mode, the criteria met by fewer blocks are met by more of them. -/
theorem Filled.shouldSubmit_mono {self first second : Sequencer Block Sink Store}
    {behind taken₁ taken₂ : List Block} (filled₁ : Filled self first taken₁)
    (filled₂ : Filled (self.fallBehind behind) second taken₂) (more : taken₁.length ≤ taken₂.length)
    (ready : first.shouldSubmit = true) : second.shouldSubmit = true := by
  have inFront : taken₁ <+: taken₂ := by
    have first₁ : taken₁ <+: self.blockRx.queue ++ behind := by
      rw [filled₁.queue, List.append_assoc]
      exact List.prefix_append _ _
    have first₂ : taken₂ <+: self.blockRx.queue ++ behind := ⟨second.blockRx.queue, filled₂.queue.symm⟩
    exact List.prefix_of_prefix_length_le first₁ first₂ more
  obtain ⟨rest, same⟩ := inFront
  have size : first.currentBatchSize ≤ second.currentBatchSize := by
    rw [filled₁.currentBatchSize, filled₂.currentBatchSize, ← same, List.map_append, List.sum_append,
      fallBehind_currentBatchSize]
    omega
  have count : first.pendingBlocks.length ≤ second.pendingBlocks.length := by
    rw [filled₁.pendingBlocks, filled₂.pendingBlocks, List.length_append, List.length_append,
      fallBehind_pendingBlocks]
    omega
  simp only [Sequencer.shouldSubmit, Bool.or_eq_true, decide_eq_true_eq, filled₁.batcherConfig,
    filled₁.lastSubmission, filled₁.clock, filled₂.batcherConfig, filled₂.lastSubmission,
    filled₂.clock, fallBehind_batcherConfig, fallBehind_lastSubmission, fallBehind_clock] at ready ⊢
  omega

end Comparing

section FirstCut

private theorem lastPhasesCut_catchUp {self : Sequencer Block Sink Store}
    (behind : lightBacklogThreshold ≤ self.estimateBacklog) (disconnected : Bool) :
    self.lastPhasesCut disconnected =
      if self.pendingBlocks.length < max (self.dynamicMaxBlocks self.estimateBacklog / 2) 1 then
        if disconnected then self.pendingBlocks.length else 0
      else min self.pendingBlocks.length (self.dynamicMaxBlocks self.estimateBacklog) := by
  unfold lastPhasesCut workersCut catchUpCut
  by_cases none : self.pendingBlocks = []
  · simp [none]
  · have some : self.pendingBlocks.isEmpty = false := by simpa using none
    rw [some, if_neg Bool.false_ne_true, if_pos behind]
    simp only []
    split <;> rfl

private theorem lastPhasesCut_normal {self : Sequencer Block Sink Store}
    (normal : self.estimateBacklog < lightBacklogThreshold) (disconnected : Bool) :
    self.lastPhasesCut disconnected =
      if self.shouldSubmit then min self.pendingBlocks.length self.batcherConfig.maxBlocksPerBatch
      else if disconnected then self.pendingBlocks.length else 0 := by
  unfold lastPhasesCut workersCut
  by_cases none : self.pendingBlocks = []
  · simp [none]
  · have some : self.pendingBlocks.isEmpty = false := by simpa using none
    rw [some, if_neg Bool.false_ne_true, if_neg (Nat.not_le.mpr normal)]
    split <;> rfl

variable [BlockJson Block] {before after : Sequencer Block Sink Store} {taken : List Block}
  {disconnected : Bool}

/-- In catch-up mode the first batch depends on the backlog alone, and on whether the
channel is closed. -/
theorem Filled.cut_catchUp (filled : Filled before after taken)
    (stopped : Stopped (before.dynamicMaxBlocks before.estimateBacklog) after taken disconnected)
    (behind : lightBacklogThreshold ≤ before.estimateBacklog) :
    after.lastPhasesCut disconnected =
      if before.estimateBacklog < before.dynamicMaxBlocks before.estimateBacklog / 2 then
        if before.blockRx.closed then before.estimateBacklog else 0
      else min before.estimateBacklog (before.dynamicMaxBlocks before.estimateBacklog) := by
  have same : after.dynamicMaxBlocks before.estimateBacklog =
      before.dynamicMaxBlocks before.estimateBacklog := by
    rw [dynamicMaxBlocks, filled.batcherConfig, dynamicMaxBlocks]
  have backlog := filled.estimateBacklog
  have within := pending_le_estimateBacklog after
  have least := stopped.min_pending
  have limits := before.dynamicMaxBlocks_cases before.estimateBacklog
  rw [backlog] at within least
  rw [lastPhasesCut_catchUp (by rw [backlog]; exact behind), backlog, same, least]
  have positive : 2 ≤ before.dynamicMaxBlocks before.estimateBacklog := by
    simp only [lightBacklogThreshold, moderateBacklogThreshold, heavyBacklogThreshold,
      maxBlocksLightBacklog, maxBlocksModerateBacklog, maxBlocksHeavyBacklog] at limits behind
    omega
  by_cases few : before.estimateBacklog < before.dynamicMaxBlocks before.estimateBacklog / 2
  · obtain ⟨drained, all⟩ := stopped.short (by omega)
    rw [if_pos few, if_pos (by omega), drained, all, backlog, filled.closed]
  · rw [if_neg few, if_neg (by omega)]

/-- In normal mode it also depends on the criteria. -/
theorem Filled.cut_normal (filled : Filled before after taken)
    (stopped : Stopped (before.dynamicMaxBlocks before.estimateBacklog) after taken disconnected)
    (normal : before.estimateBacklog < lightBacklogThreshold) :
    after.lastPhasesCut disconnected =
      if after.shouldSubmit then min before.estimateBacklog before.batcherConfig.maxBlocksPerBatch
      else if before.blockRx.closed then before.estimateBacklog else 0 := by
  have limit := before.dynamicMaxBlocks_normal normal
  have backlog := filled.estimateBacklog
  have least := stopped.min_pending
  rw [backlog, limit] at least
  rw [lastPhasesCut_normal (by rw [backlog]; exact normal), filled.batcherConfig, least]
  by_cases ready : after.shouldSubmit = true
  · rw [if_pos ready, if_pos ready]
  · have few := after.shouldSubmit_pending ready
    rw [filled.batcherConfig, ← limit] at few
    obtain ⟨drained, all⟩ := stopped.short few
    rw [if_neg ready, if_neg ready, drained, all, backlog, filled.closed]

end FirstCut

/-- Normal mode cuts a batch here, and with so many more blocks in the open channel there
is a backlog, but less than half a batch of it. -/
structure Stalls (sequencer : Sequencer Block Sink Store) (added : Nat) : Prop where
  opened : sequencer.blockRx.closed = false
  pending : sequencer.pendingBlocks ≠ []
  ready : sequencer.shouldSubmit = true
  normal : sequencer.estimateBacklog < lightBacklogThreshold
  catchUp : lightBacklogThreshold ≤ sequencer.estimateBacklog + added
  few : sequencer.estimateBacklog + added < maxBlocksLightBacklog / 2

section Pairs

variable [BlockJson Block] {self first second : Sequencer Block Sink Store}
  {behind taken₁ taken₂ : List Block} {disconnected₁ disconnected₂ : Bool}
  (filled₁ : Filled self first taken₁)
  (stopped₁ : Stopped (self.dynamicMaxBlocks self.estimateBacklog) first taken₁ disconnected₁)
  (filled₂ : Filled (self.fallBehind behind) second taken₂)
  (stopped₂ : Stopped ((self.fallBehind behind).dynamicMaxBlocks (self.fallBehind behind).estimateBacklog)
    second taken₂ disconnected₂)

include filled₁ stopped₁ filled₂ stopped₂

/-- With both in catch-up mode the larger backlog allows the larger batch. -/
theorem Filled.cut_le_catchUp (catchUp : lightBacklogThreshold ≤ self.estimateBacklog) :
    first.lastPhasesCut disconnected₁ ≤ second.lastPhasesCut disconnected₂ := by
  have more := self.fallBehind_estimateBacklog behind
  have limits₁ := self.dynamicMaxBlocks_cases self.estimateBacklog
  have limits₂ := self.dynamicMaxBlocks_cases (self.fallBehind behind).estimateBacklog
  rw [filled₁.cut_catchUp stopped₁ catchUp, filled₂.cut_catchUp stopped₂ (by omega), fallBehind_closed,
    fallBehind_dynamicMaxBlocks]
  generalize self.dynamicMaxBlocks self.estimateBacklog = limit₁ at limits₁ ⊢
  generalize self.dynamicMaxBlocks (self.fallBehind behind).estimateBacklog = limit₂ at limits₂ ⊢
  simp only [lightBacklogThreshold, moderateBacklogThreshold, heavyBacklogThreshold,
    maxBlocksLightBacklog, maxBlocksModerateBacklog, maxBlocksHeavyBacklog] at limits₁ limits₂ catchUp
  cases self.blockRx.closed <;> simp only [Bool.false_eq_true, if_false, if_true] <;> split_ifs <;> omega

/-- With both in normal mode the criteria are met by the more blocks if by the fewer. -/
theorem Filled.cut_le_normal
    (normal : (self.fallBehind behind).estimateBacklog < lightBacklogThreshold) :
    first.lastPhasesCut disconnected₁ ≤ second.lastPhasesCut disconnected₂ := by
  have more := self.fallBehind_estimateBacklog behind
  have normal₁ : self.estimateBacklog < lightBacklogThreshold := by omega
  have limit₁ := self.dynamicMaxBlocks_normal normal₁
  have limit₂ := (self.fallBehind behind).dynamicMaxBlocks_normal normal
  rw [filled₁.cut_normal stopped₁ normal₁, filled₂.cut_normal stopped₂ normal, fallBehind_closed,
    fallBehind_batcherConfig]
  by_cases ready : first.shouldSubmit = true
  · have same : Stopped self.batcherConfig.maxBlocksPerBatch first taken₁ disconnected₁ := by
      rw [← limit₁]
      exact stopped₁
    have other : Stopped self.batcherConfig.maxBlocksPerBatch second taken₂ disconnected₂ := by
      rw [← fallBehind_batcherConfig self behind, ← limit₂]
      exact stopped₂
    have too := filled₁.shouldSubmit_mono filled₂ (same.taken_le other filled₁ filled₂) ready
    rw [if_pos ready, if_pos too]
    omega
  · have few : min self.estimateBacklog self.batcherConfig.maxBlocksPerBatch = self.estimateBacklog := by
      have early := first.shouldSubmit_pending ready
      have least := stopped₁.min_pending
      rw [filled₁.estimateBacklog, limit₁] at least
      rw [filled₁.batcherConfig] at early
      omega
    rw [if_neg ready]
    cases self.blockRx.closed with
    | false => exact Nat.zero_le _
    | true =>
      simp only [if_true]
      split
      · omega
      · omega

/-- Where the added blocks switch the mode, catch-up mode must find half a batch. -/
theorem Filled.cut_le_switched (positive : 0 < self.batcherConfig.maxBlocksPerBatch)
    (normal : self.estimateBacklog < lightBacklogThreshold)
    (catchUp : lightBacklogThreshold ≤ (self.fallBehind behind).estimateBacklog) :
    first.lastPhasesCut disconnected₁ ≤ second.lastPhasesCut disconnected₂ ↔
      ¬ first.Stalls behind.length := by
  have more := self.fallBehind_estimateBacklog behind
  have backlog := filled₁.estimateBacklog
  have limits₂ := self.dynamicMaxBlocks_cases (self.fallBehind behind).estimateBacklog
  have stalls_iff : first.Stalls behind.length ↔ self.blockRx.closed = false ∧
      first.pendingBlocks ≠ [] ∧ first.shouldSubmit = true ∧
      (self.fallBehind behind).estimateBacklog < maxBlocksLightBacklog / 2 := by
    rw [more, ← backlog, ← filled₁.closed]
    constructor
    · rintro ⟨opened, pending, ready, -, -, few⟩
      exact ⟨opened, pending, ready, few⟩
    · rintro ⟨opened, pending, ready, few⟩
      exact ⟨opened, pending, ready, by omega, by omega, few⟩
  have caughtUp := filled₂.cut_catchUp stopped₂ catchUp
  rw [fallBehind_closed, fallBehind_dynamicMaxBlocks] at caughtUp
  rw [stalls_iff, filled₁.cut_normal stopped₁ normal, caughtUp]
  generalize self.dynamicMaxBlocks (self.fallBehind behind).estimateBacklog = limit₂ at limits₂ ⊢
  simp only [lightBacklogThreshold, moderateBacklogThreshold, heavyBacklogThreshold,
    maxBlocksLightBacklog, maxBlocksModerateBacklog, maxBlocksHeavyBacklog] at limits₂ normal catchUp ⊢
  cases self.blockRx.closed with
  | true =>
    refine iff_of_true ?_ (by rintro ⟨opened, -⟩; cases opened)
    simp only [if_true]
    split_ifs <;> omega
  | false =>
    by_cases ready : first.shouldSubmit = true
    · have least := stopped₁.min_pending
      rw [self.dynamicMaxBlocks_normal normal, backlog] at least
      have some : first.pendingBlocks ≠ [] ↔ 0 < min self.estimateBacklog self.batcherConfig.maxBlocksPerBatch := by
        rw [← least, ← List.length_pos_iff]
        omega
      simp only [some, ready, true_and, if_true, Bool.false_eq_true, if_false]
      split_ifs <;> omega
    · simp [ready]

private theorem Filled.cut_le_iff (positive : 0 < self.batcherConfig.maxBlocksPerBatch) :
    first.lastPhasesCut disconnected₁ ≤ second.lastPhasesCut disconnected₂ ↔
      ¬ first.Stalls behind.length := by
  have more := self.fallBehind_estimateBacklog behind
  have backlog := filled₁.estimateBacklog
  by_cases normal : self.estimateBacklog < lightBacklogThreshold
  · by_cases catchUp : lightBacklogThreshold ≤ (self.fallBehind behind).estimateBacklog
    · exact filled₁.cut_le_switched stopped₁ filled₂ stopped₂ positive normal catchUp
    · refine iff_of_true (filled₁.cut_le_normal stopped₁ filled₂ stopped₂ (Nat.not_le.mp catchUp)) ?_
      intro stalls
      have switched := stalls.catchUp
      omega
  · refine iff_of_true (filled₁.cut_le_catchUp stopped₁ filled₂ stopped₂ (Nat.not_lt.mp normal)) ?_
    intro stalls
    exact normal (backlog ▸ stalls.normal)

omit filled₁ stopped₁ in
/-- Where it stalls, catch-up mode finds less than half a batch and cuts nothing. -/
theorem Filled.cut_stalled (filled₁ : Filled self first taken₁) (stalls : first.Stalls behind.length) :
    second.lastPhasesCut disconnected₂ = 0 := by
  obtain ⟨opened, -, -, -, catchUp, few⟩ := stalls
  rw [filled₁.estimateBacklog, ← self.fallBehind_estimateBacklog behind] at catchUp few
  have limits := self.dynamicMaxBlocks_cases (self.fallBehind behind).estimateBacklog
  have still : (self.fallBehind behind).blockRx.closed = false := by
    rw [fallBehind_closed, ← filled₁.closed]
    exact opened
  rw [filled₂.cut_catchUp stopped₂ catchUp, fallBehind_dynamicMaxBlocks, still]
  generalize self.dynamicMaxBlocks (self.fallBehind behind).estimateBacklog = limit at limits ⊢
  simp only [lightBacklogThreshold, moderateBacklogThreshold, heavyBacklogThreshold,
    maxBlocksLightBacklog, maxBlocksModerateBacklog, maxBlocksHeavyBacklog] at limits catchUp few
  have short : (self.fallBehind behind).estimateBacklog < limit / 2 := by omega
  rw [if_pos short]
  rfl

end Pairs

section Ticking

variable [BlockResponse Block Tx] [BlockJson Block] [BatchSink Sink] [CheckpointStore Store]

omit [BlockResponse Block Tx] in
/-- Collecting and submitting frees slots and takes none. -/
theorem delivers_slots (slots : Nat) :
    Delivers (fun self : Sequencer Block Sink Store => self.inFlightPreparations ≤ slots) fun _ => True where
  interfered self few := by
    rw [(interfere_elapsed self).inFlightPreparations]
    exact few
  collected self result rest _ few := by
    cases result <;> exact Nat.le_trans (Nat.sub_le _ _) few
  submitted self prepared after _ _ few ended := by
    have handed := submitPreparedBatch_handed { self with readyBatches := self.readyBatches.pop } prepared
    rw [ended] at handed
    rw [handed.inFlightPreparations]
    exact few
  failed _ _ _ _ _ _ _ _ := trivial

private theorem accumulated_slots {self filled : Sequencer Block Sink Store} {disconnected : Bool}
    (reached : self.accumulated = some (disconnected, filled)) :
    filled.inFlightPreparations ≤ self.inFlightPreparations := by
  obtain ⟨submitted, delivered, count, passed, counted⟩ := accumulated_cases reached
  have few := ((delivers_slots self.inFlightPreparations).submitReadyBatches (Nat.le_refl _)).1
    submitted delivered passed
  have kept : delivered.accumulateBlocks.2.2.inFlightPreparations = delivered.inFlightPreparations :=
    accumulateBlocks_invariant (·.inFlightPreparations = delivered.inFlightPreparations)
      (fun reached same => (interfere_elapsed reached).inFlightPreparations.trans same)
      (fun _ _ _ _ same => same) rfl
  rw [counted] at kept
  rw [kept]
  exact few

/-- Phases 1 to 3 of the two ticks, side by side. -/
theorem Quiet.accumulated_fallBehind {self : Sequencer Block Sink Store} (quiet : self.Quiet)
    (behind : List Block) :
    self.accumulated = none ∧ (self.fallBehind behind).accumulated = none ∨
      ∃ delivered first second : Sequencer Block Sink Store, ∃ taken₁ taken₂ disconnected₁ disconnected₂,
        self.accumulated = some (disconnected₁, first) ∧
        (self.fallBehind behind).accumulated = some (disconnected₂, second) ∧
        Filled delivered first taken₁ ∧
        Stopped (delivered.dynamicMaxBlocks delivered.estimateBacklog) first taken₁ disconnected₁ ∧
        Filled (delivered.fallBehind behind) second taken₂ ∧
        Stopped ((delivered.fallBehind behind).dynamicMaxBlocks
          (delivered.fallBehind behind).estimateBacklog) second taken₂ disconnected₂ ∧
        first.Quiet ∧ second.Quiet := by
  obtain ⟨same, calm⟩ := quiet.submitReadyBatches_fallBehind behind
  unfold accumulated
  rw [same]
  cases passed : self.collectPreparedBatches.submitReadyBatches with
  | mk result delivered =>
    rw [passed] at calm
    cases result with
    | error e => exact .inl ⟨rfl, rfl⟩
    | ok submitted =>
      right
      have calmToo : (delivered.fallBehind behind).Quiet := calm
      obtain ⟨taken₁, filled₁, stopped₁, quiet₁⟩ := Quiet.accumulateBlocks_filled calm
      obtain ⟨taken₂, filled₂, stopped₂, quiet₂⟩ := calmToo.accumulateBlocks_filled
      exact ⟨delivered, _, _, taken₁, taken₂, _, _, rfl, rfl, filled₁, stopped₁, filled₂, stopped₂,
        quiet₁, quiet₂⟩

/-- The first batch cut with more blocks behind is as large as without them, exactly if
normal mode does not stall on them; where it does, nothing is cut. -/
theorem firstCut_fallBehind_iff {self : Sequencer Block Sink Store} (quiet : self.Quiet)
    (positive : 0 < self.batcherConfig.maxBlocksPerBatch)
    (slot : self.inFlightPreparations < maxConcurrentPreparations) (behind : List Block)
    (rounds₁ rounds₂ : Nat) :
    (self.firstCut rounds₁ ≤ (self.fallBehind behind).firstCut rounds₂ ↔
      ¬ ∃ disconnected filled, self.accumulated = some (disconnected, filled) ∧
        filled.Stalls behind.length) ∧
    ∀ disconnected filled, self.accumulated = some (disconnected, filled) →
      filled.Stalls behind.length → (self.fallBehind behind).firstCut rounds₂ = 0 := by
  rcases quiet.accumulated_fallBehind behind with ⟨refused₁, refused₂⟩ |
    ⟨delivered, first, second, taken₁, taken₂, disconnected₁, disconnected₂, reached₁, reached₂, filled₁,
      stopped₁, filled₂, stopped₂, quiet₁, quiet₂⟩
  · rw [firstCut_failed refused₁, firstCut_failed refused₂]
    simp [refused₁]
  · have config : 0 < delivered.batcherConfig.maxBlocksPerBatch := by
      rw [← filled₁.batcherConfig, (steps_fixed (accumulated_steps reached₁)).1]
      exact positive
    have free₁ : first.inFlightPreparations < maxConcurrentPreparations := by
      exact Nat.lt_of_le_of_lt (accumulated_slots reached₁) slot
    have free₂ : second.inFlightPreparations < maxConcurrentPreparations := by
      rw [filled₂.inFlightPreparations, fallBehind_inFlightPreparations, ← filled₁.inFlightPreparations]
      exact free₁
    rw [firstCut_accumulated reached₁ quiet₁ free₁, firstCut_accumulated reached₂ quiet₂ free₂,
      filled₁.cut_le_iff stopped₁ filled₂ stopped₂ config, reached₁]
    constructor
    · refine not_congr ⟨fun stalls => ⟨_, _, rfl, stalls⟩, ?_⟩
      rintro ⟨_, _, same, stalls⟩
      cases same
      exact stalls
    · intro disconnected filled same stalls
      cases same
      exact filled₂.cut_stalled stopped₂ filled₁ stalls

end Ticking

section Examples

open Reference

/-- Nine blocks wait for longer than the batch interval. -/
def nineWaiting : Sequencer UInt8 InMemoryBatchQueue Files :=
  (waiting 9).run [.environment (.clockAdvanced 12000)]

/-- Nine blocks are cut at once; with a tenth behind them nothing is. -/
theorem tenth_block_stalls :
    nineWaiting.Quiet ∧ nineWaiting.inFlightPreparations < maxConcurrentPreparations ∧
      nineWaiting.readyBatches.isEmpty = true ∧ 0 < nineWaiting.batcherConfig.maxBlocksPerBatch ∧
      ¬ nineWaiting.firstCut 0 ≤ (nineWaiting.fallBehind [0]).firstCut 0 := by
  decide

theorem firstCut_fallBehind_three :
    nineWaiting.firstCut 0 ≤ (nineWaiting.fallBehind [0, 0, 0]).firstCut 0 ∧
      (nineWaiting.fallBehind [0]).firstCut 0 = 0 := by
  constructor
  · refine (firstCut_fallBehind_iff (by decide) (by decide) (by decide) [0, 0, 0] 0 0).1.mpr ?_
    rintro ⟨disconnected, filled, reached, stalls⟩
    cases reached
    exact absurd stalls.few (by decide)
  · exact (firstCut_fallBehind_iff (by decide) (by decide) (by decide) [0] 0 0).2 _ _ rfl
      ⟨by decide, by decide, by decide, by decide, by decide, by decide⟩

end Examples

end Montana.Roles.Sequencer
