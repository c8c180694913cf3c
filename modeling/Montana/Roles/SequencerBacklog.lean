import Montana.Roles.SequencerCriteria
import Montana.Roles.SequencerSettled

/-! Two ticks from states that differ in the channel only: one finds more blocks there
than the other. -/

namespace Montana.Roles

/-- Neither the channel nor the clock moves: a worker ends, or the time of day is set. -/
def Interference.quiet : Interference Block → Bool
  | .workerDone _ _ | .wallClockSet _ => true
  | .blockSent _ | .senderDropped | .clockAdvanced _ => false

namespace Sequencer

variable {Block Sink Store Tx : Type}

/-- The same sequencer with more blocks in its channel, behind those that are there. -/
def fallBehind (self : Sequencer Block Sink Store) (behind : List Block) : Sequencer Block Sink Store :=
  { self with
    blockRx := { self.blockRx with queue := self.blockRx.queue ++ behind }
    sent := self.sent ++ behind }

section FallBehind

variable (self : Sequencer Block Sink Store) (behind : List Block)

@[simp] theorem fallBehind_queue :
    (self.fallBehind behind).blockRx.queue = self.blockRx.queue ++ behind := rfl

@[simp] theorem fallBehind_closed : (self.fallBehind behind).blockRx.closed = self.blockRx.closed := rfl

@[simp] theorem fallBehind_pendingBlocks :
    (self.fallBehind behind).pendingBlocks = self.pendingBlocks := rfl

@[simp] theorem fallBehind_currentBatchSize :
    (self.fallBehind behind).currentBatchSize = self.currentBatchSize := rfl

@[simp] theorem fallBehind_batcherConfig :
    (self.fallBehind behind).batcherConfig = self.batcherConfig := rfl

@[simp] theorem fallBehind_lastSubmission :
    (self.fallBehind behind).lastSubmission = self.lastSubmission := rfl

@[simp] theorem fallBehind_clock : (self.fallBehind behind).clock = self.clock := rfl

@[simp] theorem fallBehind_inFlightPreparations :
    (self.fallBehind behind).inFlightPreparations = self.inFlightPreparations := rfl

theorem fallBehind_estimateBacklog :
    (self.fallBehind behind).estimateBacklog = self.estimateBacklog + behind.length := by
  simp only [estimateBacklog, fallBehind_queue, fallBehind_pendingBlocks, List.length_append]
  omega

theorem fallBehind_dynamicMaxBlocks (backlogDepth : Nat) :
    (self.fallBehind behind).dynamicMaxBlocks backlogDepth = self.dynamicMaxBlocks backlogDepth := rfl

end FallBehind

/-- Whatever is scheduled leaves the channel and the clock alone. -/
def Quiet (self : Sequencer Block Sink Store) : Prop :=
  ∀ burst ∈ self.schedule, ∀ event ∈ burst, event.quiet = true

instance (self : Sequencer Block Sink Store) : Decidable self.Quiet :=
  inferInstanceAs (Decidable (∀ burst ∈ self.schedule, ∀ event ∈ burst, event.quiet = true))

/-- As `Elapsed`, while the channel and the clock stand still. -/
structure Unmoved (before after : Sequencer Block Sink Store) : Prop extends Elapsed before after where
  blockRx : after.blockRx = before.blockRx
  sameClock : after.clock = before.clock

theorem Unmoved.refl (self : Sequencer Block Sink Store) : self.Unmoved self := ⟨.refl self, rfl, rfl⟩

theorem Unmoved.trans {before between after : Sequencer Block Sink Store}
    (first : before.Unmoved between) (second : between.Unmoved after) : before.Unmoved after :=
  ⟨first.toElapsed.trans second.toElapsed, second.blockRx.trans first.blockRx,
    second.sameClock.trans first.sameClock⟩

section Quiet

variable [BlockJson Block]

private theorem apply_unmoved (self : Sequencer Block Sink Store) {event : Interference Block}
    (quiet : event.quiet = true) : self.Unmoved (self.apply event) := by
  have same : (self.apply event).blockRx = self.blockRx ∧ (self.apply event).clock = self.clock := by
    cases event with
    | blockSent | senderDropped | clockAdvanced => cases quiet
    | wallClockSet => exact ⟨rfl, rfl⟩
    | workerDone index fault =>
      simp only [apply]
      split <;> exact ⟨rfl, rfl⟩
  exact ⟨apply_elapsed self event, same.1, same.2⟩

theorem Quiet.unmoved {self : Sequencer Block Sink Store} (quiet : self.Quiet) :
    self.Unmoved self.interfere := by
  unfold Sequencer.interfere
  split
  · exact .refl self
  · rename_i burst rest next
    have calm := quiet burst (by rw [next]; exact List.mem_cons_self)
    refine Runs.invariant_run (self.Unmoved ·) burst ?_ ⟨.rescheduled self rest, rfl, rfl⟩
    intro reached event member unmoved
    exact unmoved.trans (apply_unmoved reached (calm event member))

theorem Quiet.interfere {self : Sequencer Block Sink Store} (quiet : self.Quiet) :
    self.interfere.Quiet := by
  intro burst member
  rw [interfere_schedule] at member
  exact quiet burst (List.mem_of_mem_tail member)

private theorem apply_fallBehind (self : Sequencer Block Sink Store) (behind : List Block)
    {event : Interference Block} (quiet : event.quiet = true) :
    (self.fallBehind behind).apply event = (self.apply event).fallBehind behind := by
  cases event with
  | blockSent | senderDropped | clockAdvanced => cases quiet
  | wallClockSet => rfl
  | workerDone index fault =>
    simp only [apply, fallBehind]
    split <;> rfl

private theorem Quiet.interfere_fallBehind {self : Sequencer Block Sink Store} (quiet : self.Quiet)
    (behind : List Block) : (self.fallBehind behind).interfere = self.interfere.fallBehind behind := by
  have applied (events : List (Interference Block)) (calm : ∀ event ∈ events, event.quiet = true)
      (self : Sequencer Block Sink Store) :
      events.foldl apply (self.fallBehind behind) = (events.foldl apply self).fallBehind behind := by
    induction events generalizing self with
    | nil => rfl
    | cons event rest ih =>
      obtain ⟨first, later⟩ := List.forall_mem_cons.mp calm
      rw [List.foldl_cons, List.foldl_cons, apply_fallBehind self behind first, ih later]
  have scheduled : (self.fallBehind behind).schedule = self.schedule := rfl
  unfold Sequencer.interfere
  rw [scheduled]
  cases next : self.schedule with
  | nil => rfl
  | cons burst rest =>
    have calm := quiet burst (by rw [next]; exact List.mem_cons_self)
    exact applied burst calm { self with schedule := rest }

/-- Collecting results does not look at the channel. -/
theorem Quiet.collectLoop_fallBehind (behind : List Block) (fuel : Nat)
    {self : Sequencer Block Sink Store} (quiet : self.Quiet) :
    collectLoop fuel (self.fallBehind behind) = (collectLoop fuel self).fallBehind behind ∧
      (collectLoop fuel self).Quiet := by
  induction fuel generalizing self with
  | zero => exact ⟨rfl, quiet⟩
  | succ fuel ih =>
    have later := quiet.interfere
    have moved := quiet.interfere_fallBehind behind
    have prepared : (self.interfere.fallBehind behind).preparedRx = self.interfere.preparedRx := rfl
    unfold collectLoop
    simp only [moved, prepared]
    cases arrived : self.interfere.preparedRx.tryRecv with
    | empty => exact ⟨rfl, later⟩
    | disconnected => exact ⟨rfl, later⟩
    | ok result rest =>
      have still : (collectResult { self.interfere with preparedRx := rest } result).Quiet := by
        unfold Quiet
        rw [collectResult_schedule]
        exact later
      have same : collectResult { self.interfere.fallBehind behind with preparedRx := rest } result =
          (collectResult { self.interfere with preparedRx := rest } result).fallBehind behind := by
        cases result <;> rfl
      simp only [same]
      exact ih still

section Submitting

variable [BatchSink Sink] [CheckpointStore Store]

omit [BlockJson Block] in
private theorem submitPreparedBatch_fallBehind (self : Sequencer Block Sink Store) (behind : List Block)
    (prepared : PreparedBatch) : (self.fallBehind behind).submitPreparedBatch prepared =
      ((self.submitPreparedBatch prepared).1,
        (self.submitPreparedBatch prepared).2.fallBehind behind) := by
  have skips : (self.fallBehind behind).checkpoint = self.checkpoint := rfl
  unfold submitPreparedBatch
  simp only [skips]
  split
  · rfl
  · simp only [emit, saveCheckpoint, fallBehind]
    cases BatchSink.submit self.batchSink prepared.compressedBatch with
    | mk answer batchSink =>
      cases answer with
      | error e => rfl
      | ok receipt =>
        simp only []
        cases Checkpoint.saveIfEnabled self.store self.checkpointPath
            ((self.checkpoint.recordBatchSubmitted prepared.batchNumber).touch self.wallClock) with
        | mk result store => cases result <;> rfl

private theorem Quiet.submitLoop_fallBehind (behind : List Block) (fuel : Nat)
    {self : Sequencer Block Sink Store} (quiet : self.Quiet) :
    submitLoop fuel (self.fallBehind behind) =
        ((submitLoop fuel self).1, (submitLoop fuel self).2.fallBehind behind) ∧
      (submitLoop fuel self).2.Quiet := by
  induction fuel generalizing self with
  | zero => exact ⟨rfl, quiet⟩
  | succ fuel ih =>
    have moved := quiet.interfere_fallBehind behind
    have ready : (self.fallBehind behind).readyBatches = self.readyBatches := rfl
    have next : (self.fallBehind behind).nextSubmissionNumber = self.nextSubmissionNumber := rfl
    unfold submitLoop
    simp only [ready, next, moved]
    cases self.readyBatches.peek with
    | none => exact ⟨rfl, quiet⟩
    | some prepared =>
      simp only []
      split
      · exact ⟨rfl, quiet⟩
      · let popped := { self.interfere with readyBatches := self.interfere.readyBatches.pop }
        have same : submitPreparedBatch { self.interfere.fallBehind behind with
            readyBatches := (self.interfere.fallBehind behind).readyBatches.pop } prepared =
            ((popped.submitPreparedBatch prepared).1,
              (popped.submitPreparedBatch prepared).2.fallBehind behind) :=
          submitPreparedBatch_fallBehind popped behind prepared
        have still : (popped.submitPreparedBatch prepared).2.Quiet := by
          unfold Quiet
          rw [(submitPreparedBatch_handed popped prepared).schedule]
          exact quiet.interfere
        simp only [same]
        cases ended : popped.submitPreparedBatch prepared with
        | mk result after =>
          rw [ended] at still
          cases result with
          | error e => exact ⟨rfl, still⟩
          | ok =>
            obtain ⟨looped, calm⟩ := ih still
            simp only [looped]
            cases submitted : submitLoop fuel after with
            | mk result last =>
              rw [submitted] at calm
              cases result <;> exact ⟨rfl, calm⟩

/-- Phases 1 and 2 do the same with more blocks behind. -/
theorem Quiet.submitReadyBatches_fallBehind {self : Sequencer Block Sink Store} (quiet : self.Quiet)
    (behind : List Block) :
    (self.fallBehind behind).collectPreparedBatches.submitReadyBatches =
        (self.collectPreparedBatches.submitReadyBatches.1,
          self.collectPreparedBatches.submitReadyBatches.2.fallBehind behind) ∧
      self.collectPreparedBatches.submitReadyBatches.2.Quiet := by
  have collected := quiet.collectLoop_fallBehind behind
    (self.workers.length + self.preparedRx.queue.length + 1)
  have same : (self.fallBehind behind).collectPreparedBatches =
      self.collectPreparedBatches.fallBehind behind := collected.1
  rw [same]
  exact Quiet.submitLoop_fallBehind behind _ collected.2

end Submitting

section Accumulating

variable [BlockResponse Block Tx]

/-- These blocks were taken from the channel, and nothing else happened that a cut looks at. -/
structure Filled (before after : Sequencer Block Sink Store) (taken : List Block) : Prop where
  pendingBlocks : after.pendingBlocks = before.pendingBlocks ++ taken
  queue : before.blockRx.queue = taken ++ after.blockRx.queue
  closed : after.blockRx.closed = before.blockRx.closed
  currentBatchSize : after.currentBatchSize = before.currentBatchSize + (taken.map blockSize).sum
  batcherConfig : after.batcherConfig = before.batcherConfig
  lastSubmission : after.lastSubmission = before.lastSubmission
  clock : after.clock = before.clock
  inFlightPreparations : after.inFlightPreparations = before.inFlightPreparations

/-- How phase 3 ends: with enough blocks, or with an empty channel. -/
inductive Stopped (dynamicMax : Nat) (after : Sequencer Block Sink Store) (taken : List Block) :
    Bool → Prop where
  | full (some : taken ≠ []) (enough : dynamicMax ≤ after.pendingBlocks.length)
      (last : after.pendingBlocks.length = dynamicMax ∨ taken.length = 1) : Stopped dynamicMax after taken false
  | drained (none : after.blockRx.queue = [])
      (few : taken = [] ∨ after.pendingBlocks.length < dynamicMax) :
      Stopped dynamicMax after taken after.blockRx.closed

omit [BlockResponse Block Tx] in
theorem Unmoved.filled {before after : Sequencer Block Sink Store} (unmoved : before.Unmoved after) :
    Filled before after [] where
  pendingBlocks := by rw [unmoved.pendingBlocks, List.append_nil]
  queue := by rw [unmoved.blockRx, List.nil_append]
  closed := by rw [unmoved.blockRx]
  currentBatchSize := unmoved.currentBatchSize
  batcherConfig := unmoved.batcherConfig
  lastSubmission := unmoved.lastSubmission
  clock := unmoved.sameClock
  inFlightPreparations := unmoved.inFlightPreparations

omit [BlockResponse Block Tx] in
theorem Filled.trans {before between after : Sequencer Block Sink Store} {first second : List Block}
    (earlier : Filled before between first) (later : Filled between after second) :
    Filled before after (first ++ second) where
  pendingBlocks := by rw [later.pendingBlocks, earlier.pendingBlocks, List.append_assoc]
  queue := by rw [earlier.queue, later.queue, List.append_assoc]
  closed := later.closed.trans earlier.closed
  currentBatchSize := by
    rw [later.currentBatchSize, earlier.currentBatchSize, List.map_append, List.sum_append, Nat.add_assoc]
  batcherConfig := later.batcherConfig.trans earlier.batcherConfig
  lastSubmission := later.lastSubmission.trans earlier.lastSubmission
  clock := later.clock.trans earlier.clock
  inFlightPreparations := later.inFlightPreparations.trans earlier.inFlightPreparations

omit [BlockResponse Block Tx] in
/-- A block with which the loop goes on leaves it to the rest how the loop ends. -/
theorem Stopped.cons {dynamicMax : Nat} {between after : Sequencer Block Sink Store} {block : Block}
    {taken : List Block} {disconnected : Bool} (stopped : Stopped dynamicMax after taken disconnected)
    (filled : Filled between after taken) (short : between.pendingBlocks.length < dynamicMax) :
    Stopped dynamicMax after (block :: taken) disconnected := by
  have counted : after.pendingBlocks.length = between.pendingBlocks.length + taken.length := by
    rw [filled.pendingBlocks, List.length_append]
  cases stopped with
  | full some enough last => exact .full (List.cons_ne_nil _ _) enough (.inl (by omega))
  | drained none few =>
    refine .drained none (.inr ?_)
    rcases few with rfl | few
    · rw [counted]
      exact short
    · exact few

/-- The first block of the channel is pending once the loop has taken it. -/
theorem Unmoved.accumulateBlock_filled {self between : Sequencer Block Sink Store} {block : Block}
    {rest : List Block} (unmoved : self.Unmoved between) (queue : between.blockRx.queue = block :: rest) :
    Filled self (accumulateBlock { between with blockRx := { between.blockRx with queue := rest } } block)
      [block] where
  pendingBlocks := by
    show between.pendingBlocks ++ [block] = _
    rw [unmoved.pendingBlocks]
  queue := by
    rw [← unmoved.blockRx, queue]
    rfl
  closed := by
    rw [← unmoved.blockRx]
    rfl
  currentBatchSize := by
    show between.currentBatchSize + blockSize block = _
    rw [unmoved.currentBatchSize, List.map_singleton, List.sum_singleton]
  batcherConfig := unmoved.batcherConfig
  lastSubmission := unmoved.lastSubmission
  clock := unmoved.sameClock
  inFlightPreparations := unmoved.inFlightPreparations

private theorem Quiet.accumulateLoop_filled (dynamicMax fuel : Nat) {self : Sequencer Block Sink Store}
    (quiet : self.Quiet) (fuelled : 0 < fuel) (enough : dynamicMax < fuel + self.pendingBlocks.length) :
    ∃ taken, Filled self (accumulateLoop dynamicMax fuel self).2.2 taken ∧
      Stopped dynamicMax (accumulateLoop dynamicMax fuel self).2.2 taken
        (accumulateLoop dynamicMax fuel self).2.1 ∧
      (accumulateLoop dynamicMax fuel self).2.2.Quiet := by
  induction fuel generalizing self with
  | zero => exact absurd fuelled (Nat.lt_irrefl 0)
  | succ fuel ih =>
    have later := quiet.interfere
    have unmoved := quiet.unmoved
    unfold accumulateLoop
    simp only [Receiver.tryRecv]
    cases queue : self.interfere.blockRx.queue with
    | nil =>
      have nothing := unmoved.filled
      have ended : Stopped dynamicMax self.interfere [] self.interfere.blockRx.closed :=
        .drained queue (.inl rfl)
      cases closed : self.interfere.blockRx.closed with
      | false =>
        rw [closed] at ended
        exact ⟨[], nothing, ended, later⟩
      | true =>
        rw [closed] at ended
        exact ⟨[], nothing, ended, later⟩
    | cons block rest =>
      simp only []
      let after := accumulateBlock
        { self.interfere with blockRx := { self.interfere.blockRx with queue := rest } } block
      have one : Filled self after [block] := unmoved.accumulateBlock_filled queue
      have counted : after.pendingBlocks.length = self.pendingBlocks.length + 1 := by
        rw [one.pendingBlocks, List.length_append, List.length_singleton]
      split
      · rename_i filled
        exact ⟨[block], one, .full (List.cons_ne_nil _ _) filled (.inr rfl), later⟩
      · rename_i short
        have short : after.pendingBlocks.length < dynamicMax := Nat.not_le.mp short
        have calm : after.Quiet := later
        obtain ⟨taken, more, ended, still⟩ := ih calm (by omega) (by omega)
        exact ⟨block :: taken, one.trans more, ended.cons more short, still⟩

/-- Phase 3 takes blocks up to the dynamic maximum of the backlog it found. -/
theorem Quiet.accumulateBlocks_filled {self : Sequencer Block Sink Store} (quiet : self.Quiet) :
    ∃ taken, Filled self self.accumulateBlocks.2.2 taken ∧
      Stopped (self.dynamicMaxBlocks self.estimateBacklog) self.accumulateBlocks.2.2 taken
        self.accumulateBlocks.2.1 ∧
      self.accumulateBlocks.2.2.Quiet := by
  have unmoved := quiet.unmoved
  have same : self.interfere.dynamicMaxBlocks self.interfere.estimateBacklog =
      self.dynamicMaxBlocks self.estimateBacklog := by
    unfold dynamicMaxBlocks estimateBacklog
    rw [unmoved.pendingBlocks, unmoved.blockRx, unmoved.batcherConfig]
  unfold accumulateBlocks
  simp only [same]
  obtain ⟨taken, filled, stopped, still⟩ := quiet.interfere.accumulateLoop_filled
    (self.dynamicMaxBlocks self.estimateBacklog)
    (self.dynamicMaxBlocks self.estimateBacklog - self.interfere.pendingBlocks.length + 1)
    (Nat.succ_pos _) (by omega)
  exact ⟨taken, unmoved.filled.trans filled, stopped, still⟩

end Accumulating

end Quiet

end Sequencer

end Montana.Roles
