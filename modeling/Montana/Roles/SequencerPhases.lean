import Montana.Roles.SequencerLedger

/-! The phases of a tick one by one: what stays as it is while the rest of the
process runs, and rules for the loops that collect, submit and flush. -/

namespace Montana.Roles.Sequencer

variable {Block Sink Store Tx : Type}

/-- What the rest of the process cannot do: it touches nothing that only a tick changes,
and it does not turn back the clock. -/
structure Elapsed (before after : Sequencer Block Sink Store) : Prop where
  compressor : after.compressor = before.compressor
  batcherConfig : after.batcherConfig = before.batcherConfig
  pendingBlocks : after.pendingBlocks = before.pendingBlocks
  currentBatchSize : after.currentBatchSize = before.currentBatchSize
  lastSubmission : after.lastSubmission = before.lastSubmission
  clock : before.clock ≤ after.clock
  nextSubmissionNumber : after.nextSubmissionNumber = before.nextSubmissionNumber
  inFlightPreparations : after.inFlightPreparations = before.inFlightPreparations
  readyBatches : after.readyBatches = before.readyBatches
  spawned : after.spawned = before.spawned

theorem Elapsed.refl (self : Sequencer Block Sink Store) : self.Elapsed self :=
  ⟨rfl, rfl, rfl, rfl, rfl, Nat.le_refl _, rfl, rfl, rfl, rfl⟩

theorem Elapsed.rescheduled (self : Sequencer Block Sink Store)
    (schedule : List (List (Interference Block))) : self.Elapsed { self with schedule } :=
  ⟨rfl, rfl, rfl, rfl, rfl, Nat.le_refl _, rfl, rfl, rfl, rfl⟩

theorem Elapsed.trans {before between after : Sequencer Block Sink Store}
    (first : before.Elapsed between) (second : between.Elapsed after) : before.Elapsed after where
  compressor := second.compressor.trans first.compressor
  batcherConfig := second.batcherConfig.trans first.batcherConfig
  pendingBlocks := second.pendingBlocks.trans first.pendingBlocks
  currentBatchSize := second.currentBatchSize.trans first.currentBatchSize
  lastSubmission := second.lastSubmission.trans first.lastSubmission
  clock := first.clock.trans second.clock
  nextSubmissionNumber := second.nextSubmissionNumber.trans first.nextSubmissionNumber
  inFlightPreparations := second.inFlightPreparations.trans first.inFlightPreparations
  readyBatches := second.readyBatches.trans first.readyBatches
  spawned := second.spawned.trans first.spawned

/-- A criterion that is met stays met while a tick reads on. -/
theorem Elapsed.shouldSubmit {before after : Sequencer Block Sink Store}
    (elapsed : before.Elapsed after) (ready : before.shouldSubmit = true) :
    after.shouldSubmit = true := by
  have later := elapsed.clock
  simp only [Sequencer.shouldSubmit, Bool.or_eq_true, decide_eq_true_eq] at ready ⊢
  rw [elapsed.currentBatchSize, elapsed.batcherConfig, elapsed.lastSubmission, elapsed.pendingBlocks]
  omega

section Phases

variable [BlockResponse Block Tx] [BlockJson Block] [BatchSink Sink] [CheckpointStore Store]

omit [BlockResponse Block Tx] [BatchSink Sink] [CheckpointStore Store] in
theorem apply_elapsed (self : Sequencer Block Sink Store) (event : Interference Block) :
    self.Elapsed (self.apply event) := by
  cases event with
  | blockSent block =>
    simp only [apply]
    split
    · exact .refl self
    · exact ⟨rfl, rfl, rfl, rfl, rfl, Nat.le_refl _, rfl, rfl, rfl, rfl⟩
  | senderDropped => exact ⟨rfl, rfl, rfl, rfl, rfl, Nat.le_refl _, rfl, rfl, rfl, rfl⟩
  | workerDone index fault =>
    simp only [apply]
    split
    · exact .refl self
    · exact ⟨rfl, rfl, rfl, rfl, rfl, Nat.le_refl _, rfl, rfl, rfl, rfl⟩
  | clockAdvanced elapsed => exact ⟨rfl, rfl, rfl, rfl, rfl, Nat.le_add_right _ _, rfl, rfl, rfl, rfl⟩
  | wallClockSet unixSeconds => exact ⟨rfl, rfl, rfl, rfl, rfl, Nat.le_refl _, rfl, rfl, rfl, rfl⟩

omit [BlockResponse Block Tx] [BatchSink Sink] [CheckpointStore Store] in
theorem applyAll_elapsed (events : List (Interference Block)) (self : Sequencer Block Sink Store) :
    self.Elapsed (events.foldl apply self) := by
  refine Runs.invariant_run (self.Elapsed ·) events ?_ (.refl self)
  intro reached event _ elapsed
  exact elapsed.trans (apply_elapsed reached event)

omit [BlockResponse Block Tx] [BatchSink Sink] [CheckpointStore Store] in
theorem interfere_elapsed (self : Sequencer Block Sink Store) : self.Elapsed self.interfere := by
  refine interfere_invariant (self.Elapsed ·) ?_ ?_ (.refl self)
  · intro reached event elapsed
    exact elapsed.trans (apply_elapsed reached event)
  · intro reached schedule elapsed
    exact elapsed.trans (.rescheduled reached schedule)

/-- What no end of a submission touches, whether it was skipped, refused, not saved or saved. -/
structure Handed (before after : Sequencer Block Sink Store) : Prop where
  compressor : after.compressor = before.compressor
  batcherConfig : after.batcherConfig = before.batcherConfig
  pendingBlocks : after.pendingBlocks = before.pendingBlocks
  preparedRx : after.preparedRx = before.preparedRx
  inFlightPreparations : after.inFlightPreparations = before.inFlightPreparations
  readyBatches : after.readyBatches = before.readyBatches
  workers : after.workers = before.workers
  schedule : after.schedule = before.schedule
  spawned : after.spawned = before.spawned

omit [BlockResponse Block Tx] [BlockJson Block] in
theorem submitPreparedBatch_handed (self : Sequencer Block Sink Store) (prepared : PreparedBatch) :
    Handed self (self.submitPreparedBatch prepared).2 := by
  rcases submitPreparedBatch_cases self prepared with
    ⟨_, same⟩ | ⟨_, _, _, _, _, same⟩ | ⟨_, _, _, _, _, _, same⟩ | ⟨_, _, _, _, _, _, _, same⟩ <;>
    rw [same] <;> exact ⟨rfl, rfl, rfl, rfl, rfl, rfl, rfl, rfl, rfl⟩

/-- What has to be shown of a property for the loops that collect results and submit
batches: `Holds` as long as nothing fails, `Failed` after a submission that did. -/
structure Delivers (Holds Failed : Sequencer Block Sink Store → Prop) : Prop where
  interfered : ∀ self, Holds self → Holds self.interfere
  collected : ∀ self result rest, self.preparedRx.tryRecv = .ok result rest → Holds self →
    Holds (collectResult { self with preparedRx := rest } result)
  submitted : ∀ self prepared after, self.readyBatches.peek = some prepared →
    prepared.batchNumber = self.nextSubmissionNumber → Holds self →
    submitPreparedBatch { self with readyBatches := self.readyBatches.pop } prepared = (.ok (), after) →
    Holds after
  failed : ∀ self prepared error after, self.readyBatches.peek = some prepared →
    prepared.batchNumber = self.nextSubmissionNumber → Holds self →
    submitPreparedBatch { self with readyBatches := self.readyBatches.pop } prepared =
      (.error error, after) → Failed after

omit [BlockResponse Block Tx] in
theorem Delivers.collectLoop {Holds Failed : Sequencer Block Sink Store → Prop}
    (delivers : Delivers Holds Failed) (fuel : Nat) {self : Sequencer Block Sink Store}
    (holds : Holds self) : Holds (collectLoop fuel self) := by
  induction fuel generalizing self with
  | zero => exact holds
  | succ fuel ih =>
    have reading := delivers.interfered self holds
    unfold Sequencer.collectLoop
    simp only []
    split
    · rename_i result rest arrived
      exact ih (delivers.collected _ result rest arrived reading)
    · exact reading
    · exact reading

omit [BlockResponse Block Tx] in
theorem Delivers.collectPreparedBatches {Holds Failed : Sequencer Block Sink Store → Prop}
    (delivers : Delivers Holds Failed) {self : Sequencer Block Sink Store} (holds : Holds self) :
    Holds self.collectPreparedBatches :=
  delivers.collectLoop _ holds

omit [BlockResponse Block Tx] in
/-- The first thing a collection does is to let the process around it run. -/
theorem Delivers.collect_interfered {Holds Failed : Sequencer Block Sink Store → Prop}
    (delivers : Delivers Holds Failed) {self : Sequencer Block Sink Store}
    (holds : Holds self.interfere) : Holds self.collectPreparedBatches := by
  unfold Sequencer.collectPreparedBatches Sequencer.collectLoop
  simp only []
  split
  · rename_i result rest arrived
    exact delivers.collectLoop _ (delivers.collected _ result rest arrived holds)
  · exact holds
  · exact holds

omit [BlockResponse Block Tx] in
theorem Delivers.submitLoop {Holds Failed : Sequencer Block Sink Store → Prop}
    (delivers : Delivers Holds Failed) (fuel : Nat) {self : Sequencer Block Sink Store}
    (holds : Holds self) :
    (∀ submitted after, submitLoop fuel self = (.ok submitted, after) → Holds after) ∧
      ∀ error after, submitLoop fuel self = (.error error, after) → Failed after := by
  induction fuel generalizing self with
  | zero =>
    refine ⟨fun submitted after ended => ?_, fun error after ended => by cases ended⟩
    cases ended
    exact holds
  | succ fuel ih =>
    unfold Sequencer.submitLoop
    split
    · refine ⟨fun submitted after ended => ?_, fun error after ended => by cases ended⟩
      cases ended
      exact holds
    · rename_i prepared shown
      split
      · refine ⟨fun submitted after ended => ?_, fun error after ended => by cases ended⟩
        cases ended
        exact holds
      · rename_i next
        have elapsed := interfere_elapsed self
        have peeked : self.interfere.readyBatches.peek = some prepared := by
          rw [elapsed.readyBatches]
          exact shown
        have following : prepared.batchNumber = self.interfere.nextSubmissionNumber := by
          rw [elapsed.nextSubmissionNumber]
          exact not_not.mp next
        have reading := delivers.interfered self holds
        simp only []
        split
        · rename_i e failing refused
          refine ⟨fun submitted after ended => (by cases ended), fun error after ended => ?_⟩
          cases ended
          exact delivers.failed _ prepared e failing peeked following reading refused
        · rename_i between taken
          obtain ⟨succeeds, fails⟩ := ih (delivers.submitted _ prepared between peeked following reading taken)
          split <;> rename_i looped
          · refine ⟨fun submitted after ended => (by cases ended), fun error after ended => ?_⟩
            cases ended
            exact fails _ _ looped
          · refine ⟨fun submitted after ended => ?_, fun error after ended => by cases ended⟩
            cases ended
            exact succeeds _ _ looped

omit [BlockResponse Block Tx] in
/-- One pass over the results and the ready batches, as phases 1 and 2 and the flush make it. -/
theorem Delivers.submitReadyBatches {Holds Failed : Sequencer Block Sink Store → Prop}
    (delivers : Delivers Holds Failed) {self : Sequencer Block Sink Store} (holds : Holds self) :
    (∀ submitted after, self.collectPreparedBatches.submitReadyBatches = (.ok submitted, after) →
      Holds after) ∧
      ∀ error after, self.collectPreparedBatches.submitReadyBatches = (.error error, after) →
        Failed after :=
  delivers.submitLoop _ (delivers.collectPreparedBatches holds)

omit [BlockResponse Block Tx] in
theorem Delivers.flush {Holds Failed : Sequencer Block Sink Store → Prop}
    (delivers : Delivers Holds Failed) (rounds : Nat) {self : Sequencer Block Sink Store}
    (holds : Holds self) :
    (∃ error, (flush rounds self).1 = .failed error ∧ Failed (flush rounds self).2) ∨
      (∀ error, (flush rounds self).1 ≠ .failed error) ∧ Holds (flush rounds self).2 := by
  induction rounds generalizing self with
  | zero =>
    right
    unfold Sequencer.flush
    split <;> exact ⟨fun error ended => (by cases ended), holds⟩
  | succ rounds ih =>
    unfold Sequencer.flush
    split
    · obtain ⟨succeeds, fails⟩ := delivers.submitReadyBatches holds
      split
      · rename_i e after refused
        exact .inl ⟨e, rfl, fails e after refused⟩
      · rename_i submitted after delivered
        have going := succeeds submitted after delivered
        split
        · exact ih (delivers.interfered after going)
        · exact ih going
    · exact .inr ⟨fun error ended => (by cases ended), holds⟩

omit [BatchSink Sink] [CheckpointStore Store] in
theorem accumulateLoop_invariant (Holds : Sequencer Block Sink Store → Prop)
    (interfered : ∀ self, Holds self → Holds self.interfere)
    (accumulated : ∀ self block rest, self.blockRx.tryRecv = .ok block rest → Holds self →
      Holds (accumulateBlock { self with blockRx := rest } block))
    (dynamicMax fuel : Nat) {self : Sequencer Block Sink Store} (holds : Holds self) :
    Holds (accumulateLoop dynamicMax fuel self).2.2 := by
  induction fuel generalizing self with
  | zero => exact holds
  | succ fuel ih =>
    have reading := interfered self holds
    unfold accumulateLoop
    simp only []
    split
    · rename_i block rest arrived
      have taken := accumulated _ block rest arrived reading
      split
      · exact taken
      · exact ih taken
    · exact reading
    · exact reading

omit [BatchSink Sink] [CheckpointStore Store] in
theorem accumulateBlocks_invariant (Holds : Sequencer Block Sink Store → Prop)
    (interfered : ∀ self, Holds self → Holds self.interfere)
    (accumulated : ∀ self block rest, self.blockRx.tryRecv = .ok block rest → Holds self →
      Holds (accumulateBlock { self with blockRx := rest } block))
    {self : Sequencer Block Sink Store} (holds : Holds self) : Holds self.accumulateBlocks.2.2 :=
  accumulateLoop_invariant Holds interfered accumulated _ _ (interfered self holds)

/-- Phases 1 to 3: whether the channel was found closed, and the sequencer with the blocks
it has accumulated; none where a submission fails. -/
def accumulated (self : Sequencer Block Sink Store) : Option (Bool × Sequencer Block Sink Store) :=
  match self.collectPreparedBatches.submitReadyBatches with
  | (.error _, _) => none
  | (.ok _, self) =>
    match self.accumulateBlocks with
    | (_, disconnected, self) => some (disconnected, self)

/-- The sequencer at the flush loop, the last batch being cut. -/
def lastCut (self : Sequencer Block Sink Store) : Sequencer Block Sink Store :=
  self.spawnWorkers.2.cutRemaining

theorem accumulated_cases {self filled : Sequencer Block Sink Store} {disconnected : Bool}
    (reached : self.accumulated = some (disconnected, filled)) :
    ∃ submitted delivered count,
      self.collectPreparedBatches.submitReadyBatches = (.ok submitted, delivered) ∧
      delivered.accumulateBlocks = (count, disconnected, filled) := by
  unfold accumulated at reached
  split at reached
  · cases reached
  · rename_i submitted delivered passed
    obtain ⟨same⟩ := Option.some.inj reached
    exact ⟨submitted, delivered, _, passed, rfl⟩

theorem accumulated_steps {self filled : Sequencer Block Sink Store} {disconnected : Bool}
    (reached : self.accumulated = some (disconnected, filled)) : Steps self filled := by
  obtain ⟨submitted, delivered, count, passed, counted⟩ := accumulated_cases reached
  have first := (collectPreparedBatches_steps self).trans
    (submitReadyBatches_steps self.collectPreparedBatches)
  have second := accumulateBlocks_steps delivered
  rw [passed] at first
  rw [counted] at second
  exact first.trans second

theorem lastCut_steps (self : Sequencer Block Sink Store) : Steps self self.lastCut :=
  (spawnWorkers_steps self).trans (cutRemaining_steps _)

theorem tick_failed {self : Sequencer Block Sink Store} (refused : self.accumulated = none)
    (rounds : Nat) : ∃ error after,
      self.collectPreparedBatches.submitReadyBatches = (.error error, after) ∧
        tick self rounds = (.failed error, after) := by
  unfold accumulated at refused
  split at refused
  · rename_i error after failed
    refine ⟨error, after, failed, ?_⟩
    simp only [tick, failed]
  · cases refused

theorem tick_open {self filled : Sequencer Block Sink Store}
    (reached : self.accumulated = some (false, filled)) (rounds : Nat) :
    (tick self rounds).2 = filled.spawnWorkers.2 ∧
      ((tick self rounds).1 = .done .progress ∨ (tick self rounds).1 = .done .idle) := by
  obtain ⟨submitted, delivered, count, passed, counted⟩ := accumulated_cases reached
  simp only [tick, passed, counted, Bool.false_eq_true, if_false]
  split
  · exact ⟨rfl, .inl rfl⟩
  · exact ⟨rfl, .inr rfl⟩

theorem tick_closed {self filled : Sequencer Block Sink Store}
    (reached : self.accumulated = some (true, filled)) (rounds : Nat) :
    tick self rounds = flush rounds filled.lastCut := by
  obtain ⟨submitted, delivered, count, passed, counted⟩ := accumulated_cases reached
  simp only [tick, passed, counted, if_true]
  rfl

end Phases

end Montana.Roles.Sequencer
