import Montana.Roles.SequencerPhases
import Montana.Roles.SequencerSaves

/-! What is still to be delivered: the batches that are ready, and those whose workers
will end well. Collecting, submitting and waiting move them without changing the account. -/

namespace Montana.Roles.Sequencer

variable {Block Sink Store Tx : Type}

/-- `in_flight_preparations` counts the tasks and the results that were not collected yet. -/
def Counted (self : Sequencer Block Sink Store) : Prop :=
  self.inFlightPreparations = self.workers.length + self.preparedRx.queue.length

/-- What one successful submission of a ready batch, already popped, leaves behind. -/
structure Advanced (before after : Sequencer Block Sink Store) : Prop extends Handed before after where
  nextSubmissionNumber : after.nextSubmissionNumber = before.nextSubmissionNumber + 1

/-- `left` is where `right` would be if these results had not been collected. -/
structure Uncollected (results : List (Except String PreparedBatch))
    (left right : Sequencer Block Sink Store) : Prop where
  compressor : left.compressor = right.compressor
  workers : left.workers = right.workers
  queue : left.preparedRx.queue = results ++ right.preparedRx.queue

section Environment

variable [BlockJson Block]

/-- All that is still scheduled happens at once. -/
def settle (self : Sequencer Block Sink Store) : Sequencer Block Sink Store :=
  self.schedule.flatten.foldl apply { self with schedule := [] }

/-- The numbers still to be delivered are the next ones to submit, none of them missing. -/
def Gapless (self : Sequencer Block Sink Store) : Prop :=
  self.settle.heldNumbers.Perm
    (List.range' self.nextSubmissionNumber self.settle.heldNumbers.length)

theorem Counted.apply {self : Sequencer Block Sink Store} (counted : self.Counted)
    (event : Interference Block) : (self.apply event).Counted := by
  unfold Counted at counted
  cases event with
  | blockSent block =>
    simp only [Sequencer.apply]
    split <;> exact counted
  | workerDone index fault =>
    simp only [Sequencer.apply]
    split
    · exact counted
    · rename_i worker running
      have inside := (List.getElem?_eq_some_iff.mp running).1
      simp only [Counted, finishWorker, List.length_eraseIdx_of_lt inside, List.length_append,
        List.length_singleton]
      omega
  | senderDropped => exact counted
  | clockAdvanced elapsed => exact counted
  | wallClockSet unixSeconds => exact counted

theorem Counted.interfere {self : Sequencer Block Sink Store} (counted : self.Counted) :
    self.interfere.Counted := by
  refine interfere_invariant Counted ?_ (fun _ _ counted => counted) counted
  intro reached event counted
  exact counted.apply event

omit [BlockJson Block] in
theorem Counted.collectResult {self : Sequencer Block Sink Store} {result rest}
    (counted : self.Counted) (arrived : self.preparedRx.tryRecv = .ok result rest) :
    (collectResult { self with preparedRx := rest } result).Counted := by
  unfold Counted at counted
  rw [tryRecv_ok arrived, List.length_cons] at counted
  cases result <;> simp only [Counted, Sequencer.collectResult] <;> omega

private theorem applyAll_schedule (events : List (Interference Block)) (self : Sequencer Block Sink Store)
    (schedule : List (List (Interference Block))) :
    events.foldl apply { self with schedule } = { events.foldl apply self with schedule } := by
  induction events generalizing self with
  | nil => rfl
  | cons event rest ih =>
    have first : apply { self with schedule } event = { self.apply event with schedule } := by
      cases event <;> simp only [apply] <;> split <;> rfl
    rw [List.foldl_cons, first, ih, List.foldl_cons]

theorem interfere_schedule (self : Sequencer Block Sink Store) :
    self.interfere.schedule = self.schedule.tail := by
  unfold interfere
  split
  · rename_i none
    rw [none, List.tail_nil]
  · rename_i burst rest some
    rw [applyAll_schedule, some, List.tail_cons]

/-- What happens before a read was scheduled anyway. -/
theorem settle_interfere (self : Sequencer Block Sink Store) : self.interfere.settle = self.settle := by
  cases scheduled : self.schedule with
  | nil =>
    have same : self.interfere = self := by simp only [interfere, scheduled]
    rw [same]
  | cons burst rest =>
    have moved : self.interfere = burst.foldl apply { self with schedule := rest } := by
      simp only [interfere, scheduled]
    have emptied : { self.interfere with schedule := [] } =
        burst.foldl apply { self with schedule := [] } := by
      rw [moved]
      exact (applyAll_schedule burst { self with schedule := rest } []).symm
    rw [settle, emptied, interfere_schedule, settle, scheduled, List.tail_cons, List.flatten_cons,
      List.foldl_append]

private theorem settle_elapsed (self : Sequencer Block Sink Store) :
    self.Elapsed self.settle :=
  (Elapsed.rescheduled self []).trans (applyAll_elapsed _ _)

theorem Uncollected.apply {results : List (Except String PreparedBatch)}
    {left right : Sequencer Block Sink Store} (uncollected : Uncollected results left right)
    (event : Interference Block) : Uncollected results (left.apply event) (right.apply event) := by
  obtain ⟨compressor, workers, queue⟩ := uncollected
  cases event with
  | blockSent block =>
    simp only [Sequencer.apply]
    split <;> split <;> exact ⟨compressor, workers, queue⟩
  | senderDropped => exact ⟨compressor, workers, queue⟩
  | workerDone index fault =>
    simp only [Sequencer.apply, workers]
    split
    · exact ⟨compressor, workers, queue⟩
    · refine ⟨compressor, ?_, ?_⟩
      · simp only [finishWorker, workers]
      · simp only [finishWorker, queue, compressor, List.append_assoc]
  | clockAdvanced elapsed => exact ⟨compressor, workers, queue⟩
  | wallClockSet unixSeconds => exact ⟨compressor, workers, queue⟩

theorem Uncollected.settle {results : List (Except String PreparedBatch)}
    {left right : Sequencer Block Sink Store} (uncollected : Uncollected results left right)
    (schedule : left.schedule = right.schedule) : Uncollected results left.settle right.settle := by
  have applied (events : List (Interference Block)) {left right : Sequencer Block Sink Store}
      (uncollected : Uncollected results left right) :
      Uncollected results (events.foldl Sequencer.apply left) (events.foldl Sequencer.apply right) := by
    induction events generalizing left right with
    | nil => exact uncollected
    | cons event rest ih => exact ih (uncollected.apply event)
  unfold Sequencer.settle
  rw [schedule]
  exact applied _ ⟨uncollected.compressor, uncollected.workers, uncollected.queue⟩

/-- Where no worker is left, the schedule brings no results. -/
theorem settle_idle {self : Sequencer Block Sink Store} (idle : self.workers = []) :
    self.settle.workers = [] ∧ self.settle.preparedRx = self.preparedRx := by
  refine Runs.invariant_run (fun reached : Sequencer Block Sink Store => reached.workers = [] ∧
    reached.preparedRx = self.preparedRx) self.schedule.flatten ?_ ⟨idle, rfl⟩
  intro reached event _ still
  cases event with
  | blockSent block =>
    simp only [apply]
    split <;> exact still
  | workerDone index fault => simp [apply, still]
  | senderDropped => exact still
  | clockAdvanced elapsed => exact still
  | wallClockSet unixSeconds => exact still

theorem settle_unscheduled {self : Sequencer Block Sink Store} (unscheduled : self.schedule = []) :
    self.settle = self := by
  unfold settle
  rw [unscheduled, List.flatten_nil, List.foldl_nil, ← unscheduled]

theorem heldNumbers_settle (self : Sequencer Block Sink Store) :
    self.settle.heldNumbers = self.settle.inFlightNumbers ++ self.readyNumbers := by
  rw [heldNumbers, readyNumbers, (settle_elapsed self).readyBatches, readyNumbers]

private theorem gapless_congr {left right : Sequencer Block Sink Store}
    (next : left.nextSubmissionNumber = right.nextSubmissionNumber)
    (held : left.settle.heldNumbers.Perm right.settle.heldNumbers) : left.Gapless ↔ right.Gapless := by
  unfold Gapless
  rw [next, held.length_eq]
  exact ⟨held.symm.trans, held.trans⟩

theorem interfere_gapless (self : Sequencer Block Sink Store) :
    self.interfere.Gapless ↔ self.Gapless :=
  gapless_congr (interfere_elapsed self).nextSubmissionNumber (by rw [settle_interfere])

omit [BlockJson Block] in
theorem collectResult_uncollected {self : Sequencer Block Sink Store} {result rest}
    (arrived : self.preparedRx.tryRecv = .ok result rest) :
    Uncollected [result] self (collectResult { self with preparedRx := rest } result) := by
  have queue := tryRecv_ok arrived
  cases result <;> exact ⟨rfl, rfl, queue⟩

omit [BlockJson Block] in
theorem collectResult_schedule (self : Sequencer Block Sink Store) (result) :
    (collectResult self result).schedule = self.schedule := by
  cases result <;> rfl

/-- A collected result moves from the channel to the ready batches, or was an error. -/
theorem collectResult_gapless {self : Sequencer Block Sink Store} {result rest}
    (arrived : self.preparedRx.tryRecv = .ok result rest) :
    (collectResult { self with preparedRx := rest } result).Gapless ↔ self.Gapless := by
  have settled := (collectResult_uncollected arrived).settle
    (collectResult_schedule { self with preparedRx := rest } result).symm
  refine gapless_congr (by cases result <;> rfl) ?_
  rw [heldNumbers_settle, heldNumbers_settle, inFlightNumbers, inFlightNumbers, settled.workers,
    settled.queue]
  cases result with
  | error e => exact List.Perm.refl _
  | ok prepared =>
    have pushed := (self.readyBatches.push_perm prepared).map (·.batchNumber)
    refine (List.Perm.append_left _ pushed).trans ?_
    simp only [List.singleton_append, List.filterMap_cons, resultNumber, List.map_cons, readyNumbers,
      List.append_assoc]
    exact List.Perm.append_left _ (List.perm_middle.trans (List.Perm.refl _))

theorem Advanced.settled {self after : Sequencer Block Sink Store}
    (advanced : Advanced { self with readyBatches := self.readyBatches.pop } after) :
    Uncollected [] self.settle after.settle := by
  have same : Uncollected [] self after :=
    ⟨advanced.compressor.symm, advanced.workers.symm, by rw [advanced.preparedRx]; rfl⟩
  exact same.settle advanced.schedule.symm

/-- A batch that was submitted was the next one, and the numbering goes on behind it. -/
theorem Advanced.gapless {self after : Sequencer Block Sink Store} {prepared : PreparedBatch}
    (shown : self.readyBatches.peek = some prepared)
    (next : prepared.batchNumber = self.nextSubmissionNumber)
    (advanced : Advanced { self with readyBatches := self.readyBatches.pop } after) :
    after.Gapless ↔ self.Gapless := by
  have items := PriorityQueue.items_of_peek shown
  have settled : Uncollected [] self.settle after.settle := advanced.settled
  have held : self.settle.heldNumbers.Perm (self.nextSubmissionNumber :: after.settle.heldNumbers) := by
    rw [heldNumbers_settle, heldNumbers_settle, inFlightNumbers, inFlightNumbers, settled.workers,
      settled.queue, readyNumbers, readyNumbers, items, advanced.readyBatches, List.map_cons, next,
      List.nil_append]
    exact List.perm_middle
  unfold Gapless
  rw [advanced.nextSubmissionNumber, held.length_eq, List.length_cons, List.range'_succ]
  constructor
  · intro gapless
    exact held.trans (gapless.cons _)
  · intro gapless
    exact (held.symm.trans gapless).cons_inv

end Environment

section Steps

variable [BlockResponse Block Tx] [BlockJson Block] [BatchSink Sink] [CheckpointStore Store]

theorem Counted.step {self next : Sequencer Block Sink Store} (step : Step self next)
    (counted : self.Counted) : next.Counted := by
  cases step with
  | environment event => exact counted.apply event
  | reschedule schedule => exact counted
  | collect arrived => exact counted.collectResult arrived
  | @submit prepared _ _ =>
    have handed := submitPreparedBatch_handed { self with readyBatches := self.readyBatches.pop } prepared
    rw [Counted, handed.inFlightPreparations, handed.workers, handed.preparedRx]
    exact counted
  | @accumulate block rest _ => exact counted
  | cut count =>
    unfold Counted at counted
    simp only [Counted, cutBatch, spawnPreparationWorker, List.length_append, List.length_singleton]
    omega

theorem Counted.steps {self next : Sequencer Block Sink Store} (steps : Steps self next)
    (counted : self.Counted) : next.Counted :=
  Runs.invariant_steps Counted (fun _ _ => Counted.step) steps counted

theorem Counted.input {self : Sequencer Block Sink Store} (counted : self.Counted)
    (input : Input Block) : (self.step input).Counted := by
  cases input with
  | environment event => exact counted.step (.environment self event)
  | tick schedule rounds => exact counted.steps (step_steps self (.tick schedule rounds) nofun)
  | resume checkpoint => exact counted

omit [BlockResponse Block Tx] [BlockJson Block] [BatchSink Sink] in
theorem Launched.counted {self : Sequencer Block Sink Store} (launched : self.Launched) :
    self.Counted := by
  induction launched with
  | new made =>
    obtain ⟨checkpoint, rfl⟩ := new_startingFrom made
    rfl
  | withExecutionCallback _ ih => exact ih
  | withBatchCallback _ ih => exact ih
  | withEventSender _ ih => exact ih

theorem Launched.counted_run {self : Sequencer Block Sink Store} (launched : self.Launched)
    (inputs : List (Input Block)) : (self.run inputs).Counted :=
  Runs.invariant_run Counted inputs (fun _ input _ counted => counted.input input) launched.counted

omit [BlockResponse Block Tx] [BlockJson Block] in
theorem submitPreparedBatch_advanced {self after : Sequencer Block Sink Store}
    {prepared : PreparedBatch} (taken : self.submitPreparedBatch prepared = (.ok (), after)) :
    Advanced self after := by
  have handed := submitPreparedBatch_handed self prepared
  rw [taken] at handed
  exact ⟨handed, (submitPreparedBatch_ok taken).2.1⟩

end Steps

end Montana.Roles.Sequencer
