import Montana.Common.Reference
import Montana.Roles.SequencerLedger

/-! As long as nothing fails and the numbering is ahead of the checkpoint, batches
reach L1 in the order of their numbers and nothing is skipped. -/

namespace Montana.Roles.Sequencer

variable {Block Sink Store Tx : Type}

/-- The submissions so far are the first numbers, one each; the next one cannot
be taken for an old one. -/
structure Ordered (sequencer : Sequencer Block Sink Store) : Prop where
  skipped : sequencer.skipped = []
  positive : 0 < sequencer.nextSubmissionNumber
  ahead : sequencer.checkpoint.lastBatchSubmitted < sequencer.nextSubmissionNumber
  answered : ∀ entry ∈ sequencer.submissions, entry.2.isOk = true
  submitted : sequencer.submittedNumbers = List.range' 1 (sequencer.nextSubmissionNumber - 1)

/-- The guard on a restart: what the checkpoint has as submitted lies before the
next number to submit. -/
def restartsAhead (self : Sequencer Block Sink Store) : Input Block → Prop
  | .resume checkpoint => checkpoint.lastBatchSubmitted < self.nextSubmissionNumber
  | _ => True

theorem Ordered.next_not_skipped {self : Sequencer Block Sink Store} (ordered : self.Ordered) :
    self.checkpoint.shouldSkipBatch self.nextSubmissionNumber ≠ true := by
  intro skips
  have old := (Checkpoint.shouldSkipBatch_iff _ _ ordered.positive).mp skips
  exact absurd ordered.ahead (Nat.not_lt.mpr old)

instance (self : Sequencer Block Sink Store) (input : Input Block) :
    Decidable (self.restartsAhead input) :=
  match input with
  | .resume checkpoint =>
    inferInstanceAs (Decidable (checkpoint.lastBatchSubmitted < self.nextSubmissionNumber))
  | .environment _ => .isTrue trivial
  | .tick _ _ => .isTrue trivial

section Steps

variable [BlockResponse Block Tx] [BlockJson Block] [BatchSink Sink] [CheckpointStore Store]

theorem faults_mono {self next : Sequencer Block Sink Store} (step : Step self next)
    (clean : next.faults = []) : self.faults = [] := by
  cases step with
  | environment event =>
    rcases apply_cases self event with ⟨block, same⟩ | ⟨index, worker, result, _, _, same⟩ |
      ⟨closed, clock, wallClock, same⟩ <;> rw [same] at clean
    · exact clean
    · cases result with
      | ok prepared => exact clean
      | error e => exact (List.append_eq_nil_iff.mp clean).1
    · exact clean
  | reschedule schedule => exact clean
  | @collect result rest _ => cases result <;> exact clean
  | @submit prepared _ _ =>
    rcases submitPreparedBatch_cases { self with readyBatches := self.readyBatches.pop } prepared with
      ⟨_, same⟩ | ⟨_, _, _, _, _, same⟩ | ⟨_, _, _, _, _, _, same⟩ | ⟨_, _, _, _, _, _, _, same⟩ <;>
      rw [same] at clean
    · exact clean
    · exact (List.append_eq_nil_iff.mp clean).1
    · exact (List.append_eq_nil_iff.mp clean).1
    · exact clean
  | @accumulate block rest _ => exact clean
  | cut count => exact clean

theorem Ordered.step {self next : Sequencer Block Sink Store} (step : Step self next)
    (encoded : self.Encoded) (ordered : self.Ordered) (clean : next.faults = []) : next.Ordered := by
  have kept := ordered.next_not_skipped
  obtain ⟨skipped, positive, ahead, answered, submitted⟩ := ordered
  cases step with
  | environment event =>
    rcases apply_cases self event with ⟨block, same⟩ | ⟨index, worker, result, _, _, same⟩ |
      ⟨closed, clock, wallClock, same⟩ <;> rw [same] <;>
      exact ⟨skipped, positive, ahead, answered, submitted⟩
  | reschedule schedule => exact ⟨skipped, positive, ahead, answered, submitted⟩
  | @collect result rest _ => cases result <;> exact ⟨skipped, positive, ahead, answered, submitted⟩
  | @submit prepared shown following =>
    rcases submitPreparedBatch_cases { self with readyBatches := self.readyBatches.pop } prepared with
      ⟨skips, _⟩ | ⟨_, _, _, _, _, same⟩ | ⟨_, _, _, _, _, _, same⟩ | ⟨_, receipt, _, _, _, _, _, same⟩
    · exact absurd (following ▸ skips) kept
    · rw [same] at clean
      simp at clean
    · rw [same] at clean
      simp at clean
    · have number := encoded.ready_number (PriorityQueue.peek_mem shown)
      rw [same]
      refine ⟨skipped, Nat.succ_pos _, ?_, ?_, ?_⟩
      · simp only [Checkpoint.touch_lastBatchSubmitted,
          Checkpoint.recordBatchSubmitted_lastBatchSubmitted]
        omega
      · intro entry member
        rcases List.mem_append.mp member with old | new
        · exact answered entry old
        · rw [List.mem_singleton.mp new]
          rfl
      · have last : 1 + (self.nextSubmissionNumber - 1) = self.nextSubmissionNumber := by omega
        have grown : self.nextSubmissionNumber + 1 - 1 = self.nextSubmissionNumber - 1 + 1 := by omega
        simp only [submittedNumbers, List.filter_append, List.map_append] at submitted ⊢
        rw [submitted, grown, List.range'_1_concat, last]
        simp [Except.isOk, Except.toBool, number, following]
  | @accumulate block rest _ => exact ⟨skipped, positive, ahead, answered, submitted⟩
  | cut count => exact ⟨skipped, positive, ahead, answered, submitted⟩

/-- Ordered as long as no fault was recorded, on top of the bookkeeping. -/
structure Orderly (sequencer : Sequencer Block Sink Store) : Prop where
  ledger : sequencer.Ledger
  ordered : sequencer.faults = [] → sequencer.Ordered

theorem Orderly.step {self next : Sequencer Block Sink Store} (step : Step self next)
    (orderly : self.Orderly) : next.Orderly :=
  ⟨orderly.ledger.step step, fun clean =>
    (orderly.ordered (faults_mono step clean)).step step orderly.ledger.encoded clean⟩

omit [BatchSink Sink] [CheckpointStore Store] in
/-- Nothing in the order of the batches depends on what the sink does with them. -/
theorem Orderly.onSink {self : Sequencer Block Sink Store} (orderly : self.Orderly) (batchSink : Sink) :
    Orderly { self with batchSink } := by
  refine ⟨orderly.ledger.onSink batchSink, fun clean => ?_⟩
  obtain ⟨skipped, positive, ahead, answered, submitted⟩ := orderly.ordered clean
  exact ⟨skipped, positive, ahead, answered, submitted⟩

theorem Orderly.input {self : Sequencer Block Sink Store} (input : Input Block)
    (ahead : self.restartsAhead input) (orderly : self.Orderly) : (self.step input).Orderly := by
  cases input with
  | environment event => exact orderly.step (.environment self event)
  | tick schedule rounds =>
    exact Runs.invariant_steps Orderly (fun _ _ => Orderly.step)
      (step_steps self (.tick schedule rounds) nofun) orderly
  | resume checkpoint =>
    refine ⟨orderly.ledger.resume checkpoint, fun clean => ?_⟩
    obtain ⟨skipped, positive, _, answered, submitted⟩ := orderly.ordered clean
    exact ⟨skipped, positive, ahead, answered, submitted⟩

omit [BatchSink Sink] in
theorem Launched.orderly {start : Sequencer Block Sink Store} (launched : start.Launched)
    (fresh : start.checkpoint.lastBatchSubmitted = 0) : start.Orderly := by
  refine ⟨launched.ledger, fun _ => ?_⟩
  obtain ⟨_, submission, _, _, _, _, _, _, _, submissions, skipped, _⟩ := launched.start
  exact ⟨skipped, by omega, by omega, by simp [submissions],
    by simp [submittedNumbers, submissions, submission]⟩

theorem Launched.orderly_run {start : Sequencer Block Sink Store} (launched : start.Launched)
    (fresh : start.checkpoint.lastBatchSubmitted = 0) {inputs : List (Input Block)}
    (ahead : Runs.Guarded step restartsAhead start inputs) : (start.run inputs).Orderly :=
  Runs.invariant_guarded Orderly (fun _ input => Orderly.input input) ahead (launched.orderly fresh)

theorem restartsAhead_of_lifetime {inputs : List (Input Block)}
    (lifetime : ∀ checkpoint, .resume checkpoint ∉ inputs) (start : Sequencer Block Sink Store) :
    Runs.Guarded step restartsAhead start inputs :=
  Runs.guarded_of_forall (fun state input member => by
    cases input with
    | environment event => trivial
    | tick schedule rounds => trivial
    | resume checkpoint => exact absurd member (lifetime checkpoint)) start

end Steps

theorem Ordered.submissions_all {self : Sequencer Block Sink Store} (ordered : self.Ordered) :
    self.submissions.map (·.1.batchNumber) = self.submittedNumbers := by
  unfold submittedNumbers
  rw [List.filter_eq_self.mpr ordered.answered]

/-- What is held is what was numbered and not submitted yet. -/
theorem Ordered.held {self : Sequencer Block Sink Store} (ordered : self.Ordered)
    (cut : self.CutInOrder) (accounted : self.Accounted) (clean : self.faults = []) :
    self.nextSubmissionNumber ≤ self.nextBatchNumber ∧
      self.heldNumbers.Perm (List.range' self.nextSubmissionNumber
        (self.nextBatchNumber - self.nextSubmissionNumber)) := by
  have placed : (self.heldNumbers ++ List.range' 1 (self.nextSubmissionNumber - 1)).Perm
      (List.range' 1 self.spawned.length) := by
    have all := accounted
    rw [Accounted, ordered.skipped, droppedNumbers, clean, ordered.submitted, cut.numbers] at all
    simpa using all
  have positive := ordered.positive
  have next := cut.next
  have count := placed.length_eq
  simp only [List.length_append, List.length_range'] at count
  refine ⟨by omega, ?_⟩
  have split : List.range' 1 self.spawned.length =
      List.range' 1 (self.nextSubmissionNumber - 1) ++ List.range' self.nextSubmissionNumber
        (self.nextBatchNumber - self.nextSubmissionNumber) := by
    rw [show self.spawned.length = (self.nextSubmissionNumber - 1) +
      (self.nextBatchNumber - self.nextSubmissionNumber) by omega, ← List.range'_append]
    congr 2
    omega
  rw [split] at placed
  exact (List.perm_append_right_iff _).mp (placed.trans List.perm_append_comm)

/-- In number order, the blocks submitted and then those held are all blocks cut so far. -/
theorem Ordered.submitted_held {self : Sequencer Block Sink Store} (ordered : self.Ordered)
    (cut : self.CutInOrder) (accounted : self.Accounted) (clean : self.faults = []) :
    self.submittedBlocks ++ self.heldBlocks = self.spawned.flatMap (·.blocks) := by
  obtain ⟨below, held⟩ := ordered.held cut accounted clean
  have sorted : self.heldNumbers.insertionSort (· ≤ ·) = List.range' self.nextSubmissionNumber
      (self.nextBatchNumber - self.nextSubmissionNumber) :=
    ((List.perm_insertionSort _ _).trans held).eq_of_pairwise' (List.pairwise_insertionSort _ _)
      List.pairwise_le_range'
  have positive := ordered.positive
  have next := cut.next
  rw [submittedBlocks, heldBlocks, sorted, ordered.submitted, ← List.flatMap_append, ← cut.cut_blocks]
  congr 1
  rw [show self.spawned.length = (self.nextSubmissionNumber - 1) +
    (self.nextBatchNumber - self.nextSubmissionNumber) by omega, ← List.range'_append]
  congr 2
  omega

section ExactlyOnce

variable [BlockResponse Block Tx] [BlockJson Block] [BatchSink Sink] [CheckpointStore Store]

/-- Exactly once and in order: whatever the order in which the workers end, the
sink is handed batches 1, 2, 3, … and no block is lost, repeated or moved. -/
theorem submits_in_order_exactly_once {start : Sequencer Block Sink Store}
    (launched : start.Launched) (fresh : start.checkpoint.lastBatchSubmitted = 0)
    (inputs : List (Input Block)) (lifetime : ∀ checkpoint, .resume checkpoint ∉ inputs)
    (clean : (start.run inputs).faults = []) :
    (start.run inputs).submissions.map (·.1.batchNumber) =
        List.range' 1 (start.run inputs).submissions.length ∧
      (∀ entry ∈ (start.run inputs).submissions, entry.2.isOk = true) ∧
      (start.run inputs).Encoded ∧
      (start.run inputs).submittedBlocks ++ (start.run inputs).heldBlocks ++
        (start.run inputs).pendingBlocks ++ (start.run inputs).blockRx.queue =
        (start.run inputs).sent := by
  obtain ⟨⟨cut, encoded, accounted⟩, ordered⟩ :=
    launched.orderly_run fresh (restartsAhead_of_lifetime lifetime start)
  have ordered := ordered clean
  refine ⟨?_, ordered.answered, encoded, ?_⟩
  · have numbers := ordered.submissions_all
    have count := congrArg List.length (numbers.trans ordered.submitted)
    simp only [List.length_map, List.length_range'] at count
    rw [numbers, ordered.submitted, count]
  · rw [ordered.submitted_held cut accounted clean, ← cut.cut, ← cut.arrived]

/-- Two batches of one block whose workers end in the opposite order. -/
def reversedWorkers : List (Input UInt8) :=
  [.environment (.blockSent 7), .tick [] 0, .environment (.blockSent 8), .tick [] 0,
   .environment (.workerDone 1 none), .tick [] 0, .environment (.workerDone 0 none), .tick [] 0]

/-- A sequencer that cuts every block into a batch of its own. -/
def singleBlockBatches (sink : Sink) (store : Store) (checkpoint : Checkpoint) :
    Sequencer UInt8 Sink Store :=
  startingFrom checkpoint sink Reference.noop { maxBlocksPerBatch := 1, minBatchSize := 1 }
    (some "checkpoint") { queue := [] } store 0

open Reference in
theorem reversedWorkers_submitted_in_order :
    let reached := (singleBlockBatches InMemoryBatchQueue.empty (Files.mk []) .fresh).run reversedWorkers
    reached.submissions.map (·.1.batchNumber) = [1, 2] ∧
      reached.submittedBlocks ++ reached.heldBlocks ++ reached.pendingBlocks ++
        reached.blockRx.queue = [7, 8] := by
  have launched : (singleBlockBatches InMemoryBatchQueue.empty (Files.mk []) .fresh).Launched :=
    .startingFrom rfl
  have result := submits_in_order_exactly_once launched rfl reversedWorkers
    (by simp [reversedWorkers]) (by decide)
  exact ⟨result.1, result.2.2.2⟩

end ExactlyOnce

end Montana.Roles.Sequencer
