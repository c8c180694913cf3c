import Mathlib.Data.List.Perm.Basic
import Montana.Lib.Runs
import Montana.Roles.SequencerStep

/-! Where every block and every batch number of a sequencer is. These facts hold
in all runs, with or without failures, skipped batches and restarts. -/

namespace Montana.Roles.Sequencer

open scoped List

variable {Block Sink Store Tx : Type}

def resultNumber : Except String PreparedBatch → Option Nat
  | .ok prepared => some prepared.batchNumber
  | .error _ => none

/-- The batches with a worker, or with a result that was not collected yet. -/
def inFlightNumbers (self : Sequencer Block Sink Store) : List Nat :=
  self.workers.map (·.batchNumber) ++ self.preparedRx.queue.filterMap resultNumber

def readyNumbers (self : Sequencer Block Sink Store) : List Nat :=
  self.readyBatches.items.map (·.batchNumber)

def heldNumbers (self : Sequencer Block Sink Store) : List Nat :=
  self.inFlightNumbers ++ self.readyNumbers

/-- The batches for which `submit` returned `Ok`, in the order of the calls. -/
def submittedNumbers (self : Sequencer Block Sink Store) : List Nat :=
  (self.submissions.filter (·.2.isOk)).map (·.1.batchNumber)

/-- The batch that a fault removed without a submission. -/
def Fault.dropped : Fault → Option Nat
  | .worker batchNumber => some batchNumber
  | .sink batchNumber => some batchNumber
  | .save _ => none

def droppedNumbers (self : Sequencer Block Sink Store) : List Nat :=
  self.faults.filterMap Fault.dropped

/-- The blocks that were cut into the batch of this number. -/
def blocksOf (self : Sequencer Block Sink Store) (batchNumber : Nat) : List Block :=
  ((self.spawned.find? (·.batchNumber = batchNumber)).map (·.blocks)).getD []

def submittedBlocks (self : Sequencer Block Sink Store) : List Block :=
  self.submittedNumbers.flatMap self.blocksOf

/-- The blocks in flight or ready, in batch-number order. -/
def heldBlocks (self : Sequencer Block Sink Store) : List Block :=
  (self.heldNumbers.insertionSort (· ≤ ·)).flatMap self.blocksOf

/-- Blocks are received in order, batches cut from them in order, numbers given in order. -/
structure CutInOrder (sequencer : Sequencer Block Sink Store) : Prop where
  next : sequencer.nextBatchNumber = sequencer.spawned.length + 1
  numbers : sequencer.spawned.map (·.batchNumber) = List.range' 1 sequencer.spawned.length
  cut : sequencer.received = sequencer.spawned.flatMap (·.blocks) ++ sequencer.pendingBlocks
  arrived : sequencer.sent = sequencer.received ++ sequencer.blockRx.queue

/-- Every number given out is in exactly one place. -/
def Accounted (self : Sequencer Block Sink Store) : Prop :=
  (self.heldNumbers ++ self.submittedNumbers ++ self.skipped ++ self.droppedNumbers).Perm
    (self.spawned.map (·.batchNumber))

theorem tryRecv_ok {Item : Type} {receiver : Receiver Item} {item : Item} {rest : Receiver Item}
    (arrived : receiver.tryRecv = .ok item rest) : receiver.queue = item :: rest.queue := by
  unfold Receiver.tryRecv at arrived
  split at arrived
  · rename_i filled
    cases arrived
    exact filled
  · split at arrived <;> cases arrived

section Cases

variable [BlockResponse Block Tx] [BlockJson Block] [BatchSink Sink] [CheckpointStore Store]

omit [BatchSink Sink] [CheckpointStore Store] in
/-- The environment sends a block, ends a worker, or changes nothing the ledger sees. -/
theorem apply_cases (self : Sequencer Block Sink Store) (event : Interference Block) :
    (∃ block, self.apply event = { self with
        blockRx := { self.blockRx with queue := self.blockRx.queue ++ [block] }
        sent := self.sent ++ [block] }) ∨
    (∃ index worker result, self.workers[index]? = some worker ∧
      ((∃ fault, result = .error fault) ∨ result = prepareBatchSync self.compressor worker) ∧
      self.apply event = self.finishWorker index worker result) ∨
    (∃ closed clock wallClock, self.apply event = { self with
        blockRx := { self.blockRx with closed }, clock, wallClock }) := by
  cases event with
  | blockSent block =>
    simp only [apply]
    split
    · exact .inr (.inr ⟨_, _, _, rfl⟩)
    · exact .inl ⟨block, rfl⟩
  | senderDropped => exact .inr (.inr ⟨true, _, _, rfl⟩)
  | workerDone index fault =>
    simp only [apply]
    split
    · exact .inr (.inr ⟨_, _, _, rfl⟩)
    · rename_i worker running
      refine .inr (.inl ⟨index, worker, _, running, ?_, rfl⟩)
      cases fault with
      | none => exact .inr rfl
      | some e => exact .inl ⟨e, rfl⟩
  | clockAdvanced elapsed => exact .inr (.inr ⟨_, _, _, rfl⟩)
  | wallClockSet unixSeconds => exact .inr (.inr ⟨_, _, _, rfl⟩)

omit [BlockResponse Block Tx] [BlockJson Block] [BatchSink Sink] in
theorem saveCheckpoint_frame {self after : Sequencer Block Sink Store} {result}
    (saved : self.saveCheckpoint = (result, after)) : ∃ store, after = { self with store } := by
  cases saved
  exact ⟨_, rfl⟩

omit [BlockResponse Block Tx] [BlockJson Block] in
/-- The four ends of `submit_prepared_batch`: skipped, refused by the sink,
submitted but not saved, submitted and saved. -/
theorem submitPreparedBatch_cases (self : Sequencer Block Sink Store) (prepared : PreparedBatch) :
    (self.checkpoint.shouldSkipBatch prepared.batchNumber = true ∧
      (self.submitPreparedBatch prepared).2 = { self with
        nextSubmissionNumber := self.nextSubmissionNumber + 1
        skipped := self.skipped ++ [prepared.batchNumber] }) ∨
    (self.checkpoint.shouldSkipBatch prepared.batchNumber = false ∧
      ∃ e batchSink eventTx,
        BatchSink.submit self.batchSink prepared.compressedBatch = (.error e, batchSink) ∧
        (self.submitPreparedBatch prepared).2 = { self with
        batchSink, eventTx
        submissions := self.submissions ++ [(prepared.compressedBatch, Except.error e)]
        faults := self.faults ++ [Fault.sink prepared.batchNumber] }) ∨
    (self.checkpoint.shouldSkipBatch prepared.batchNumber = false ∧
      ∃ receipt batchSink eventTx store,
        BatchSink.submit self.batchSink prepared.compressedBatch = (.ok receipt, batchSink) ∧
        (self.submitPreparedBatch prepared).2 = { self with
        batchSink, eventTx, store
        submissions := self.submissions ++ [(prepared.compressedBatch, Except.ok receipt)]
        checkpoint := (self.checkpoint.recordBatchSubmitted prepared.batchNumber).touch self.wallClock
        faults := self.faults ++ [Fault.save prepared.batchNumber] }) ∨
    (self.checkpoint.shouldSkipBatch prepared.batchNumber = false ∧
      ∃ receipt batchSink eventTx batchCallback store,
        BatchSink.submit self.batchSink prepared.compressedBatch = (.ok receipt, batchSink) ∧
        (self.submitPreparedBatch prepared).2 = { self with
          batchSink, eventTx, batchCallback, store
          submissions := self.submissions ++ [(prepared.compressedBatch, Except.ok receipt)]
          checkpoint :=
            (self.checkpoint.recordBatchSubmitted prepared.batchNumber).touch self.wallClock
          nextSubmissionNumber := self.nextSubmissionNumber + 1
          lastSubmission := self.clock }) := by
  unfold submitPreparedBatch
  simp only []
  split
  · rename_i skips
    exact .inl ⟨skips, rfl⟩
  · rename_i submits
    have submits := Bool.eq_false_iff.mpr submits
    refine .inr ?_
    split
    · rename_i e batchSink refused
      exact .inl ⟨submits, e, batchSink, _, refused, rfl⟩
    · rename_i receipt batchSink taken
      refine .inr ?_
      split <;> rename_i saved
      · obtain ⟨store, same⟩ := saveCheckpoint_frame saved
        subst same
        exact .inl ⟨submits, receipt, batchSink, _, store, taken, rfl⟩
      · obtain ⟨store, same⟩ := saveCheckpoint_frame saved
        subst same
        exact .inr ⟨submits, receipt, batchSink, _, _, store, taken, rfl⟩

theorem CutInOrder.step {self next : Sequencer Block Sink Store} (step : Step self next)
    (ordered : self.CutInOrder) : next.CutInOrder := by
  obtain ⟨following, numbers, cut, arrived⟩ := ordered
  cases step with
  | environment event =>
    rcases apply_cases self event with ⟨block, same⟩ | ⟨index, worker, result, _, _, same⟩ |
      ⟨closed, clock, wallClock, same⟩ <;> rw [same]
    · exact ⟨following, numbers, cut, by simp [arrived]⟩
    · exact ⟨following, numbers, cut, arrived⟩
    · exact ⟨following, numbers, cut, arrived⟩
  | reschedule schedule => exact ⟨following, numbers, cut, arrived⟩
  | @collect result rest _ => cases result <;> exact ⟨following, numbers, cut, arrived⟩
  | @submit prepared _ _ =>
    rcases submitPreparedBatch_cases { self with readyBatches := self.readyBatches.pop } prepared with
      ⟨_, same⟩ | ⟨_, _, _, _, _, same⟩ | ⟨_, _, _, _, _, _, same⟩ | ⟨_, _, _, _, _, _, _, same⟩ <;>
      rw [same] <;> exact ⟨following, numbers, cut, arrived⟩
  | @accumulate block rest received =>
    refine ⟨following, numbers, ?_, ?_⟩
    · simp [accumulateBlock, emit, cut]
    · simp [accumulateBlock, emit, arrived, tryRecv_ok received]
  | cut count =>
    refine ⟨?_, ?_, ?_, arrived⟩
    · simp [cutBatch, spawnPreparationWorker, following]
    · simp [cutBatch, spawnPreparationWorker, preparationWorker, numbers, following,
        List.range'_1_concat, Nat.add_comm 1]
    · simp [cutBatch, spawnPreparationWorker, preparationWorker, cut]

/-- `prepared` is what its worker makes of the blocks that were cut for it. -/
def Encodes (self : Sequencer Block Sink Store) (prepared : PreparedBatch) : Prop :=
  ∃ worker ∈ self.spawned, prepareBatchSync self.compressor worker = .ok prepared

/-- Nothing is in flight, ready or submitted but what a spawned worker prepared. -/
structure Encoded (sequencer : Sequencer Block Sink Store) : Prop where
  shaped : ∀ worker ∈ sequencer.spawned, worker = preparationWorker worker.blocks worker.batchNumber
  workers : ∀ worker ∈ sequencer.workers, worker ∈ sequencer.spawned
  results : ∀ prepared, .ok prepared ∈ sequencer.preparedRx.queue → sequencer.Encodes prepared
  ready : ∀ prepared ∈ sequencer.readyBatches.items, sequencer.Encodes prepared
  submissions : ∀ entry ∈ sequencer.submissions,
    ∃ prepared, sequencer.Encodes prepared ∧ prepared.compressedBatch = entry.1

omit [BlockResponse Block Tx] [BatchSink Sink] [CheckpointStore Store] in
/-- The number that a batch has in the queue and on L1 is the number of its worker. -/
theorem prepareBatchSync_number {compressor : Compressor} {worker : PreparationWorker Block}
    {prepared : PreparedBatch} (success : prepareBatchSync compressor worker = .ok prepared) :
    prepared.batchNumber = worker.batchNumber ∧
      prepared.compressedBatch.batchNumber = worker.batchNumber := by
  obtain ⟨_, _, _, _, rfl⟩ := prepareBatchSync_ok success
  exact ⟨rfl, rfl⟩

theorem Encoded.step {self next : Sequencer Block Sink Store} (step : Step self next)
    (encoded : self.Encoded) : next.Encoded := by
  obtain ⟨shaped, workers, results, ready, submissions⟩ := encoded
  cases step with
  | environment event =>
    rcases apply_cases self event with ⟨block, same⟩ | ⟨index, worker, result, running, sort, same⟩ |
      ⟨closed, clock, wallClock, same⟩ <;> rw [same]
    · exact ⟨shaped, workers, results, ready, submissions⟩
    · refine ⟨shaped, fun other member => workers other (List.mem_of_mem_eraseIdx member), ?_,
        ready, submissions⟩
      intro prepared member
      rcases List.mem_append.mp member with old | new
      · exact results prepared old
      · have finished := List.mem_singleton.mp new
        rcases sort with ⟨fault, failed⟩ | produced
        · rw [failed] at finished
          cases finished
        · exact ⟨worker, workers worker (List.mem_of_getElem? running), produced.symm.trans finished.symm⟩
    · exact ⟨shaped, workers, results, ready, submissions⟩
  | reschedule schedule => exact ⟨shaped, workers, results, ready, submissions⟩
  | @collect result rest arrived =>
    have popped := tryRecv_ok arrived
    have remaining : ∀ prepared, .ok prepared ∈ rest.queue → self.Encodes prepared :=
      fun prepared member => results prepared (by rw [popped]; exact List.mem_cons_of_mem _ member)
    cases result with
    | error e => exact ⟨shaped, workers, remaining, ready, submissions⟩
    | ok collected =>
      refine ⟨shaped, workers, remaining, ?_, submissions⟩
      intro prepared member
      rcases List.mem_cons.mp ((self.readyBatches.push_perm collected).mem_iff.mp member) with new | old
      · exact results prepared (by rw [popped, new]; exact List.mem_cons_self)
      · exact ready prepared old
  | @submit prepared shown _ =>
    have remaining : ∀ other ∈ self.readyBatches.pop.items, self.Encodes other :=
      fun other member => ready other (List.mem_of_mem_tail member)
    have extended (answer : Except SinkError SubmissionReceipt) :
        ∀ entry ∈ self.submissions ++ [(prepared.compressedBatch, answer)],
          ∃ prepared, self.Encodes prepared ∧ prepared.compressedBatch = entry.1 := by
      intro entry member
      rcases List.mem_append.mp member with old | new
      · exact submissions entry old
      · rw [List.mem_singleton.mp new]
        exact ⟨prepared, ready prepared (PriorityQueue.peek_mem shown), rfl⟩
    rcases submitPreparedBatch_cases { self with readyBatches := self.readyBatches.pop } prepared with
      ⟨_, same⟩ | ⟨_, e, _, _, _, same⟩ | ⟨_, receipt, _, _, _, _, same⟩ |
      ⟨_, receipt, _, _, _, _, _, same⟩ <;>
      rw [same]
    · exact ⟨shaped, workers, results, remaining, submissions⟩
    · exact ⟨shaped, workers, results, remaining, extended (.error e)⟩
    · exact ⟨shaped, workers, results, remaining, extended (.ok receipt)⟩
    · exact ⟨shaped, workers, results, remaining, extended (.ok receipt)⟩
  | @accumulate block rest _ => exact ⟨shaped, workers, results, ready, submissions⟩
  | cut count =>
    have grown (prepared : PreparedBatch) (old : self.Encodes prepared) :
        (self.cutBatch count).Encodes prepared := by
      obtain ⟨worker, member, success⟩ := old
      exact ⟨worker, List.mem_append_left _ member, success⟩
    refine ⟨?_, ?_, fun prepared member => grown _ (results prepared member),
      fun prepared member => grown _ (ready prepared member), ?_⟩
    · intro worker member
      rcases List.mem_append.mp member with old | new
      · exact shaped worker old
      · rw [List.mem_singleton.mp new]
        rfl
    · intro worker member
      rcases List.mem_append.mp member with old | new
      · exact List.mem_append_left _ (workers worker old)
      · exact List.mem_append_right _ new
    · intro entry member
      obtain ⟨prepared, encodes, same⟩ := submissions entry member
      exact ⟨prepared, grown _ encodes, same⟩

omit [BatchSink Sink] [CheckpointStore Store] in
theorem Encoded.ready_number {self : Sequencer Block Sink Store} {prepared : PreparedBatch}
    (encoded : self.Encoded) (member : prepared ∈ self.readyBatches.items) :
    prepared.compressedBatch.batchNumber = prepared.batchNumber := by
  obtain ⟨worker, _, success⟩ := encoded.ready prepared member
  have numbers := prepareBatchSync_number success
  exact numbers.2.trans numbers.1.symm

omit [BlockResponse Block Tx] [BlockJson Block] [BatchSink Sink] [CheckpointStore Store] in
private theorem workers_perm {self : Sequencer Block Sink Store} {index : Nat}
    {worker : PreparationWorker Block} (running : self.workers[index]? = some worker) :
    (self.workers.map (·.batchNumber)).Perm
      (worker.batchNumber :: (self.workers.eraseIdx index).map (·.batchNumber)) := by
  obtain ⟨inside, found⟩ := List.getElem?_eq_some_iff.mp running
  subst found
  exact ((List.getElem_cons_eraseIdx_perm inside).symm).map _

theorem Accounted.step {self next : Sequencer Block Sink Store} (step : Step self next)
    (encoded : self.Encoded) (accounted : self.Accounted) : next.Accounted := by
  have places := List.perm_iff_count.mp accounted
  simp only [heldNumbers, inFlightNumbers, readyNumbers, submittedNumbers, droppedNumbers,
    List.count_append] at places
  cases step with
  | environment event =>
    rcases apply_cases self event with ⟨block, same⟩ | ⟨index, worker, result, running, sort, same⟩ |
      ⟨closed, clock, wallClock, same⟩ <;> rw [same]
    · exact accounted
    · -- The number of the worker moves to its result, or to the faults.
      refine List.perm_iff_count.mpr fun number => ?_
      have before := places number
      have taken := (workers_perm running).count_eq number
      simp only [List.count_cons, beq_iff_eq] at taken
      cases result with
      | error e =>
        simp [heldNumbers, inFlightNumbers, readyNumbers, submittedNumbers, droppedNumbers,
          finishWorker, resultNumber, Fault.dropped, List.count_cons, List.filterMap_cons]
        omega
      | ok prepared =>
        have same : prepared.batchNumber = worker.batchNumber := by
          rcases sort with ⟨fault, failed⟩ | produced
          · cases failed
          · exact (prepareBatchSync_number produced.symm).1
        simp [heldNumbers, inFlightNumbers, readyNumbers, submittedNumbers, droppedNumbers,
          finishWorker, resultNumber, List.count_cons, same]
        omega
    · exact accounted
  | reschedule schedule => exact accounted
  | @collect result rest arrived =>
    refine List.perm_iff_count.mpr fun number => ?_
    have before := places number
    rw [tryRecv_ok arrived] at before
    cases result with
    | error e =>
      simp [heldNumbers, inFlightNumbers, readyNumbers, submittedNumbers, droppedNumbers,
        collectResult, resultNumber, List.filterMap_cons] at before ⊢
      omega
    | ok prepared =>
      have pushed := ((self.readyBatches.push_perm prepared).map (·.batchNumber)).count_eq number
      simp [heldNumbers, inFlightNumbers, readyNumbers, submittedNumbers, droppedNumbers,
        collectResult, resultNumber, List.count_cons] at before pushed ⊢
      omega
  | @submit prepared shown _ =>
    have items := PriorityQueue.items_of_peek shown
    have number := encoded.ready_number (PriorityQueue.peek_mem shown)
    rcases submitPreparedBatch_cases { self with readyBatches := self.readyBatches.pop } prepared with
      ⟨_, same⟩ | ⟨_, e, _, _, _, same⟩ | ⟨_, receipt, _, _, _, _, same⟩ |
      ⟨_, receipt, _, _, _, _, _, same⟩ <;>
      rw [same] <;> refine List.perm_iff_count.mpr fun other => ?_ <;>
      have before := places other <;> rw [items] at before <;>
      simp [heldNumbers, inFlightNumbers, readyNumbers, submittedNumbers, droppedNumbers,
        Fault.dropped, Except.isOk, Except.toBool, List.count_cons, List.filterMap_cons, number]
        at before ⊢ <;> omega
  | @accumulate block rest _ => exact accounted
  | cut count =>
    refine List.perm_iff_count.mpr fun number => ?_
    have before := places number
    simp [heldNumbers, inFlightNumbers, readyNumbers, submittedNumbers, droppedNumbers, cutBatch,
      spawnPreparationWorker, preparationWorker, List.count_cons] at before ⊢
    omega

/-- The whole bookkeeping, as every run keeps it. -/
structure Ledger (sequencer : Sequencer Block Sink Store) : Prop where
  cut : sequencer.CutInOrder
  encoded : sequencer.Encoded
  accounted : sequencer.Accounted

theorem Ledger.step {self next : Sequencer Block Sink Store} (step : Step self next)
    (ledger : self.Ledger) : next.Ledger :=
  ⟨ledger.cut.step step, ledger.encoded.step step, ledger.accounted.step step ledger.encoded⟩

omit [BatchSink Sink] [CheckpointStore Store] in
theorem Ledger.resume {self : Sequencer Block Sink Store} (ledger : self.Ledger)
    (checkpoint : Checkpoint) : (self.resume checkpoint).Ledger := by
  obtain ⟨⟨following, numbers, cut, arrived⟩, ⟨shaped, workers, results, ready, submissions⟩,
    accounted⟩ := ledger
  exact ⟨⟨following, numbers, cut, arrived⟩, ⟨shaped, workers, results, ready, submissions⟩,
    accounted⟩

omit [BatchSink Sink] [CheckpointStore Store] in
/-- Nothing in the books depends on what the sink does with the batches. -/
theorem Ledger.onSink {self : Sequencer Block Sink Store} (ledger : self.Ledger) (batchSink : Sink) :
    Ledger { self with batchSink } := by
  obtain ⟨⟨following, numbers, cut, arrived⟩, ⟨shaped, workers, results, ready, submissions⟩,
    accounted⟩ := ledger
  exact ⟨⟨following, numbers, cut, arrived⟩, ⟨shaped, workers, results, ready, submissions⟩,
    accounted⟩

theorem Ledger.input {self : Sequencer Block Sink Store} (ledger : self.Ledger)
    (input : Input Block) : (self.step input).Ledger := by
  cases input with
  | environment event => exact ledger.step (.environment self event)
  | tick schedule rounds =>
    exact Runs.invariant_steps Ledger (fun _ _ => Ledger.step)
      (step_steps self (.tick schedule rounds) nofun) ledger
  | resume checkpoint => exact ledger.resume checkpoint

/-- What `Sequencer::new` gives out, with any of its observers attached. -/
inductive Launched : Sequencer Block Sink Store → Prop where
  | new {batchSink : Sink} {compressor batcherConfig checkpointPath} {blockRx : Receiver Block}
      {store : Store} {now} {self : Sequencer Block Sink Store}
      (made : Sequencer.new batchSink compressor batcherConfig checkpointPath blockRx store now =
        .ok self) : Launched self
  | withExecutionCallback {self : Sequencer Block Sink Store} (launched : Launched self) :
      Launched self.withExecutionCallback
  | withBatchCallback {self : Sequencer Block Sink Store} (launched : Launched self) :
      Launched self.withBatchCallback
  | withEventSender {self : Sequencer Block Sink Store} (launched : Launched self) :
      Launched self.withEventSender

omit [BlockResponse Block Tx] [BlockJson Block] [BatchSink Sink] in
theorem Launched.startingFrom {checkpoint : Checkpoint} {batchSink : Sink} {compressor : Compressor}
    {batcherConfig : BatcherConfig} {checkpointPath : Option String} {blockRx : Receiver Block}
    {store : Store} {now : Nat}
    (loaded : Checkpoint.loadOrFresh store checkpointPath = .ok checkpoint) :
    Launched (Sequencer.startingFrom checkpoint batchSink compressor batcherConfig checkpointPath
      blockRx store now) := by
  have made : Sequencer.new batchSink compressor batcherConfig checkpointPath blockRx store now =
      .ok (Sequencer.startingFrom checkpoint batchSink compressor batcherConfig checkpointPath
        blockRx store now) := by
    simp only [Sequencer.new, loaded]
    rfl
  exact .new made

omit [BlockResponse Block Tx] [BlockJson Block] [BatchSink Sink] in
/-- A launched sequencer has done nothing: its numbering is at the start, its
buffers and its history are empty. -/
theorem Launched.start {self : Sequencer Block Sink Store} (launched : self.Launched) :
    self.nextBatchNumber = 1 ∧ self.nextSubmissionNumber = 1 ∧ self.pendingBlocks = [] ∧
      self.sent = self.blockRx.queue ∧ self.received = [] ∧ self.spawned = [] ∧
      self.workers = [] ∧ self.preparedRx.queue = [] ∧ self.readyBatches.items = [] ∧
      self.submissions = [] ∧ self.skipped = [] ∧ self.faults = [] := by
  induction launched with
  | new made =>
    obtain ⟨checkpoint, rfl⟩ := new_startingFrom made
    exact ⟨rfl, rfl, rfl, rfl, rfl, rfl, rfl, rfl, rfl, rfl, rfl, rfl⟩
  | withExecutionCallback _ ih => exact ih
  | withBatchCallback _ ih => exact ih
  | withEventSender _ ih => exact ih

omit [BatchSink Sink] in
theorem Launched.ledger {self : Sequencer Block Sink Store} (launched : self.Launched) :
    self.Ledger := by
  obtain ⟨next, _, pending, sent, received, spawned, workers, prepared, ready, submissions, skipped,
    faults⟩ := launched.start
  refine ⟨⟨?_, ?_, ?_, ?_⟩, ⟨?_, ?_, ?_, ?_, ?_⟩, ?_⟩
  · simp [next, spawned]
  · simp [spawned]
  · simp [received, spawned, pending]
  · simp [sent, received]
  · simp [spawned]
  · simp [workers]
  · simp [prepared]
  · simp [ready]
  · simp [submissions]
  · simp [Accounted, heldNumbers, inFlightNumbers, readyNumbers, submittedNumbers, droppedNumbers,
      workers, prepared, ready, submissions, skipped, faults, spawned]

theorem Launched.ledger_run {self : Sequencer Block Sink Store} (launched : self.Launched)
    (inputs : List (Input Block)) : (self.run inputs).Ledger :=
  Runs.invariant_run Ledger inputs (fun _ input _ ledger => ledger.input input) launched.ledger

end Cases

/-- Every block received is in a batch that the sink took, or still held. -/
def Conserved (self : Sequencer Block Sink Store) : Prop :=
  self.received.Subperm (self.submittedBlocks ++ self.heldBlocks ++ self.pendingBlocks)

/-- The blocks of batches that were skipped, or that a fault dropped. -/
def lostBlocks (self : Sequencer Block Sink Store) : List Block :=
  (self.skipped ++ self.droppedNumbers).flatMap self.blocksOf

theorem CutInOrder.nodup {self : Sequencer Block Sink Store} (ordered : self.CutInOrder) :
    (self.spawned.map (·.batchNumber)).Nodup := by
  rw [ordered.numbers]
  exact List.nodup_range'

theorem CutInOrder.blocksOf_worker {self : Sequencer Block Sink Store} (ordered : self.CutInOrder)
    {worker : PreparationWorker Block} (member : worker ∈ self.spawned) :
    self.blocksOf worker.batchNumber = worker.blocks := by
  unfold blocksOf
  cases found : self.spawned.find? (·.batchNumber = worker.batchNumber) with
  | none =>
    have absent := List.find?_eq_none.mp found worker member
    simp at absent
  | some other =>
    have number : other.batchNumber = worker.batchNumber := by simpa using List.find?_some found
    have same := List.inj_on_of_nodup_map ordered.nodup (List.mem_of_find?_eq_some found) member number
    rw [same]
    rfl

/-- The numbers in order give the blocks of the spawned workers in order. -/
theorem CutInOrder.cut_blocks {self : Sequencer Block Sink Store} (ordered : self.CutInOrder) :
    (List.range' 1 self.spawned.length).flatMap self.blocksOf =
      self.spawned.flatMap (·.blocks) := by
  rw [← ordered.numbers, List.flatMap_map]
  exact List.flatMap_congr fun worker member => ordered.blocksOf_worker member

private theorem heldBlocks_perm (self : Sequencer Block Sink Store) :
    self.heldBlocks.Perm (self.heldNumbers.flatMap self.blocksOf) :=
  (List.perm_insertionSort _ _).flatMap_right _

/-- Every block received is submitted, held, pending or lost, as often as it was received. -/
theorem received_perm {self : Sequencer Block Sink Store} (ordered : self.CutInOrder)
    (accounted : self.Accounted) :
    self.received.Perm
      (self.submittedBlocks ++ self.heldBlocks ++ self.pendingBlocks ++ self.lostBlocks) := by
  have placed := accounted.flatMap_right self.blocksOf
  rw [ordered.numbers, ordered.cut_blocks, List.append_assoc _ self.skipped, List.flatMap_append,
    List.flatMap_append] at placed
  have held := heldBlocks_perm self
  have taken : (self.heldNumbers.flatMap self.blocksOf ++ self.submittedBlocks).Perm
      (self.submittedBlocks ++ self.heldBlocks) :=
    List.perm_append_comm.trans (held.symm.append_left _)
  rw [ordered.cut]
  calc self.spawned.flatMap (·.blocks) ++ self.pendingBlocks
    _ ~ self.heldNumbers.flatMap self.blocksOf ++ self.submittedBlocks ++ self.lostBlocks ++
          self.pendingBlocks := placed.symm.append_right _
    _ ~ self.submittedBlocks ++ self.heldBlocks ++ self.lostBlocks ++ self.pendingBlocks :=
        (taken.append_right _).append_right _
    _ ~ self.submittedBlocks ++ self.heldBlocks ++ self.pendingBlocks ++ self.lostBlocks := by
        rw [List.append_assoc _ self.lostBlocks, List.append_assoc _ self.pendingBlocks]
        exact List.perm_append_comm.append_left _

theorem conserved_iff {self : Sequencer Block Sink Store} (ordered : self.CutInOrder)
    (accounted : self.Accounted) : self.Conserved ↔ self.lostBlocks = [] := by
  have whole := received_perm ordered accounted
  constructor
  · intro conserved
    have short := conserved.length_le
    rw [whole.length_eq, List.length_append] at short
    exact List.eq_nil_of_length_eq_zero (by omega)
  · intro none
    rw [none, List.append_nil] at whole
    exact whole.subperm

end Montana.Roles.Sequencer
