import Montana.Roles.SequencerOrder
import Montana.Roles.ValidatorSoundness

/-! A sequencer and a validator on the two ends of one in-memory queue. -/

namespace Montana.Node

open Roles Vm

/-- Both roles of a node. They share the queue, which is kept on the sequencer's side. -/
structure Pipeline (Block Exec Result SequencerStore ValidatorStore : Type) where
  sequencer : Sequencer Block InMemoryBatchQueue SequencerStore
  validator : Validator Block InMemoryBatchQueue Exec Result ValidatorStore

namespace Pipeline

variable {Block Exec Result SequencerStore ValidatorStore Tx : Type}

inductive Input (Block : Type) where
  | sequencer (input : Sequencer.Input Block)
  | validator (input : Validator.Input)

/-- A restart of a role from another checkpoint. -/
def Input.restarts : Input Block → Bool
  | .sequencer (.resume _) => true
  | .validator (.resume _) => true
  | _ => false

/-- The validator as it reads from the shared queue. -/
def reader (self : Pipeline Block Exec Result SequencerStore ValidatorStore) :
    Validator Block InMemoryBatchQueue Exec Result ValidatorStore :=
  { self.validator with batchSource := self.sequencer.batchSink }

section Queue

variable [BlockResponse Block Tx] [BlockJson Block] [Executor Exec Block Result]
variable [CheckpointStore SequencerStore] [CheckpointStore ValidatorStore]

def step (self : Pipeline Block Exec Result SequencerStore ValidatorStore) :
    Input Block → Pipeline Block Exec Result SequencerStore ValidatorStore
  | .sequencer input => { self with sequencer := self.sequencer.step input }
  | .validator input =>
    let validator := self.reader.step input
    { sequencer := { self.sequencer with batchSink := validator.batchSource }, validator }

def run (self : Pipeline Block Exec Result SequencerStore ValidatorStore)
    (inputs : List (Input Block)) : Pipeline Block Exec Result SequencerStore ValidatorStore :=
  inputs.foldl step self

end Queue

end Pipeline

section Sequencer

variable {Block Store Tx : Type}
variable [BlockResponse Block Tx] [BlockJson Block] [CheckpointStore Store]

/-- What a step of the sequencer adds to the queue is what it records as handed over. -/
theorem step_appends {self next : Sequencer Block InMemoryBatchQueue Store}
    (step : Sequencer.Step self next) :
    next.compressor = self.compressor ∧ ∃ batches,
      next.submissions.map (·.1) = self.submissions.map (·.1) ++ batches ∧
      next.batchSink.batches = self.batchSink.batches ++ batches := by
  cases step with
  | environment event =>
    rcases Sequencer.apply_cases self event with ⟨_, same⟩ | ⟨_, _, _, _, _, same⟩ |
      ⟨_, _, _, same⟩ <;> rw [same] <;> exact ⟨rfl, [], by simp [Sequencer.finishWorker]⟩
  | reschedule schedule => exact ⟨rfl, [], by simp⟩
  | @collect result rest _ => cases result <;> exact ⟨rfl, [], by simp [Sequencer.collectResult]⟩
  | @submit prepared _ _ =>
    rcases Sequencer.submitPreparedBatch_cases { self with readyBatches := self.readyBatches.pop }
      prepared with ⟨_, same⟩ | ⟨_, _, _, _, refused, _⟩ | ⟨_, _, _, _, _, taken, same⟩ |
      ⟨_, _, _, _, _, _, taken, same⟩
    · rw [same]
      exact ⟨rfl, [], by simp⟩
    · cases refused
    · cases taken
      rw [same]
      exact ⟨rfl, [prepared.compressedBatch], by simp⟩
    · cases taken
      rw [same]
      exact ⟨rfl, [prepared.compressedBatch], by simp⟩
  | @accumulate block rest _ =>
    exact ⟨rfl, [], by simp [Sequencer.accumulateBlock, Sequencer.emit]⟩
  | cut count => exact ⟨rfl, [], by simp [Sequencer.cutBatch, Sequencer.spawnPreparationWorker]⟩

/-- In one life from a fresh checkpoint, the checkpoint is right behind the numbering. -/
def Level (self : Sequencer Block InMemoryBatchQueue Store) : Prop :=
  self.faults = [] → self.checkpoint.lastBatchSubmitted + 1 = self.nextSubmissionNumber

theorem Level.step {self next : Sequencer Block InMemoryBatchQueue Store}
    (step : Sequencer.Step self next) (orderly : self.Orderly) (level : Level self) : Level next := by
  intro clean
  have before := Sequencer.faults_mono step clean
  have level := level before
  have ordered := orderly.ordered before
  cases step with
  | environment event =>
    rcases Sequencer.apply_cases self event with ⟨_, same⟩ | ⟨_, _, _, _, _, same⟩ |
      ⟨_, _, _, same⟩ <;> rw [same] <;> exact level
  | reschedule schedule => exact level
  | @collect result rest _ => cases result <;> exact level
  | @submit prepared _ following =>
    rcases Sequencer.submitPreparedBatch_cases { self with readyBatches := self.readyBatches.pop }
      prepared with ⟨skips, _⟩ | ⟨_, _, _, _, _, same⟩ | ⟨_, _, _, _, _, _, same⟩ |
      ⟨_, _, _, _, _, _, _, same⟩
    · exact absurd (following ▸ skips) ordered.next_not_skipped
    · rw [same] at clean
      simp at clean
    · rw [same] at clean
      simp at clean
    · rw [same]
      simp only [Checkpoint.touch_lastBatchSubmitted,
        Checkpoint.recordBatchSubmitted_lastBatchSubmitted]
      omega
  | @accumulate block rest _ => exact level
  | cut count => exact level

end Sequencer

section Agreement

variable {Block Exec Result SequencerStore ValidatorStore Tx : Type}
variable [BlockResponse Block Tx] [BlockJson Block]

/-- The validator has derived the first batches that the sequencer handed over, and
finds the others on the queue. -/
structure Follows (sequencer : Sequencer Block InMemoryBatchQueue SequencerStore)
    (validator : Validator Block InMemoryBatchQueue Exec Result ValidatorStore) : Prop where
  compressor : validator.compressor = sequencer.compressor
  queue : sequencer.submissions.map (·.1) =
    validator.derivations.map (·.batch) ++ validator.batchSource.batches
  derived : validator.checkpoint.lastBatchDerived = validator.derivations.length
  recorded : validator.Recorded

omit [BlockResponse Block Tx] in
/-- A lawful codec reads back what `prepare_batch_sync` made. -/
theorem payload_prepared [LawfulBlockJson Block] {compressor : Compressor}
    (roundtrips : compressor.Roundtrips) {worker : PreparationWorker Block} {prepared : PreparedBatch}
    (success : Sequencer.prepareBatchSync compressor worker = .ok prepared) :
    payload compressor prepared.compressedBatch = some worker.blocks := by
  obtain ⟨batchData, compressedData, written, compressed, rfl⟩ := Sequencer.prepareBatchSync_ok success
  simp only [payload, roundtrips batchData compressedData compressed,
    LawfulBlockJson.roundtrip ⟨worker.blocks⟩ batchData written]

theorem payload_submission [LawfulBlockJson Block] {Sink Store : Type}
    {sequencer : Sequencer Block Sink Store} (orderly : sequencer.Orderly)
    (roundtrips : sequencer.compressor.Roundtrips) {batch : CompressedBatch}
    (submitted : batch ∈ sequencer.submissions.map (·.1)) :
    payload sequencer.compressor batch = some (sequencer.blocksOf batch.batchNumber) := by
  obtain ⟨entry, member, same⟩ := List.mem_map.mp submitted
  obtain ⟨prepared, ⟨worker, spawned, success⟩, compressed⟩ :=
    orderly.ledger.encoded.submissions entry member
  have number := (Sequencer.prepareBatchSync_number success).2
  rw [← same, ← compressed, payload_prepared roundtrips success, number,
    orderly.ledger.cut.blocksOf_worker spawned]

/-- What was derived are the first batches that were handed over, whatever is between
the two roles. -/
structure Derives {Sink Source : Type} (sequencer : Sequencer Block Sink SequencerStore)
    (validator : Validator Block Source Exec Result ValidatorStore) : Prop where
  compressor : validator.compressor = sequencer.compressor
  batches : validator.derivations.map (·.batch) <+: sequencer.submissions.map (·.1)
  derived : validator.checkpoint.lastBatchDerived = validator.derivations.length
  recorded : validator.Recorded

theorem Follows.derives {sequencer : Sequencer Block InMemoryBatchQueue SequencerStore}
    {validator : Validator Block InMemoryBatchQueue Exec Result ValidatorStore}
    (follows : Follows sequencer validator) : Derives sequencer validator :=
  ⟨follows.compressor, follows.queue ▸ List.prefix_append _ _, follows.derived, follows.recorded⟩

section Derives

variable {Sink Source : Type} {sequencer : Sequencer Block Sink SequencerStore}
  {validator : Validator Block Source Exec Result ValidatorStore}

theorem Derives.executed [LawfulBlockJson Block] (derives : Derives sequencer validator)
    (orderly : sequencer.Orderly) (roundtrips : sequencer.compressor.Roundtrips) :
    validator.executions.map (·.block) =
      ((validator.derivations.map (·.batch)).map (·.batchNumber)).flatMap sequencer.blocksOf := by
  obtain ⟨compressor, batches, _, recorded⟩ := derives
  rw [show validator.executions = _ from recorded.covered, List.map_flatMap, List.map_map,
    List.flatMap_map]
  refine List.flatMap_congr fun derivation member => ?_
  have listed := batches.subset (List.mem_map_of_mem member)
  have contained := payload_submission orderly roundtrips listed
  have read := recorded.payloads derivation member
  rw [compressor, contained] at read
  exact (Option.some.inj read).symm

/-- The blocks executed are those of the first batches submitted. -/
theorem Derives.executed_submitted [LawfulBlockJson Block] (derives : Derives sequencer validator)
    (orderly : sequencer.Orderly) (clean : sequencer.faults = [])
    (roundtrips : sequencer.compressor.Roundtrips) :
    validator.executions.map (·.block) <+: sequencer.submittedBlocks := by
  obtain ⟨rest, queue⟩ := derives.batches
  have numbers := congrArg (List.map CompressedBatch.batchNumber) queue
  rw [List.map_append, @List.map_map _ _ _ _ _ sequencer.submissions] at numbers
  rw [derives.executed orderly roundtrips, Sequencer.submittedBlocks,
    ← (orderly.ordered clean).submissions_all]
  show _ <+: (sequencer.submissions.map (CompressedBatch.batchNumber ∘ (·.1))).flatMap _
  rw [← numbers, List.flatMap_append]
  exact List.prefix_append _ _

theorem submittedBlocks_isPrefix (orderly : sequencer.Orderly) (clean : sequencer.faults = []) :
    sequencer.submittedBlocks <+: sequencer.sent := by
  have cut := orderly.ledger.cut
  rw [cut.arrived, cut.cut,
    ← (orderly.ordered clean).submitted_held cut orderly.ledger.accounted clean]
  simp only [List.append_assoc]
  exact List.prefix_append _ _

end Derives

/-- The first batch on the queue is the one after the last derived. -/
theorem Follows.number {sequencer : Sequencer Block InMemoryBatchQueue SequencerStore}
    {validator : Validator Block InMemoryBatchQueue Exec Result ValidatorStore}
    (follows : Follows sequencer validator) (ordered : sequencer.Ordered) {batch : CompressedBatch}
    {rest : List CompressedBatch} (next : validator.batchSource.batches = batch :: rest) :
    batch.batchNumber = validator.checkpoint.lastBatchDerived + 1 := by
  have numbers := ordered.submissions_all.trans ordered.submitted
  rw [show sequencer.submissions.map (·.1.batchNumber) =
    (sequencer.submissions.map (·.1)).map (·.batchNumber) by simp, follows.queue, next] at numbers
  simp only [List.map_append, List.map_cons, List.map_map] at numbers
  obtain ⟨count, _, before, after⟩ := List.range'_eq_append_iff.mp numbers.symm
  have length := congrArg List.length before
  simp only [List.length_map, List.length_range'] at length
  have first := (List.range'_eq_cons_iff.mp after.symm).1
  rw [follows.derived]
  omega

section Steps

variable [Executor Exec Block Result] [CheckpointStore ValidatorStore]

theorem Follows.step [LawfulBlockJson Block]
    {sequencer : Sequencer Block InMemoryBatchQueue SequencerStore}
    {validator next : Validator Block InMemoryBatchQueue Exec Result ValidatorStore}
    (step : Validator.Step validator next) (orderly : sequencer.Orderly)
    (clean : sequencer.faults = []) (roundtrips : sequencer.compressor.Roundtrips)
    (follows : Follows sequencer validator) : Follows sequencer next := by
  have recorded := follows.recorded.step step
  have number {batch rest} (next : validator.batchSource.batches = batch :: rest) :=
    follows.number (orderly.ordered clean) next
  obtain ⟨compressor, queue, derived, _⟩ := follows
  cases step with
  | watch =>
    obtain ⟨derivationCallback, lastL1Head, same⟩ := Validator.watchL1Head_frame validator
    rw [same] at recorded ⊢
    exact ⟨compressor, queue, derived, recorded⟩
  | @idle answer batchSource fetched nothing =>
    cases filled : validator.batchSource.batches with
    | nil =>
      simp only [L1BatchSource.nextBatch, filled] at fetched
      cases fetched
      exact ⟨compressor, queue, derived, recorded⟩
    | cons batch rest =>
      simp only [L1BatchSource.nextBatch, filled] at fetched
      cases fetched
      exact absurd rfl (nothing batch)
  | @process batch batchSource fetched =>
    cases filled : validator.batchSource.batches with
    | nil =>
      simp only [L1BatchSource.nextBatch, filled] at fetched
      cases fetched
    | cons first rest =>
      simp only [L1BatchSource.nextBatch, filled] at fetched
      cases fetched
      have next := number filled
      have submitted : batch ∈ sequencer.submissions.map (·.1) := by simp [queue, filled]
      have readable := payload_submission orderly roundtrips submitted
      rcases Validator.processBatch_cases { validator with batchSource := InMemoryBatchQueue.mk rest } batch
        with
        ⟨stale | unreadable, _⟩ | ⟨ahead, executed, events, _, _, _, same⟩
      · exact absurd next (Nat.ne_of_lt (Nat.lt_succ_of_le stale))
      · rw [compressor, readable] at unreadable
        cases unreadable
      · rw [same] at recorded ⊢
        refine ⟨compressor, by simp [queue, filled], ?_, recorded⟩
        simp [derived] at next ⊢
        omega
  | clock unixSeconds => exact ⟨compressor, queue, derived, recorded⟩

end Steps

end Agreement

namespace Pipeline

variable {Block Exec Result SequencerStore ValidatorStore Tx : Type}
variable [BlockResponse Block Tx] [BlockJson Block]

/-- The two roles agree, as far as the sequencer did not fail. -/
structure Linked (pipeline : Pipeline Block Exec Result SequencerStore ValidatorStore) : Prop where
  orderly : pipeline.sequencer.Orderly
  level : Level pipeline.sequencer
  roundtrips : pipeline.sequencer.compressor.Roundtrips
  follows : pipeline.sequencer.faults = [] → Follows pipeline.sequencer pipeline.reader

/-- The blocks executed are those of the first batches submitted. -/
theorem Linked.executed_prefix [LawfulBlockJson Block]
    {self : Pipeline Block Exec Result SequencerStore ValidatorStore} (linked : self.Linked)
    (clean : self.sequencer.faults = []) :
    self.validator.executions.map (·.block) <+: self.sequencer.sent := by
  have executed := (linked.follows clean).derives.executed_submitted linked.orderly clean
    linked.roundtrips
  exact executed.trans (submittedBlocks_isPrefix linked.orderly clean)

private theorem Linked.derived_le {self : Pipeline Block Exec Result SequencerStore ValidatorStore}
    (linked : self.Linked) (clean : self.sequencer.faults = []) :
    self.validator.checkpoint.lastBatchDerived ≤ self.sequencer.checkpoint.lastBatchSubmitted := by
  have ordered := linked.orderly.ordered clean
  obtain ⟨_, queue, derived, _⟩ := linked.follows clean
  have level := linked.level clean
  have derived : self.validator.checkpoint.lastBatchDerived = self.validator.derivations.length := derived
  have numbers := congrArg List.length (ordered.submissions_all.trans ordered.submitted)
  have count := congrArg List.length queue
  simp only [List.length_map, List.length_append, List.length_range'] at numbers count
  have behind : self.reader.derivations.length = self.validator.derivations.length := rfl
  omega

section Runs

variable [Executor Exec Block Result]
variable [CheckpointStore SequencerStore] [CheckpointStore ValidatorStore]

omit [Executor Exec Block Result] [CheckpointStore ValidatorStore] in
private theorem linked_sequencer {sequencer next : Sequencer Block InMemoryBatchQueue SequencerStore}
    {validator : Validator Block InMemoryBatchQueue Exec Result ValidatorStore}
    (step : Sequencer.Step sequencer next) (linked : Linked ⟨sequencer, validator⟩) :
    Linked ⟨next, validator⟩ := by
  obtain ⟨orderly, level, roundtrips, follows⟩ := linked
  obtain ⟨kept, batches, handed, queued⟩ := step_appends step
  refine ⟨orderly.step step, level.step step orderly, by rw [kept]; exact roundtrips, fun clean => ?_⟩
  obtain ⟨compressor, queue, derived, recorded⟩ := follows (Sequencer.faults_mono step clean)
  refine ⟨compressor.trans kept.symm, ?_, derived, ⟨recorded.covered, recorded.payloads⟩⟩
  show next.submissions.map (·.1) = validator.derivations.map (·.batch) ++ next.batchSink.batches
  rw [handed, queued, ← List.append_assoc]
  exact congrArg (· ++ batches) queue

omit [CheckpointStore SequencerStore] in
private theorem linked_validator [LawfulBlockJson Block]
    {self : Pipeline Block Exec Result SequencerStore ValidatorStore}
    {validator : Validator Block InMemoryBatchQueue Exec Result ValidatorStore}
    (steps : Relation.ReflTransGen Validator.Step self.reader validator) (linked : self.Linked) :
    Linked ⟨{ self.sequencer with batchSink := validator.batchSource }, validator⟩ := by
  obtain ⟨orderly, level, roundtrips, follows⟩ := linked
  refine ⟨orderly.onSink _, level, roundtrips, fun clean => ?_⟩
  obtain ⟨compressor, queue, derived, recorded⟩ := Runs.invariant_steps (Follows self.sequencer)
    (fun _ _ step => Follows.step step orderly clean roundtrips) steps (follows clean)
  exact ⟨compressor, queue, derived, recorded⟩

theorem Linked.step [LawfulBlockJson Block]
    {self : Pipeline Block Exec Result SequencerStore ValidatorStore} (input : Input Block)
    (lifetime : input.restarts = false) (linked : self.Linked) : (self.step input).Linked := by
  cases input with
  | sequencer input =>
    have steps := Sequencer.step_steps self.sequencer input
      (fun checkpoint same => by rw [same] at lifetime; cases lifetime)
    exact Runs.invariant_steps (fun sequencer => Linked ⟨sequencer, self.validator⟩)
      (fun _ _ => linked_sequencer) steps linked
  | validator input =>
    have steps := Validator.step_steps self.reader input
      (fun checkpoint same => by rw [same] at lifetime; cases lifetime)
    exact linked_validator steps linked

/-- End to end: the validator executes the blocks that were sent to the sequencer,
each once and in order, and is never ahead of the sequencer. -/
theorem executes_prefix_of_sent [LawfulBlockJson Block]
    {start : Pipeline Block Exec Result SequencerStore ValidatorStore}
    (sequencer : start.sequencer.Launched) (validator : start.validator.Launched)
    (submitted : start.sequencer.checkpoint.lastBatchSubmitted = 0)
    (derived : start.validator.checkpoint.lastBatchDerived = 0)
    (connected : start.validator.compressor = start.sequencer.compressor)
    (empty : start.sequencer.batchSink = .empty) (roundtrips : start.sequencer.compressor.Roundtrips)
    (inputs : List (Input Block)) (lifetime : ∀ input ∈ inputs, input.restarts = false)
    (clean : (start.run inputs).sequencer.faults = []) :
    (start.run inputs).validator.executions.map (·.block) <+: (start.run inputs).sequencer.sent ∧
      (start.run inputs).validator.checkpoint.lastBatchDerived ≤
        (start.run inputs).sequencer.checkpoint.lastBatchSubmitted := by
  obtain ⟨_, submission, _, _, _, _, _, _, _, submissions, _, _⟩ := sequencer.start
  obtain ⟨executions, derivations, _⟩ := validator.start
  have initially : start.Linked := by
    refine ⟨sequencer.orderly submitted, fun _ => by omega, roundtrips, fun _ => ?_⟩
    refine ⟨connected, ?_, ?_, ?_, ?_⟩
    · simp [reader, submissions, derivations, empty, InMemoryBatchQueue.empty]
    · simp [reader, derivations, derived]
    · simp [reader, executions, derivations]
    · simp [reader, derivations]
  have linked : (start.run inputs).Linked :=
    Runs.invariant_run Linked inputs (fun _ input member => Linked.step input (lifetime input member))
      initially
  exact ⟨linked.executed_prefix clean, linked.derived_le clean⟩

end Runs

section Examples

open Reference

/-- Both roles at their start, on one queue and on a checkpoint file each. -/
def bothRoles : Pipeline UInt8 (PersistentExecutor Nat UInt8) Unit Files Files where
  sequencer := Sequencer.singleBlockBatches .empty ⟨[]⟩ .fresh
  validator := Validator.startingFrom .fresh .empty noop (some "checkpoint")
    { state := 0, execute := fun executed _ => .ok (executed + 1) } ⟨[]⟩

/-- The validator ticks before, between and after the two submissions. -/
def interleaved : List (Input UInt8) :=
  .validator .tick :: (Sequencer.reversedWorkers.take 6).map .sequencer ++ [.validator .tick] ++
    (Sequencer.reversedWorkers.drop 6).map .sequencer ++ [.validator .tick]

theorem bothRoles_agree :
    (bothRoles.run interleaved).validator.executions.map (·.block) <+: [7, 8] ∧
      (bothRoles.run interleaved).validator.checkpoint.lastBatchDerived ≤ 2 :=
  executes_prefix_of_sent (.startingFrom rfl) (.startingFrom rfl) rfl rfl rfl rfl noop_roundtrips
    interleaved (by decide) (by decide)

end Examples

end Pipeline

end Montana.Node
