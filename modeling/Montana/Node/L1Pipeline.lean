import Montana.Anvil.Settled
import Montana.Anvil.Submitters
import Montana.Node.Pipeline
import Montana.Roles.SequencerLimits

/-! A sequencer and a validator at the two ends of the batch inbox on L1. The source
counts the batches for itself, so the numbers agree only where the inbox holds exactly
what the sequencer recorded as submitted. -/

namespace Montana.Node

open Anvil Roles Vm
open Relation (ReflTransGen)

/-- Both roles on one L1. The provider of the sequencer's sink stands for the chain that
both see. -/
structure L1Pipeline (Block Exec Result SequencerStore ValidatorStore : Type) where
  sequencer : Sequencer Block AnvilBatchSink SequencerStore
  validator : Validator Block AnvilBatchSource Exec Result ValidatorStore

namespace L1Pipeline

variable {Block Exec Result SequencerStore ValidatorStore Tx : Type}

inductive Input (Block : Type) where
  | sequencer (input : Sequencer.Input Block)
  | validator (input : Validator.Input)
  | network (schedule : List Turn)

/-- A restart of a role from another checkpoint. -/
def Input.restarts : Input Block → Bool
  | .sequencer (.resume _) => true
  | .validator (.resume _) => true
  | _ => false

/-- Nobody else sends to the inbox, whatever is scheduled. -/
def Input.Foreign (batchInbox : Address) : Input Block → Prop
  | .network schedule => ∀ turn ∈ schedule, turn.Foreign batchInbox
  | _ => True

def withProvider (sequencer : Sequencer Block AnvilBatchSink SequencerStore) (provider : Provider) :
    Sequencer Block AnvilBatchSink SequencerStore :=
  { sequencer with batchSink := { sequencer.batchSink with provider } }

/-- The validator as it sees the chain. -/
def reader (self : L1Pipeline Block Exec Result SequencerStore ValidatorStore) :
    Validator Block AnvilBatchSource Exec Result ValidatorStore :=
  { self.validator with batchSource :=
      { self.validator.batchSource with provider := self.sequencer.batchSink.provider } }

variable [BlockResponse Block Tx] [BlockJson Block]

section System

variable [Executor Exec Block Result] [CheckpointStore SequencerStore] [CheckpointStore ValidatorStore]

def step (self : L1Pipeline Block Exec Result SequencerStore ValidatorStore) :
    Input Block → L1Pipeline Block Exec Result SequencerStore ValidatorStore
  | .sequencer input => { self with sequencer := self.sequencer.step input }
  | .validator input =>
    let validator := self.reader.step input
    { sequencer := withProvider self.sequencer validator.batchSource.provider, validator }
  | .network schedule =>
    { self with sequencer :=
        withProvider self.sequencer { self.sequencer.batchSink.provider with schedule } }

def run (self : L1Pipeline Block Exec Result SequencerStore ValidatorStore)
    (inputs : List (Input Block)) : L1Pipeline Block Exec Result SequencerStore ValidatorStore :=
  inputs.foldl step self

end System

section Submitting

variable [CheckpointStore SequencerStore]

/-- The sink stays as it is or takes a batch; in a run without faults it answers with a receipt. -/
theorem step_sink {self next : Sequencer Block AnvilBatchSink SequencerStore}
    (step : Sequencer.Step self next) : next.batchSink = self.batchSink ∨
      ∃ batch, next.batchSink = (self.batchSink.submit batch).2 ∧
        (next.faults = [] → ∃ receipt, (self.batchSink.submit batch).1 = .ok receipt) := by
  rcases Sequencer.step_undisturbed step with same | ⟨prepared, _, _, rfl⟩
  · exact .inl same.batchSink
  · have taken {answer : Except SinkError SubmissionReceipt} {batchSink : AnvilBatchSink}
        (submitted : BatchSink.submit self.batchSink prepared.compressedBatch = (answer, batchSink)) :
        batchSink = (self.batchSink.submit prepared.compressedBatch).2 ∧
          (self.batchSink.submit prepared.compressedBatch).1 = answer :=
      ⟨(congrArg Prod.snd submitted).symm, congrArg Prod.fst submitted⟩
    rcases Sequencer.submitPreparedBatch_cases { self with readyBatches := self.readyBatches.pop }
      prepared with ⟨_, same⟩ | ⟨_, _, _, _, submitted, same⟩ | ⟨_, _, _, _, _, submitted, same⟩ |
      ⟨_, receipt, _, _, _, _, submitted, same⟩ <;> rw [same]
    · exact .inl rfl
    · exact .inr ⟨prepared.compressedBatch, (taken submitted).1, by simp⟩
    · exact .inr ⟨prepared.compressedBatch, (taken submitted).1, by simp⟩
    · exact .inr ⟨prepared.compressedBatch, (taken submitted).1, fun _ => ⟨receipt, (taken submitted).2⟩⟩

/-- One life of a sequencer on L1 from a fresh checkpoint, and what it left there. -/
structure Submits (sequencer : Sequencer Block AnvilBatchSink SequencerStore) : Prop where
  orderly : sequencer.Orderly
  life : SequencerOnL1 0 sequencer
  delivering : Delivering sequencer.batchSink
  settled : sequencer.faults = [] → Settled sequencer.batchSink

theorem Submits.step {self next : Sequencer Block AnvilBatchSink SequencerStore}
    (step : Sequencer.Step self next) (submits : Submits self) : Submits next := by
  refine ⟨submits.orderly.step step, submits.life.step step, ?_, ?_⟩
  · rcases step_sink step with same | ⟨batch, same, _⟩
    · exact same ▸ submits.delivering
    · exact same ▸ submits.delivering.submit batch
  · intro clean
    have settled := submits.settled (Sequencer.faults_mono step clean)
    rcases step_sink step with same | ⟨batch, same, answered⟩
    · exact same ▸ settled
    · obtain ⟨receipt, answered⟩ := answered clean
      exact same ▸ settled.submit submits.delivering.foreign answered

/-- No fault so far, and the header fields of the batches are 64-bit numbers. -/
structure Regular (sequencer : Sequencer Block AnvilBatchSink SequencerStore) : Prop where
  clean : sequencer.faults = []
  bounded : ∀ entry ∈ sequencer.submissions, Bounded entry.1

private theorem Regular.of_step {self next : Sequencer Block AnvilBatchSink SequencerStore}
    (step : Sequencer.Step self next) (regular : Regular next) : Regular self := by
  refine ⟨Sequencer.faults_mono step regular.clean, ?_⟩
  intro entry member
  apply regular.bounded
  rcases Sequencer.step_undisturbed step with same | ⟨prepared, _, _, rfl⟩
  · rw [same.submissions]
    exact member
  · rcases Sequencer.submitPreparedBatch_cases { self with readyBatches := self.readyBatches.pop }
      prepared with ⟨_, same⟩ | ⟨_, _, _, _, _, same⟩ | ⟨_, _, _, _, _, _, same⟩ |
      ⟨_, _, _, _, _, _, _, same⟩ <;> rw [same]
    · exact member
    all_goals exact List.mem_append_left _ member

theorem Regular.of_steps {self next : Sequencer Block AnvilBatchSink SequencerStore}
    (steps : Sequencer.Steps self next) (regular : Regular next) : Regular self := by
  induction steps with
  | refl => exact regular
  | tail _ last ih => exact ih (regular.of_step last)

omit [BlockResponse Block Tx] [BlockJson Block] [CheckpointStore SequencerStore] in
/-- Batches that are numbered from 1 on keep their numbers when they are counted again. -/
theorem renumbered_eq {sent : List CompressedBatch}
    (numbers : sent.map (·.batchNumber) = List.range' 1 sent.length) : Channel.renumbered sent = sent := by
  apply List.ext_getElem
  · simp [Channel.renumbered]
  · intro index inside there
    have number := congrArg (·[index]?) numbers
    simp only [List.getElem?_map, List.getElem?_eq_getElem there, Option.map_some] at number
    rw [List.getElem?_eq_getElem (by simpa using there), List.getElem_range'] at number
    have number := Option.some.inj number
    simp only [Channel.renumbered, List.getElem_map, List.getElem_zipIdx]
    rw [show 1 + index = sent[index].batchNumber by omega]

omit [CheckpointStore SequencerStore] in
/-- In a run without faults what was sent is what was recorded, under the same numbers. -/
theorem Submits.renumbered_sent {self : Sequencer Block AnvilBatchSink SequencerStore}
    (submits : Submits self) (clean : self.faults = []) :
    Channel.renumbered self.batchSink.sent = self.submissions.map (·.1) := by
  have ordered := submits.orderly.ordered clean
  have sent := submits.life.sent.all ordered.answered
  rw [sent]
  apply renumbered_eq
  rw [List.map_map, List.length_map]
  exact submits.life.sequenced.numbers

end Submitting

/-- The validator derived every batch that its source returned. -/
structure Reads (compressor : Compressor)
    (validator : Validator Block AnvilBatchSource Exec Result ValidatorStore) : Prop where
  compressor : validator.compressor = compressor
  batches : validator.derivations.map (·.batch) = validator.batchSource.returned
  derived : validator.checkpoint.lastBatchDerived = validator.derivations.length
  recorded : validator.Recorded

section Linking

variable [CheckpointStore SequencerStore]

def channel (self : L1Pipeline Block Exec Result SequencerStore ValidatorStore) :
    Channel (Sequencer Block AnvilBatchSink SequencerStore) where
  submitter := self.sequencer
  source := self.validator.batchSource

structure Linked (pipeline : L1Pipeline Block Exec Result SequencerStore ValidatorStore) : Prop where
  submits : Submits pipeline.sequencer
  channel : pipeline.channel.Linked
  roundtrips : pipeline.sequencer.compressor.Roundtrips
  reads : Regular pipeline.sequencer → Reads pipeline.sequencer.compressor pipeline.validator

/-- What the source has returned are the first batches submitted, numbers included. -/
theorem returned_submitted {sequencer : Sequencer Block AnvilBatchSink SequencerStore}
    {source : AnvilBatchSource} (submits : Submits sequencer)
    (linked : Channel.Linked ⟨sequencer, source⟩) (regular : Regular sequencer) :
    source.returned <+: sequencer.submissions.map (·.1) := by
  have sent := submits.life.sent.all (submits.orderly.ordered regular.clean).answered
  have returned := linked.returned (submits.settled regular.clean).sparse.single (by
    intro batch member
    rw [show (Channel.sink ⟨sequencer, source⟩).sent = sequencer.submissions.map (·.1) from sent] at member
    obtain ⟨entry, listed, rfl⟩ := List.mem_map.mp member
    exact regular.bounded entry listed)
  rw [← submits.renumbered_sent regular.clean]
  exact returned

theorem Linked.derives {self : L1Pipeline Block Exec Result SequencerStore ValidatorStore}
    (linked : self.Linked) (regular : Regular self.sequencer) :
    Derives self.sequencer self.validator := by
  obtain ⟨compressor, batches, derived, recorded⟩ := linked.reads regular
  refine ⟨compressor, ?_, derived, recorded⟩
  rw [batches]
  exact returned_submitted linked.submits linked.channel regular

section Steps

variable [LawfulBlockJson Block] [Executor Exec Block Result] [CheckpointStore ValidatorStore]

omit [Executor Exec Block Result] [LawfulBlockJson Block] [CheckpointStore SequencerStore]
  [CheckpointStore ValidatorStore] in
/-- The batch behind the ones returned so far is the one after the last one derived. -/
theorem Reads.number {sequencer : Sequencer Block AnvilBatchSink SequencerStore}
    {validator : Validator Block AnvilBatchSource Exec Result ValidatorStore} {batch : CompressedBatch}
    (reads : Reads sequencer.compressor validator) (submits : Submits sequencer)
    (handed : validator.batchSource.returned ++ [batch] <+: sequencer.submissions.map (·.1)) :
    batch.batchNumber = validator.checkpoint.lastBatchDerived + 1 := by
  obtain ⟨rest, whole⟩ := handed
  have numbers := submits.life.sequenced.numbers
  rw [show sequencer.submissions.map (·.1.batchNumber) =
    (sequencer.submissions.map (·.1)).map (·.batchNumber) by simp, ← whole] at numbers
  simp only [List.map_append, List.map_cons, List.append_assoc, List.cons_append, List.nil_append] at numbers
  obtain ⟨count, _, before, after⟩ := List.range'_eq_append_iff.mp numbers.symm
  have length := congrArg List.length before
  have derived := congrArg List.length reads.batches
  simp only [List.length_map, List.length_range'] at length derived
  have first := (List.range'_eq_cons_iff.mp after.symm).1
  rw [reads.derived]
  omega

omit [CheckpointStore SequencerStore] in
/-- Whatever the source returns next is derived. -/
theorem Reads.process {sequencer : Sequencer Block AnvilBatchSink SequencerStore}
    {validator : Validator Block AnvilBatchSource Exec Result ValidatorStore} {batch : CompressedBatch}
    {batchSource : AnvilBatchSource} (reads : Reads sequencer.compressor validator) (submits : Submits sequencer)
    (roundtrips : sequencer.compressor.Roundtrips)
    (fetched : batchSource.returned = validator.batchSource.returned ++ [batch])
    (handed : batchSource.returned <+: sequencer.submissions.map (·.1))
    (recorded : (Validator.processBatch { validator with batchSource } batch).2.Recorded) :
    Reads sequencer.compressor (Validator.processBatch { validator with batchSource } batch).2 := by
  rw [fetched] at handed
  have number := reads.number submits handed
  have listed : batch ∈ sequencer.submissions.map (·.1) := handed.subset (by simp)
  have readable := payload_submission submits.orderly roundtrips listed
  obtain ⟨compressor, batches, derived, _⟩ := reads
  rcases Validator.processBatch_cases { validator with batchSource } batch with
    ⟨stale | unreadable, _⟩ | ⟨_, executed, _, _, _, _, same⟩
  · exact absurd number (Nat.ne_of_lt (Nat.lt_succ_of_le stale))
  · rw [compressor, readable] at unreadable
    cases unreadable
  · rw [same] at recorded ⊢
    refine ⟨compressor, ?_, ?_, recorded⟩
    · simp [batches, fetched]
    · simp [derived] at number ⊢
      omega

omit [LawfulBlockJson Block] in
private theorem processBatch_source (self : Validator Block AnvilBatchSource Exec Result ValidatorStore)
    (batch : CompressedBatch) : (self.processBatch batch).2.batchSource = self.batchSource := by
  rcases self.processBatch_cases batch with ⟨_, same⟩ | ⟨_, _, _, _, _, _, same⟩ <;> rw [same]

omit [LawfulBlockJson Block] [Executor Exec Block Result] [CheckpointStore SequencerStore]
  [CheckpointStore ValidatorStore] in
/-- Nothing that the sequencer keeps for itself depends on the chain. -/
theorem Submits.onProvider {sequencer : Sequencer Block AnvilBatchSink SequencerStore}
    (submits : Submits sequencer) {provider : Provider}
    (delivering : Delivering { sequencer.batchSink with provider })
    (settled : sequencer.faults = [] → Settled { sequencer.batchSink with provider }) :
    Submits (withProvider sequencer provider) := by
  obtain ⟨orderly, ⟨ledger, ⟨numbers, placed, position⟩, sent⟩, _, _⟩ := submits
  exact ⟨orderly.onSink _, ⟨ledger.onSink _, ⟨numbers, placed, position⟩, sent⟩, delivering, settled⟩

/-- The system in the middle of a tick of the validator, which has the provider. -/
def midTick (sequencer : Sequencer Block AnvilBatchSink SequencerStore)
    (validator : Validator Block AnvilBatchSource Exec Result ValidatorStore) :
    L1Pipeline Block Exec Result SequencerStore ValidatorStore where
  sequencer := withProvider sequencer validator.batchSource.provider
  validator := validator

theorem linked_validator {sequencer : Sequencer Block AnvilBatchSink SequencerStore}
    {validator next : Validator Block AnvilBatchSource Exec Result ValidatorStore}
    (step : Validator.Step validator next) (linked : (midTick sequencer validator).Linked) :
    (midTick sequencer next).Linked := by
  have turns := (AnvilBatchSource.nextBatch_continues validator.batchSource).provider
  -- a look at L1 moves both ends in the same way
  have looked : Submits (withProvider sequencer validator.batchSource.nextBatch.2.provider) ∧
      Channel.Linked ⟨withProvider sequencer validator.batchSource.nextBatch.2.provider,
        validator.batchSource.nextBatch.2⟩ :=
    ⟨linked.submits.onProvider (linked.submits.delivering.turns turns)
        fun clean => (linked.submits.settled clean).turns linked.submits.delivering.foreign turns,
      (linked.channel.step .nextBatch trivial).1⟩
  obtain ⟨submits, channel, roundtrips, reads⟩ := linked
  cases step with
  | watch =>
    obtain ⟨derivationCallback, lastL1Head, same⟩ := Validator.watchL1Head_frame validator
    rw [same]
    refine ⟨submits, channel, roundtrips, fun regular => ?_⟩
    obtain ⟨compressor, batches, derived, recorded⟩ := reads regular
    exact ⟨compressor, batches, derived, ⟨recorded.covered, recorded.payloads⟩⟩
  | @idle answer batchSource fetched nothing =>
    have fetched : validator.batchSource.nextBatch = (answer, batchSource) := fetched
    have unread := nextBatch_answer validator.batchSource
    rw [fetched] at looked unread
    refine ⟨looked.1, looked.2, roundtrips, fun regular => ?_⟩
    obtain ⟨compressor, batches, derived, recorded⟩ := reads ⟨regular.clean, regular.bounded⟩
    rcases unread with ⟨batch, some, _⟩ | ⟨_, same⟩
    · exact absurd some (nothing batch)
    · exact ⟨compressor, batches.trans same.symm, derived, ⟨recorded.covered, recorded.payloads⟩⟩
  | @process batch batchSource fetched =>
    have recorded (regular) : Validator.Recorded (Validator.processBatch
        { validator with batchSource } batch).2 := (reads regular).recorded.step (.process fetched)
    have fetched : validator.batchSource.nextBatch = (.ok (some batch), batchSource) := fetched
    have unread := nextBatch_answer validator.batchSource
    rw [fetched] at looked unread
    rcases unread with ⟨other, same, grown⟩ | ⟨nothing, _⟩
    · cases same
      have kept := processBatch_source { validator with batchSource } batch
      unfold midTick
      rw [kept]
      refine ⟨looked.1, ?_, roundtrips, fun regular => ?_⟩
      · show Channel.Linked ⟨_, (Validator.processBatch { validator with batchSource } batch).2.batchSource⟩
        rw [kept]
        exact looked.2
      · have handed := returned_submitted looked.1 looked.2 ⟨regular.clean, regular.bounded⟩
        have before : Regular (midTick sequencer validator).sequencer := ⟨regular.clean, regular.bounded⟩
        exact (reads before).process submits roundtrips grown handed (recorded before)
    · exact absurd rfl (nothing batch)
  | clock unixSeconds =>
    refine ⟨submits, channel, roundtrips, fun regular => ?_⟩
    obtain ⟨compressor, batches, derived, recorded⟩ := reads regular
    exact ⟨compressor, batches, derived, ⟨recorded.covered, recorded.payloads⟩⟩

theorem Linked.step {self : L1Pipeline Block Exec Result SequencerStore ValidatorStore}
    (linked : self.Linked) (input : Input Block) (lifetime : input.restarts = false)
    (foreign : input.Foreign self.sequencer.batchSink.batchInbox) : (self.step input).Linked ∧
      (self.step input).sequencer.batchSink.batchInbox = self.sequencer.batchSink.batchInbox := by
  cases input with
  | sequencer input =>
    have steps := Sequencer.step_steps self.sequencer input
      (fun checkpoint same => by rw [same] at lifetime; cases lifetime)
    have kept := (Sequencer.steps_fixed steps).2
    obtain ⟨channel, inbox⟩ := linked.channel.step (.submitter input) trivial
    have submits := Runs.invariant_steps Submits (fun _ _ => Submits.step) steps linked.submits
    refine ⟨⟨submits, channel, ?_, ?_⟩, inbox⟩
    · show (self.sequencer.step input).compressor.Roundtrips
      rw [kept]
      exact linked.roundtrips
    · intro regular
      show Reads (self.sequencer.step input).compressor self.validator
      rw [kept]
      exact linked.reads (regular.of_steps steps)
  | validator input =>
    have steps := Validator.step_steps self.reader input
      (fun checkpoint same => by rw [same] at lifetime; cases lifetime)
    have start : (midTick self.sequencer self.reader).Linked := by
      refine ⟨linked.submits, ?_, linked.roundtrips, fun regular => ?_⟩
      · exact ⟨linked.channel.inbox, linked.channel.scanned, linked.channel.delivering⟩
      · obtain ⟨compressor, batches, derived, recorded⟩ := linked.reads regular
        exact ⟨compressor, batches, derived, ⟨recorded.covered, recorded.payloads⟩⟩
    have linked := Runs.invariant_steps (fun validator => (midTick self.sequencer validator).Linked)
      (fun _ _ => linked_validator) steps start
    exact ⟨linked, rfl⟩
  | network schedule =>
    have channel := (linked.channel.step (.network schedule) foreign).1
    have reads (regular : Regular (withProvider self.sequencer
        { self.sequencer.batchSink.provider with schedule })) := linked.reads ⟨regular.clean, regular.bounded⟩
    refine ⟨⟨?_, channel, linked.roundtrips, reads⟩, rfl⟩
    apply linked.submits.onProvider channel.delivering
    intro clean
    obtain ⟨⟨single, waiting⟩, mined⟩ := linked.submits.settled clean
    exact ⟨⟨single, waiting⟩, mined⟩

/-- The run of a system whose ends were both fresh, as long as nobody else sends to the inbox. -/
theorem Linked.run {start : L1Pipeline Block Exec Result SequencerStore ValidatorStore}
    (linked : start.Linked) (inputs : List (Input Block))
    (lifetime : ∀ input ∈ inputs, input.restarts = false)
    (foreign : ∀ input ∈ inputs, input.Foreign start.sequencer.batchSink.batchInbox) :
    (start.run inputs).Linked := by
  suffices (start.run inputs).Linked ∧
      (start.run inputs).sequencer.batchSink.batchInbox = start.sequencer.batchSink.batchInbox from this.1
  refine Runs.invariant_run (fun reached : L1Pipeline Block Exec Result SequencerStore ValidatorStore =>
    reached.Linked ∧ reached.sequencer.batchSink.batchInbox = start.sequencer.batchSink.batchInbox)
    inputs ?_ ⟨linked, rfl⟩
  intro reached input arrives ⟨linked, inbox⟩
  obtain ⟨next, same⟩ := linked.step input (lifetime input arrives) (by rw [inbox]; exact foreign input arrives)
  exact ⟨next, same.trans inbox⟩

end Steps

section Runs

variable [LawfulBlockJson Block] [Executor Exec Block Result] [CheckpointStore ValidatorStore]

/-- Both roles are new, and so is the inbox. -/
structure Opened (pipeline : L1Pipeline Block Exec Result SequencerStore ValidatorStore) : Prop where
  sequencer : pipeline.sequencer.Launched
  validator : pipeline.validator.Launched
  submitted : pipeline.sequencer.checkpoint.lastBatchSubmitted = 0
  derived : pipeline.validator.checkpoint.lastBatchDerived = 0
  compressor : pipeline.validator.compressor = pipeline.sequencer.compressor
  inbox : pipeline.channel.Opened

omit [LawfulBlockJson Block] [Executor Exec Block Result] in
theorem Opened.linked {self : L1Pipeline Block Exec Result SequencerStore ValidatorStore}
    (opened : self.Opened) (roundtrips : self.sequencer.compressor.Roundtrips) : self.Linked := by
  obtain ⟨sequencer, validator, submitted, derived, compressor, inbox⟩ := opened
  obtain ⟨_, _, _, _, _, _, _, _, _, submissions, _, _⟩ := sequencer.start
  obtain ⟨executions, derivations, _⟩ := validator.start
  have channel := inbox.linked
  have sent : self.sequencer.batchSink.sent = [] := inbox.sent
  have sequenced := sequencer.sequenced
  rw [submitted] at sequenced
  refine ⟨⟨sequencer.orderly submitted, ⟨sequencer.ledger, sequenced, ?_⟩, channel.delivering, ?_⟩,
    channel, roundtrips, fun _ => ⟨compressor, ?_, ?_, ?_⟩⟩
  · rw [submissions, sent]
    exact .none
  · intro _
    exact .of_accepted inbox.accepted
  · have source : self.validator.batchSource = _ := inbox.source
    rw [derivations, source]
    rfl
  · rw [derived, derivations]
    rfl
  · exact ⟨by simp [executions, derivations], by simp [derivations]⟩

/-- End to end over L1: whatever happens on the chain between and during the calls, and
however often the calls of the source fail, the batches that the validator derives are the
first ones that the sequencer submitted, and it executes the blocks that were sent to the
sequencer, each once and in order. -/
theorem derives_in_order {start : L1Pipeline Block Exec Result SequencerStore ValidatorStore}
    (opened : start.Opened) (roundtrips : start.sequencer.compressor.Roundtrips)
    (inputs : List (Input Block)) (lifetime : ∀ input ∈ inputs, input.restarts = false)
    (foreign : ∀ input ∈ inputs, input.Foreign start.sequencer.batchSink.batchInbox)
    (clean : (start.run inputs).sequencer.faults = [])
    (bounded : ∀ entry ∈ (start.run inputs).sequencer.submissions, Bounded entry.1) :
    (start.run inputs).validator.derivations.map (·.batch) <+:
        (start.run inputs).sequencer.submissions.map (·.1) ∧
      (start.run inputs).validator.checkpoint.lastBatchDerived =
        (start.run inputs).validator.derivations.length ∧
      (start.run inputs).validator.executions.map (·.block) <+: (start.run inputs).sequencer.sent := by
  have linked := (opened.linked roundtrips).run inputs lifetime foreign
  have derives := linked.derives ⟨clean, bounded⟩
  have orderly := linked.submits.orderly
  refine ⟨derives.batches, derives.derived, ?_⟩
  exact (derives.executed_submitted orderly clean linked.roundtrips).trans
    (submittedBlocks_isPrefix orderly clean)

omit [LawfulBlockJson Block] [Executor Exec Block Result] [CheckpointStore ValidatorStore] in
/-- A source that found nothing more up to the head has returned everything submitted. -/
theorem Linked.drained {self : L1Pipeline Block Exec Result SequencerStore ValidatorStore}
    (linked : self.Linked) (regular : Regular self.sequencer)
    (observed : self.sequencer.batchSink.provider.blocks.length ∈ self.validator.batchSource.drained) :
    self.validator.batchSource.returned = self.sequencer.submissions.map (·.1) := by
  obtain ⟨submits, channel, _, _⟩ := linked
  have sent := submits.life.sent.all (submits.orderly.ordered regular.clean).answered
  rw [← submits.renumbered_sent regular.clean]
  refine channel.drained (submits.settled regular.clean) ?_ observed
  intro batch member
  rw [show self.channel.sink.sent = self.sequencer.submissions.map (·.1) from sent] at member
  obtain ⟨entry, listed, rfl⟩ := List.mem_map.mp member
  exact regular.bounded entry listed

/-- Nothing stays behind: once the source has found nothing more up to the head of L1, every
batch that was submitted has been derived and its blocks have been executed. -/
theorem derives_everything {start : L1Pipeline Block Exec Result SequencerStore ValidatorStore}
    (opened : start.Opened) (roundtrips : start.sequencer.compressor.Roundtrips)
    (inputs : List (Input Block)) (lifetime : ∀ input ∈ inputs, input.restarts = false)
    (foreign : ∀ input ∈ inputs, input.Foreign start.sequencer.batchSink.batchInbox)
    (clean : (start.run inputs).sequencer.faults = [])
    (bounded : ∀ entry ∈ (start.run inputs).sequencer.submissions, Bounded entry.1)
    (observed : (start.run inputs).sequencer.batchSink.provider.blocks.length ∈
      (start.run inputs).validator.batchSource.drained) :
    (start.run inputs).validator.derivations.map (·.batch) =
        (start.run inputs).sequencer.submissions.map (·.1) ∧
      (start.run inputs).validator.executions.map (·.block) =
        (start.run inputs).sequencer.submittedBlocks := by
  have linked := (opened.linked roundtrips).run inputs lifetime foreign
  have derives := linked.derives ⟨clean, bounded⟩
  have all := (linked.reads ⟨clean, bounded⟩).batches.trans (linked.drained ⟨clean, bounded⟩ observed)
  refine ⟨all, ?_⟩
  have orderly := linked.submits.orderly
  rw [derives.executed orderly linked.roundtrips, all, Sequencer.submittedBlocks,
    ← (orderly.ordered clean).submissions_all, List.map_map]
  rfl

end Runs

end Linking

section Examples

open Reference

/-- Both roles at their start, at the two ends of the inbox at address 1. -/
def rolesOnL1 : L1Pipeline UInt8 (PersistentExecutor Nat UInt8) Unit Files Files where
  sequencer := .singleBlockBatches sinkAt1 ⟨[]⟩ .fresh
  validator := Validator.startingFrom .fresh (.new (.fresh []) 1) noop (some "checkpoint")
    { state := 0, execute := fun executed _ => .ok (executed + 1) } ⟨[]⟩

/-- The validator looks at L1 between the two submissions, where a call fails, and at the end,
where a block of others is mined. -/
def readInBetween : List (Input UInt8) :=
  (Sequencer.reversedWorkers.take 6).map .sequencer ++
    [.network [{ failure := some "connection reset" }], .validator .tick] ++
    (Sequencer.reversedWorkers.drop 6).map .sequencer ++
    [.network [{ mined := [{ before := [⟨3, some 4, []⟩] }] }], .validator .tick]

theorem rolesOnL1_opened : rolesOnL1.Opened :=
  ⟨.startingFrom rfl, .startingFrom rfl, rfl, rfl, rfl, ⟨rfl, rfl, rfl, nofun⟩⟩

theorem readInBetween_foreign : ∀ input ∈ readInBetween, input.Foreign 1 := by
  simp [readInBetween, Sequencer.reversedWorkers, Input.Foreign, Turn.Foreign, sentTo]

theorem rolesOnL1_derive_in_order :
    (rolesOnL1.run readInBetween).validator.executions.map (·.block) <+: [7, 8] :=
  (derives_in_order rolesOnL1_opened noop_roundtrips readInBetween (by decide) readInBetween_foreign
    (by decide) (by decide)).2.2

theorem rolesOnL1_derive_everything :
    (rolesOnL1.run readInBetween).validator.executions.map (·.block) = [7, 8] :=
  (derives_everything rolesOnL1_opened noop_roundtrips readInBetween (by decide) readInBetween_foreign
    (by decide) (by decide) (by decide)).2

end Examples

end L1Pipeline

end Montana.Node
