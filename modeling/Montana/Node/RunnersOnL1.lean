import Montana.Anvil.Settled
import Montana.Anvil.Submitters
import Montana.Derivation.Heads

/-! The batch runner and the derivation runner at the two ends of the inbox on L1. The one
numbers its batches from 0, which the other takes for nothing derived, but in between the
source counts for itself, from 1. -/

namespace Montana.Node

open Anvil Batching Vm Montana.Derivation

/-- Both runners on one L1. The provider of the batch runner's sink stands for the chain
that both see. -/
structure RunnersOnL1 (Block Source Exec Result Store : Type) where
  batching : RunLoop Block Source AnvilBatchSink
  derivation : DerivationRunner Block AnvilBatchSource Exec Result Store

namespace RunnersOnL1

variable {Block Source Exec Result Store Tx : Type}

inductive Input where
  | iterate
  | derivation (input : DerivationRunner.Input)
  | network (schedule : List Turn)

/-- Nobody else sends to the inbox, whatever is scheduled. -/
def Input.Foreign (batchInbox : Address) : Input → Prop
  | .network schedule => ∀ turn ∈ schedule, turn.Foreign batchInbox
  | _ => True

def withProvider (batching : RunLoop Block Source AnvilBatchSink) (provider : Provider) :
    RunLoop Block Source AnvilBatchSink :=
  { batching with runner := { batching.runner with sink := { batching.runner.sink with provider } } }

/-- The derivation runner as it sees the chain. -/
def reader (self : RunnersOnL1 Block Source Exec Result Store) :
    DerivationRunner Block AnvilBatchSource Exec Result Store :=
  { self.derivation with source :=
      { self.derivation.source with provider := self.batching.runner.sink.provider } }

variable [BlockResponse Block Tx] [BlockJson Block] [BlockSource Source Block]

section System

variable [Executor Exec Block Result] [CheckpointStore Store]

/-- One iteration of the batch runner's loop, a call of the derivation runner, or news of what
L1 will do. -/
def step (self : RunnersOnL1 Block Source Exec Result Store) :
    Input → RunnersOnL1 Block Source Exec Result Store
  | .iterate => { self with batching := self.batching.iterate }
  | .derivation input =>
    let derivation := self.reader.step input
    { batching := withProvider self.batching derivation.source.provider, derivation }
  | .network schedule =>
    { self with batching :=
        withProvider self.batching { self.batching.runner.sink.provider with schedule } }

def run (self : RunnersOnL1 Block Source Exec Result Store) (inputs : List Input) :
    RunnersOnL1 Block Source Exec Result Store :=
  inputs.foldl step self

end System

/-- The sink took every batch that it was given. -/
def Taken (batching : RunLoop Block Source AnvilBatchSink) : Prop :=
  ∀ entry ∈ batching.runner.submissions, entry.2.isOk = true

/-- As long as the sink takes every batch, none of its transactions waits between two
iterations. -/
theorem settled_iterate {self : RunLoop Block Source AnvilBatchSink}
    (delivering : Delivering self.runner.sink) (settled : Taken self → Settled self.runner.sink)
    (taken : Taken self.iterate) : Settled self.iterate.runner.sink := by
  rcases RunLoop.iterate_cases self with same |
    ⟨blocks, source, callback, metrics, fetching, grown, _, _, _, _, ⟨same, _⟩ | ⟨_, same⟩⟩
  · rw [same] at taken ⊢
    exact settled taken
  · rw [same, grown] at taken ⊢
    exact settled taken
  · obtain ⟨attempt, sink, metrics, callback, entries, _, _, outcome, _, submitted⟩ :=
      RunLoop.submitPending_cases fetching
    rw [same, submitted] at taken ⊢
    have before : Taken self := by
      intro entry member
      apply taken
      rw [grown]
      exact List.mem_append_left _ member
    have ready : Settled fetching.runner.sink := by
      rw [grown]
      exact settled before
    have quiet : fetching.runner.sink.provider.Foreign fetching.runner.sink.batchInbox := by
      rw [grown]
      exact delivering.foreign
    rcases outcome with ⟨_, rfl, _, _⟩ | ⟨batch, answer, _, answered, rfl, _⟩
    · exact ready
    · have answered : fetching.runner.sink.submit batch = (answer, sink) := answered
      have accepted := taken (batch, answer) (List.mem_append_right _ List.mem_cons_self)
      cases answer with
      | error e => cases accepted
      | ok receipt =>
        have received := @Settled.submit fetching.runner.sink ready quiet batch receipt (congrArg Prod.fst answered)
        rw [answered] at received
        exact received

section Deriving

variable [Executor Exec Block Result] [CheckpointStore Store]

omit [BlockSource Source Block] in
/-- A call of the derivation runner leaves its source alone, or asks it once for a batch and
keeps what comes. -/
theorem step_source (self : DerivationRunner Block AnvilBatchSource Exec Result Store)
    (input : DerivationRunner.Input) :
    ((self.step input).source = self.source ∧ (self.step input).delivered = self.delivered) ∨
      (self.step input).source = self.source.nextBatch.2 ∧
        (self.delivered = self.source.returned →
          (self.step input).delivered = (self.step input).source.returned) := by
  cases input with
  | tick =>
    show (self.tick.2.source = _ ∧ self.tick.2.delivered = _) ∨ self.tick.2.source = _ ∧
      (_ → self.tick.2.delivered = self.tick.2.source.returned)
    have unread := nextBatch_answer self.source
    unfold DerivationRunner.tick
    by_cases paused : self.paused = true
    · rw [if_pos paused]
      exact .inl ⟨rfl, rfl⟩
    · rw [if_neg paused]
      right
      cases fetched : self.source.nextBatch with
      | mk answer source =>
        have called : L1BatchSource.nextBatch self.source = (answer, source) := fetched
        rw [fetched] at unread
        rw [called]
        rcases answer with e | _ | batch
        · rcases unread with ⟨_, some, _⟩ | ⟨_, same⟩
          · cases some
          · exact ⟨rfl, fun before => before.trans same.symm⟩
        · rcases unread with ⟨_, some, _⟩ | ⟨_, same⟩
          · cases some
          · exact ⟨rfl, fun before => before.trans same.symm⟩
        · obtain ⟨delivered, kept, _⟩ := DerivationRunner.deriveBatch_cases
            { self with source, delivered := self.delivered ++ [batch] } batch self.clock
          rcases unread with ⟨_, some, grown⟩ | ⟨nothing, _⟩
          · cases some
            refine ⟨kept, fun before => ?_⟩
            simp only []
            rw [delivered, kept, grown, before]
          · exact absurd rfl (nothing batch)
  | pause => exact .inl ⟨rfl, rfl⟩
  | resume => exact .inl ⟨rfl, rfl⟩
  | togglePause => exact .inl ⟨rfl, rfl⟩
  | recordSubmission batchNumber submitTime => exact .inl ⟨rfl, rfl⟩
  | recordBatchBlockCount batchNumber blockCount => exact .inl ⟨rfl, rfl⟩
  | clockAdvanced elapsed => exact .inl ⟨rfl, rfl⟩
  | wallClockSet unixSeconds => exact .inl ⟨rfl, rfl⟩

def channel (self : RunnersOnL1 Block Source Exec Result Store) :
    Channel (RunLoop Block Source AnvilBatchSink) where
  submitter := self.batching
  source := self.derivation.source

/-- What both runners and the chain between them keep in every run since this start. -/
structure Linked (start : RunnersOnL1 Block Source Exec Result Store) (startBlock : Nat)
    (reached : RunnersOnL1 Block Source Exec Result Store) : Prop where
  life : RunnerOnL1 start.batching.runner startBlock reached.batching
  channel : reached.channel.Linked
  settled : Taken reached.batching → Settled reached.batching.runner.sink
  delivered : reached.derivation.delivered = reached.derivation.source.returned
  tracked : reached.derivation.Sequential → reached.derivation.Tracked start.derivation

theorem Linked.step {start self : RunnersOnL1 Block Source Exec Result Store} {startBlock : Nat}
    (linked : Linked start startBlock self) (input : Input)
    (foreign : input.Foreign self.batching.runner.sink.batchInbox) :
    Linked start startBlock (self.step input) ∧
      (self.step input).batching.runner.sink.batchInbox = self.batching.runner.sink.batchInbox := by
  obtain ⟨life, channel, settled, delivered, tracked⟩ := linked
  have provided (provider : Provider) :
      RunnerOnL1 start.batching.runner startBlock (withProvider self.batching provider) := by
    obtain ⟨⟨running, compressor, current, numbers, blocks, filled, counted, numbered, handed, packed⟩,
      sent⟩ := life
    exact ⟨⟨running, compressor, current, numbers, blocks, filled, counted, numbered, handed, packed⟩,
      sent⟩
  cases input with
  | iterate =>
    obtain ⟨next, inbox⟩ := channel.step (.submitter ()) trivial
    exact ⟨⟨life.iterate, next, settled_iterate channel.delivering settled, delivered, tracked⟩, inbox⟩
  | derivation input =>
    have tracked := DerivationRunner.Tracked.input input
      (show self.reader.Sequential → self.reader.Tracked start.derivation from
        fun sequential => { tracked sequential with })
    have before : self.reader.delivered = self.reader.source.returned := delivered
    show Linked start startBlock ⟨withProvider self.batching (self.reader.step input).source.provider,
      self.reader.step input⟩ ∧ _
    rcases step_source self.reader input with ⟨source, same⟩ | ⟨source, same⟩
    · rw [source]
      refine ⟨⟨provided _, ?_, settled, ?_, tracked⟩, rfl⟩
      · rw [RunnersOnL1.channel, source]
        exact ⟨channel.inbox, channel.scanned, channel.delivering⟩
      · rw [same, source]
        exact before
    · have turns := (AnvilBatchSource.nextBatch_continues self.reader.source).provider
      have next := (channel.step .nextBatch trivial).1
      rw [source]
      refine ⟨⟨provided _, ?_, ?_, same before, tracked⟩, rfl⟩
      · rw [RunnersOnL1.channel, source]
        exact next
      · intro taken
        exact (settled taken).turns channel.delivering.foreign turns
  | network schedule =>
    obtain ⟨next, inbox⟩ := channel.step (.network schedule) foreign
    refine ⟨⟨?_, next, ?_, delivered, tracked⟩, inbox⟩
    · exact provided _
    · intro taken
      obtain ⟨⟨single, waiting⟩, mined⟩ := settled taken
      exact ⟨⟨single, waiting⟩, mined⟩

theorem Linked.run {start self : RunnersOnL1 Block Source Exec Result Store} {startBlock : Nat}
    (linked : Linked start startBlock self) (inputs : List Input)
    (foreign : ∀ input ∈ inputs, input.Foreign self.batching.runner.sink.batchInbox) :
    Linked start startBlock (self.run inputs) := by
  suffices Linked start startBlock (self.run inputs) ∧
      (self.run inputs).batching.runner.sink.batchInbox = self.batching.runner.sink.batchInbox from this.1
  refine Runs.invariant_run (fun reached : RunnersOnL1 Block Source Exec Result Store =>
    Linked start startBlock reached ∧
      reached.batching.runner.sink.batchInbox = self.batching.runner.sink.batchInbox) inputs ?_ ⟨linked, rfl⟩
  intro reached input arrives held
  obtain ⟨linked, inbox⟩ := held
  obtain ⟨next, same⟩ := linked.step input (by rw [inbox]; exact foreign input arrives)
  exact ⟨next, same.trans inbox⟩

/-- Both runners are new, and so is the inbox. -/
structure Opened (startBlock : Nat) (pipeline : RunnersOnL1 Block Source Exec Result Store) : Prop where
  begun : pipeline.batching = .enter pipeline.batching.runner startBlock
  first : pipeline.batching.runner.submissions = []
  launched : pipeline.derivation.Launched
  fresh : pipeline.derivation.checkpoint.lastBatchDerived = 0
  compressor : pipeline.derivation.compressor = pipeline.batching.runner.compressor
  inbox : pipeline.channel.Opened

theorem Opened.linked {self : RunnersOnL1 Block Source Exec Result Store} {startBlock : Nat}
    (opened : self.Opened startBlock) : Linked self startBlock self := by
  obtain ⟨begun, first, launched, fresh, compressor, inbox⟩ := opened
  have sent : self.batching.runner.sink.sent = [] := inbox.sent
  have source : self.derivation.source = _ := inbox.source
  obtain ⟨delivered, attempts⟩ := launched.start
  refine ⟨⟨?_, ?_⟩, inbox.linked, fun _ => .of_accepted inbox.accepted, ?_, fun _ => ?_⟩
  · have ledger : (RunLoop.enter self.batching.runner startBlock : RunLoop Block Source AnvilBatchSink).Ledger
        self.batching.runner startBlock := RunLoop.ledger_run self.batching.runner startBlock 0
    rw [← begun] at ledger
    exact ledger
  · rw [first, sent]
    exact .none
  · rw [delivered, source]
    rfl
  · exact ⟨rfl, by simp [tryBatches, delivered, attempts], by simp [delivered, attempts], by simp [attempts],
      by simp [attempts], .inl fresh⟩

end Deriving

section Payloads

variable [LawfulBlockJson Block]

omit [BlockSource Source Block] in
/-- A lawful codec reads back what `submit_batch` packed. -/
theorem payload_handed {compressor : Compressor} (roundtrips : compressor.Roundtrips)
    {attempt : Batching.Attempt Block} {batch : CompressedBatch}
    (handed : RunLoop.handedBatch compressor attempt = some batch) :
    payload compressor batch = some attempt.blocks := by
  unfold RunLoop.handedBatch BatchSubmissionRunner.packBatch at handed
  cases written : BlockJson.toBytes (OpBlockBatch.mk attempt.blocks) with
  | error e =>
    simp only [written] at handed
    cases handed
  | ok rawData =>
    cases compressed : compressor.compress rawData with
    | error e =>
      simp only [written, compressed] at handed
      cases handed
    | ok data =>
      simp only [written, compressed] at handed
      cases handed
      simp only [payload, roundtrips rawData data compressed, LawfulBlockJson.roundtrip _ rawData written]

/-- The batches handed over decode to the blocks of the attempts that succeeded, when the sink
took them all. -/
theorem payloads_handed {compressor : Compressor} (roundtrips : compressor.Roundtrips)
    {attempts : List (Batching.Attempt Block)}
    (packed : ∀ attempt ∈ attempts, attempt.outcome.isOk = true →
      ∃ batch, RunLoop.handedBatch compressor attempt = some batch)
    (taken : ∀ entry ∈ attempts.filterMap (RunLoop.handedOver compressor), entry.2 = true) :
    (attempts.filterMap (RunLoop.handedOver compressor)).map (payload compressor ·.1) =
      (attempts.filter (·.outcome.isOk)).map fun attempt => some attempt.blocks := by
  induction attempts with
  | nil => rfl
  | cons attempt rest ih =>
    obtain ⟨here, later⟩ := List.forall_mem_cons.mp packed
    cases handed : RunLoop.handedBatch compressor attempt with
    | none =>
      have refused : ¬ attempt.outcome.isOk = true := by
        intro success
        obtain ⟨batch, some⟩ := here success
        rw [handed] at some
        cases some
      have skipped : RunLoop.handedOver compressor attempt = none := by
        rw [RunLoop.handedOver, handed]
        rfl
      rw [List.filterMap_cons_none skipped] at taken ⊢
      rw [List.filter_cons, if_neg refused]
      exact ih later taken
    | some batch =>
      have reached : RunLoop.handedOver compressor attempt = some (batch, attempt.outcome.isOk) := by
        rw [RunLoop.handedOver, handed]
        rfl
      rw [List.filterMap_cons_some reached] at taken ⊢
      obtain ⟨success, others⟩ := List.forall_mem_cons.mp taken
      rw [List.filter_cons, if_pos success, List.map_cons, List.map_cons, ih later others,
        payload_handed roundtrips handed]

end Payloads

section Runs

variable [LawfulBlockJson Block] [Executor Exec Block Result] [CheckpointStore Store]

/-- What the derivation runner has made of what the batch runner did. -/
structure InOrder (startBlock : Nat) (pipeline : RunnersOnL1 Block Source Exec Result Store) : Prop where
  /-- Each batch that reached L1 is attempted once, in order, and numbered from 1 there. -/
  batches : pipeline.derivation.attempts.map (·.batch) <+:
    Channel.renumbered (pipeline.batching.runner.submissions.map (·.1))
  /-- It decodes to the blocks that were put into it. -/
  payloads : (pipeline.derivation.attempts.map fun attempt =>
      payload pipeline.derivation.compressor attempt.batch) <+:
    (pipeline.batching.attempts.filter (·.outcome.isOk)).map fun attempt => some attempt.blocks
  /-- While no execution fails, the blocks executed are those submitted. -/
  executed : (∀ attempt ∈ pipeline.derivation.attempts, attempt.failure = none) →
    pipeline.derivation.executed <+: pipeline.batching.submittedBlocks
  /-- While no submission fails either, they are the chain from the start block on. -/
  chain : (∀ attempt ∈ pipeline.derivation.attempts, attempt.failure = none) →
    (∀ attempt ∈ pipeline.batching.attempts, attempt.outcome.isOk = true) →
      pipeline.derivation.executed <+: pipeline.batching.fetched.map (·.2) ∧
        pipeline.batching.fetched.map (·.1) = List.range' startBlock pipeline.batching.fetched.length

omit [LawfulBlockJson Block] [CheckpointStore Store] in
/-- The batches that the sink sent are those it was given, and the header fields of all of them
are 64-bit numbers. -/
theorem Linked.sent {start self : RunnersOnL1 Block Source Exec Result Store} {startBlock : Nat}
    (linked : Linked start startBlock self) (taken : Taken self.batching)
    (bounded : ∀ entry ∈ self.batching.runner.submissions, Bounded entry.1) :
    self.channel.sink.sent = self.batching.runner.submissions.map (·.1) ∧
      ∀ batch ∈ self.channel.sink.sent, Bounded batch := by
  have sent : self.channel.sink.sent = self.batching.runner.submissions.map (·.1) :=
    linked.life.sent.all taken
  refine ⟨sent, ?_⟩
  intro batch member
  rw [sent] at member
  obtain ⟨entry, listed, rfl⟩ := List.mem_map.mp member
  exact bounded entry listed

omit [LawfulBlockJson Block] [CheckpointStore Store] in
theorem Linked.returned {start self : RunnersOnL1 Block Source Exec Result Store} {startBlock : Nat}
    (linked : Linked start startBlock self) (taken : Taken self.batching)
    (bounded : ∀ entry ∈ self.batching.runner.submissions, Bounded entry.1) :
    self.derivation.source.returned <+:
      Channel.renumbered (self.batching.runner.submissions.map (·.1)) := by
  obtain ⟨sent, fields⟩ := linked.sent taken bounded
  rw [← sent]
  exact linked.channel.returned (linked.settled taken).sparse.single fields

omit [LawfulBlockJson Block] [CheckpointStore Store] in
/-- The batches that the derivation runner received are numbered 1, 2, 3, … -/
theorem Linked.sequential {start self : RunnersOnL1 Block Source Exec Result Store} {startBlock : Nat}
    (linked : Linked start startBlock self) (taken : Taken self.batching)
    (bounded : ∀ entry ∈ self.batching.runner.submissions, Bounded entry.1) :
    self.derivation.Sequential := by
  have initial := linked.returned taken bounded
  have short := initial.length_le
  rw [Channel.renumbered, List.length_map, List.length_zipIdx] at short
  have numbers := List.prefix_iff_eq_take.mp (initial.map (·.batchNumber))
  rw [Channel.renumbered_numbers, List.length_map, List.take_range'_of_length_ge short] at numbers
  rw [DerivationRunner.Sequential, linked.delivered]
  exact numbers

omit [LawfulBlockJson Block] [CheckpointStore Store] in
theorem Linked.attempted {start self : RunnersOnL1 Block Source Exec Result Store} {startBlock : Nat}
    (linked : Linked start startBlock self) (taken : Taken self.batching)
    (bounded : ∀ entry ∈ self.batching.runner.submissions, Bounded entry.1) :
    self.derivation.attempts.map (·.batch) = self.derivation.source.returned := by
  rw [← linked.delivered]
  exact (linked.tracked (linked.sequential taken bounded)).attempted

/-- The batches that reached L1 decode to the blocks of the attempts that succeeded. -/
theorem Linked.payloads {start self : RunnersOnL1 Block Source Exec Result Store} {startBlock : Nat}
    (linked : Linked start startBlock self) (opened : start.Opened startBlock)
    (roundtrips : start.batching.runner.compressor.Roundtrips) (taken : Taken self.batching) :
    (Channel.renumbered (self.batching.runner.submissions.map (·.1))).map
        (payload start.batching.runner.compressor) =
      (self.batching.attempts.filter (·.outcome.isOk)).map fun attempt => some attempt.blocks := by
  have handed := linked.life.ledger.handed
  rw [opened.first, List.map_nil, List.nil_append] at handed
  -- the number of a batch does not matter to what it decodes to
  have numbers (sent : List CompressedBatch) :
      ((Channel.renumbered sent).map (payload start.batching.runner.compressor) : List (Option (List Block))) =
        sent.map (payload start.batching.runner.compressor) := by
    conv_rhs => rw [← List.zipIdx_map_fst 1 sent, List.map_map]
    rw [Channel.renumbered, List.map_map]
    rfl
  rw [numbers, List.map_map, ← payloads_handed roundtrips linked.life.ledger.packed, ← handed, List.map_map]
  · rfl
  · intro entry member
    rw [← handed] at member
    obtain ⟨submission, listed, rfl⟩ := List.mem_map.mp member
    exact taken submission listed

omit [LawfulBlockJson Block] in
/-- While no execution fails, what was executed is what the batches decode to. -/
theorem executed_payloads {start self : RunnersOnL1 Block Source Exec Result Store} {startBlock : Nat}
    (linked : Linked start startBlock self) (opened : start.Opened startBlock)
    (sequential : self.derivation.Sequential)
    (derived : ∀ attempt ∈ self.derivation.attempts, attempt.failure = none) :
    self.derivation.executed = ((self.derivation.attempts.map (·.batch)).map
      (payload start.batching.runner.compressor)).flatMap (·.getD []) := by
  have tracked := linked.tracked sequential
  rw [List.map_map, List.flatMap_map, DerivationRunner.executed]
  refine List.flatMap_congr fun attempt member => ?_
  have fully := (tracked.shaped attempt member).mp (derived attempt member)
  rw [tracked.compressor, opened.compressor] at fully
  rw [Function.comp_apply, fully.1]
  rfl

omit [LawfulBlockJson Block] [BlockSource Source Block] [Executor Exec Block Result]
  [CheckpointStore Store] [BlockResponse Block Tx] [BlockJson Block] in
private theorem submittedBlocks_payloads (self : RunLoop Block Source AnvilBatchSink) :
    self.submittedBlocks =
      ((self.attempts.filter (·.outcome.isOk)).map fun attempt => some attempt.blocks).flatMap
        (·.getD []) := by
  rw [List.flatMap_map]
  rfl

/-- The two runners end to end over L1, whatever happens on the chain between and during their
calls: the derivation runner attempts every batch that was submitted, once and in order, from
the batch numbered 0 on. -/
theorem runners_derive_in_order {start : RunnersOnL1 Block Source Exec Result Store} {startBlock : Nat}
    (opened : start.Opened startBlock) (roundtrips : start.batching.runner.compressor.Roundtrips)
    (inputs : List Input)
    (foreign : ∀ input ∈ inputs, input.Foreign start.batching.runner.sink.batchInbox)
    (taken : Taken (start.run inputs).batching)
    (bounded : ∀ entry ∈ (start.run inputs).batching.runner.submissions, Bounded entry.1) :
    InOrder startBlock (start.run inputs) := by
  have linked := opened.linked.run inputs foreign
  have sequential := linked.sequential taken bounded
  have batches : (start.run inputs).derivation.attempts.map (·.batch) <+:
      Channel.renumbered ((start.run inputs).batching.runner.submissions.map (·.1)) := by
    rw [linked.attempted taken bounded]
    exact linked.returned taken bounded
  have decoded := batches.map
    (payload start.batching.runner.compressor : CompressedBatch → Option (List Block))
  rw [linked.payloads opened roundtrips taken] at decoded
  have executed (derived : ∀ attempt ∈ (start.run inputs).derivation.attempts, attempt.failure = none) :
      (start.run inputs).derivation.executed <+: (start.run inputs).batching.submittedBlocks := by
    rw [executed_payloads linked opened sequential derived, submittedBlocks_payloads]
    exact decoded.flatMap _
  refine ⟨batches, ?_, executed, fun derived successful => ⟨?_, linked.life.ledger.numbers⟩⟩
  · rw [(linked.tracked sequential).compressor, opened.compressor]
    rw [List.map_map] at decoded
    exact decoded
  · refine (executed derived).trans ?_
    rw [← (linked.life.ledger.conserved_iff.mpr successful).blocks]
    exact List.prefix_append _ _

end Runs

section Progress

variable [Executor Exec Block Result] [CheckpointStore Store]

/-- L1 falls silent, and the derivation runner ticks as often as this. -/
def settle (count : Nat) : List Input :=
  .network [] :: .derivation .resume :: List.replicate count (.derivation .tick)

omit [BlockSource Source Block] in
/-- A tick that is not paused asks the source once, whatever becomes of the batch. -/
theorem tick_running {self : DerivationRunner Block AnvilBatchSource Exec Result Store}
    (running : self.paused = false) :
    self.tick.2.source = self.source.nextBatch.2 ∧ self.tick.2.paused = false := by
  unfold DerivationRunner.tick
  rw [if_neg (by simp [running])]
  cases fetched : self.source.nextBatch with
  | mk answer source =>
    have called : L1BatchSource.nextBatch self.source = (answer, source) := fetched
    rw [called]
    rcases answer with e | _ | batch
    · exact ⟨rfl, running⟩
    · exact ⟨rfl, running⟩
    · simp only []
      rcases DerivationRunner.deriveBatch_ends
          { self with source, delivered := self.delivered ++ [batch] } batch self.clock with
        ⟨_, same⟩ | ⟨_, _, _, _, _, _, _, ⟨_, _, same⟩ | ⟨_, _, _, _, _, _, _, _, _, _, same⟩⟩ <;>
        rw [same] <;> exact ⟨rfl, running⟩

/-- The ticks of a runner are calls of its source on a chain that does not change. -/
theorem run_ticks {self : RunnersOnL1 Block Source Exec Result Store}
    (running : self.derivation.paused = false)
    (quiet : self.batching.runner.sink.provider.schedule = []) (count : Nat) :
    (self.run (List.replicate count (.derivation .tick))).reader.source =
        self.reader.source.run (List.replicate count []) ∧
      (self.run (List.replicate count (.derivation .tick))).batching = self.batching := by
  induction count generalizing self with
  | zero => exact ⟨rfl, rfl⟩
  | succ count ih =>
    have asked : self.reader.source.provider.schedule = [] := quiet
    obtain ⟨same, _⟩ := AnvilBatchSource.nextBatch_quiet asked
    obtain ⟨source, still⟩ : self.reader.tick.2.source = self.reader.source.nextBatch.2 ∧
        self.reader.tick.2.paused = false := tick_running running
    have stepped : self.step (.derivation .tick) = ⟨self.batching, self.reader.tick.2⟩ := by
      show RunnersOnL1.mk (withProvider self.batching self.reader.tick.2.source.provider)
        self.reader.tick.2 = _
      rw [source, same]
      rfl
    have seen : (RunnersOnL1.mk self.batching self.reader.tick.2).reader.source =
        self.reader.source.nextBatch.2 := by
      rw [← source, reader]
      show { self.reader.tick.2.source with provider := self.reader.source.provider } = _
      rw [← same, ← source]
    rw [List.replicate_succ, RunnersOnL1.run, List.foldl_cons, stepped]
    obtain ⟨later, kept⟩ := @ih ⟨self.batching, self.reader.tick.2⟩ still quiet
    refine ⟨?_, kept⟩
    rw [AnvilBatchSource.run_quiet_succ asked, ← seen]
    exact later

variable [LawfulBlockJson Block]

/-- Nothing stays behind: once L1 is silent, as many ticks as it has blocks, and one more, attempt
every batch that was submitted, also where executions fail. -/
theorem runners_derive_everything {start : RunnersOnL1 Block Source Exec Result Store} {startBlock : Nat}
    (opened : start.Opened startBlock) (roundtrips : start.batching.runner.compressor.Roundtrips)
    (inputs : List Input)
    (foreign : ∀ input ∈ inputs, input.Foreign start.batching.runner.sink.batchInbox)
    (taken : Taken (start.run inputs).batching)
    (bounded : ∀ entry ∈ (start.run inputs).batching.runner.submissions, Bounded entry.1) (count : Nat)
    (enough : (start.run inputs).batching.runner.sink.provider.blocks.length < count) :
    ((start.run inputs).run (settle count)).derivation.attempts.map (·.batch) =
        Channel.renumbered ((start.run inputs).batching.runner.submissions.map (·.1)) ∧
      ((∀ attempt ∈ ((start.run inputs).run (settle count)).derivation.attempts, attempt.failure = none) →
        ((start.run inputs).run (settle count)).derivation.executed =
          (start.run inputs).batching.submittedBlocks) := by
  have linked := opened.linked.run inputs foreign
  generalize start.run inputs = reached at taken bounded enough linked ⊢
  -- the state after the two inputs that prepare the ticks
  let ready := (reached.step (.network [])).step (.derivation .resume)
  have settled : reached.run (settle count) = ready.run (List.replicate count (.derivation .tick)) := rfl
  have linked : Linked start startBlock ready := by
    obtain ⟨silent, _⟩ := linked.step (.network []) nofun
    exact (silent.step (.derivation .resume) trivial).1
  obtain ⟨source, kept⟩ := run_ticks (show ready.derivation.paused = false from rfl)
    (show ready.batching.runner.sink.provider.schedule = [] from rfl) count
  have after : Linked start startBlock (ready.run (List.replicate count (.derivation .tick))) := by
    apply linked.run
    intro input member
    rw [List.eq_of_mem_replicate member]
    trivial
  have drained := AnvilBatchSource.run_quiet_drained linked.channel.scanned rfl count
    (Nat.lt_add_left _ enough)
  rw [settled]
  generalize ready.run (List.replicate count (.derivation .tick)) = final at source kept after ⊢
  have submissions : final.batching.runner.submissions = reached.batching.runner.submissions := by
    rw [kept]
    rfl
  have taken : Taken final.batching := by
    rw [Taken, submissions]
    exact taken
  rw [← submissions] at bounded
  obtain ⟨sent, fields⟩ := after.sent taken bounded
  have observed : final.channel.sink.provider.blocks.length ∈ final.channel.source.drained := by
    show final.batching.runner.sink.provider.blocks.length ∈ final.reader.source.drained
    rw [source, kept]
    exact drained
  have returned := after.channel.drained (after.settled taken) fields observed
  have batches := (after.attempted taken bounded).trans returned
  rw [sent] at batches
  refine ⟨batches.trans (by rw [submissions]), fun derived => ?_⟩
  have attempts : reached.batching.submittedBlocks = final.batching.submittedBlocks := by
    rw [kept]
    rfl
  rw [executed_payloads after opened (after.sequential taken bounded) derived, batches,
    after.payloads opened roundtrips taken, attempts, submittedBlocks_payloads]

end Progress

section Examples

open Reference

/-- Both runners at their start, at the two ends of the inbox at address 1, with the blocks 1
to 3 to fetch, two to a batch. -/
def runnersOnL1 : RunnersOnL1 UInt8 RunLoop.ShortChain (PersistentExecutor Nat UInt8) Unit Files where
  batching := .enter (.new ⟨3⟩ noop sinkAt1 { maxBlocksPerBatch := 2 }) 1
  derivation := .new (.new (.fresh []) 1) noop {} (refusing 9) ⟨[]⟩

/-- The derivation runner looks at L1 after each iteration; one of its calls fails, and a block
of others is mined. -/
def tickInBetween : List Input :=
  [.iterate, .network [{ failure := some "connection reset" }], .derivation .tick, .iterate,
    .network [{ mined := [{ before := [⟨3, some 4, []⟩] }] }], .derivation .tick, .iterate]

private theorem runnersOnL1_opened : runnersOnL1.Opened 1 :=
  ⟨rfl, rfl, .withStartBlock _ _ _ _ _ _, rfl, rfl, ⟨rfl, rfl, rfl, nofun⟩⟩

private theorem tickInBetween_foreign : ∀ input ∈ tickInBetween, input.Foreign 1 := by
  simp [tickInBetween, Input.Foreign, Turn.Foreign, sentTo]

theorem runnersOnL1_derive_in_order :
    (runnersOnL1.run tickInBetween).derivation.executed <+: [1, 2, 3] := by
  have inOrder := runners_derive_in_order runnersOnL1_opened noop_roundtrips tickInBetween
    tickInBetween_foreign (by unfold Taken; decide) (by decide)
  have chain := (inOrder.chain (by decide) (by decide)).1
  rwa [show (runnersOnL1.run tickInBetween).batching.fetched.map (·.2) = [1, 2, 3] by decide] at chain

theorem runnersOnL1_derive_everything :
    ((runnersOnL1.run tickInBetween).run (settle 4)).derivation.executed = [1, 2, 3] := by
  have everything := runners_derive_everything runnersOnL1_opened noop_roundtrips tickInBetween
    tickInBetween_foreign (by unfold Taken; decide) (by decide) 4 (by decide)
  rw [everything.2 (by decide)]
  decide

end Examples

end RunnersOnL1

end Montana.Node
