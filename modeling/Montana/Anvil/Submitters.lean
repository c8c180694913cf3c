import Montana.Anvil.Channel
import Montana.Batching.Conservation
import Montana.Roles.SequencerNumbers
import Montana.Roles.SequencerOrder

/-! The two parties that submit to L1, and what the source counts of theirs: the
sequencer starts behind the checkpoint it loaded, the batch runner at 0. -/

namespace Montana.Anvil

open Batching Roles
open Relation (ReflTransGen)

/-- The batches whose transaction reached the node, among those handed to the sink. -/
inductive Sent : List (CompressedBatch × Except SinkError SubmissionReceipt) → List CompressedBatch →
    Prop where
  | none : Sent [] []
  | reached {submissions sent batch answer} (earlier : Sent submissions sent) :
      Sent (submissions ++ [(batch, answer)]) (sent ++ [batch])
  | lost {submissions sent batch e} (earlier : Sent submissions sent) :
      Sent (submissions ++ [(batch, Except.error e)]) sent

theorem Sent.sublist {submissions : List (CompressedBatch × Except SinkError SubmissionReceipt)}
    {sent : List CompressedBatch} (reached : Sent submissions sent) :
    sent.Sublist (submissions.map (·.1)) := by
  induction reached with
  | none => exact .slnil
  | reached _ ih =>
    rw [List.map_append]
    exact ih.append (List.Sublist.refl _)
  | lost _ ih =>
    rw [List.map_append]
    exact ih.trans (List.sublist_append_left _ _)

/-- What was answered with `Ok` has reached the node. -/
theorem Sent.all {submissions : List (CompressedBatch × Except SinkError SubmissionReceipt)}
    {sent : List CompressedBatch} (reached : Sent submissions sent)
    (answered : ∀ entry ∈ submissions, entry.2.isOk = true) : sent = submissions.map (·.1) := by
  induction reached with
  | none => rfl
  | reached _ ih =>
    rw [ih fun entry member => answered entry (List.mem_append_left _ member), List.map_append]
    rfl
  | lost _ _ =>
    have refused := answered _ (List.mem_append_right _ List.mem_cons_self)
    cases refused

/-- The same when only the last answer was not. -/
theorem Sent.prefix_of_last {earlier : List (CompressedBatch × Except SinkError SubmissionReceipt)}
    {last} {sent : List CompressedBatch} (reached : Sent (earlier ++ [last]) sent)
    (answered : ∀ entry ∈ earlier, entry.2.isOk = true) : sent <+: (earlier ++ [last]).map (·.1) := by
  generalize ended : earlier ++ [last] = submissions at reached
  cases reached with
  | none => exact List.nil_prefix
  | reached before =>
    obtain ⟨rfl, _⟩ := List.append_inj' ended rfl
    rw [before.all answered, List.map_append]
    exact List.prefix_refl _
  | lost before =>
    obtain ⟨rfl, _⟩ := List.append_inj' ended rfl
    rw [before.all answered, List.map_append]
    exact List.prefix_append _ _

private theorem submit_sent (self : AnvilBatchSink) (batch : CompressedBatch) :
    (self.submit batch).2.sent = if self.provider.reaches then self.sent ++ [batch] else self.sent := by
  unfold AnvilBatchSink.submit
  simp only []
  split
  · rfl
  · split <;> rfl

/-- A transaction that does not reach the node is answered with an error. -/
theorem submit_lost {self : AnvilBatchSink} (lost : self.provider.reaches = false)
    (batch : CompressedBatch) : ∃ e, (self.submit batch).1 = .error e := by
  unfold Provider.reaches at lost
  unfold AnvilBatchSink.submit Provider.sendTransaction Provider.answer
  cases failed : self.provider.turn.1.failure with
  | none => simp [failed] at lost
  | some e =>
    simp only [failed]
    exact ⟨_, rfl⟩

theorem Sent.submit {submissions : List (CompressedBatch × Except SinkError SubmissionReceipt)}
    {self next : AnvilBatchSink} {batch : CompressedBatch} {answer : Except SinkError SubmissionReceipt}
    (earlier : Sent submissions self.sent) (submitted : BatchSink.submit self batch = (answer, next)) :
    Sent (submissions ++ [(batch, answer)]) next.sent := by
  have sent := submit_sent self batch
  have same : self.submit batch = (answer, next) := submitted
  rw [same] at sent
  cases reaches : self.provider.reaches with
  | true =>
    rw [sent, reaches]
    exact .reached earlier
  | false =>
    obtain ⟨e, refused⟩ := submit_lost reaches batch
    rw [same] at refused
    cases refused
    rw [sent, reaches]
    exact .lost earlier

/-- Where a partial function keeps a number, the numbers of its values are among the old ones. -/
theorem filterMap_map_sublist {Old New : Type} {convert : Old → Option New} {before : Old → Nat}
    {after : New → Nat} (kept : ∀ old new, convert old = some new → after new = before old)
    (olds : List Old) : ((olds.filterMap convert).map after).Sublist (olds.map before) := by
  induction olds with
  | nil => exact .slnil
  | cons old rest ih =>
    cases converted : convert old with
    | none =>
      rw [List.filterMap_cons_none converted]
      exact ih.cons _
    | some new =>
      rw [List.filterMap_cons_some converted, List.map_cons, List.map_cons, kept old new converted]
      exact ih.cons_cons _

section Sequencer

variable {Block Store Tx : Type} [BlockResponse Block Tx] [BlockJson Block] [CheckpointStore Store]

instance : Submitter (Sequencer Block AnvilBatchSink Store) (Sequencer.Input Block) where
  advance := Sequencer.step
  sink self := self.batchSink
  withSink self batchSink := { self with batchSink }
  batches self := self.spawned.filterMap fun worker =>
    (Sequencer.prepareBatchSync self.compressor worker).toOption.map (·.compressedBatch)

private theorem step_submission {self next : Sequencer Block AnvilBatchSink Store}
    (step : Sequencer.Step self next) : ReflTransGen Submission self.batchSink next.batchSink := by
  rcases Sequencer.step_undisturbed step with same | ⟨prepared, _, _, rfl⟩
  · rw [same.batchSink]
  · rcases Sequencer.submitPreparedBatch_cases { self with readyBatches := self.readyBatches.pop }
      prepared with ⟨_, same⟩ | ⟨_, _, batchSink, _, submitted, same⟩ |
      ⟨_, _, batchSink, _, _, submitted, same⟩ | ⟨_, _, batchSink, _, _, _, submitted, same⟩ <;> rw [same]
    all_goals exact .single ⟨prepared.compressedBatch, (congrArg Prod.snd submitted).symm⟩

instance : LawfulSubmitter (Sequencer Block AnvilBatchSink Store) where
  sink_withSink _ _ := rfl
  sink_advance self input := by
    by_cases restart : ∃ checkpoint, input = .resume checkpoint
    · obtain ⟨checkpoint, rfl⟩ := restart
      exact .refl
    · have steps := Sequencer.step_steps self input fun checkpoint same => restart ⟨checkpoint, same⟩
      exact Runs.invariant_steps (ReflTransGen Submission self.batchSink ·.batchSink)
        (fun _ _ step reached => reached.trans (step_submission step)) steps .refl

/-- One life of a sequencer on L1: its books, its numbering and what of it reached the node. -/
structure SequencerOnL1 (loaded : Nat) (sequencer : Sequencer Block AnvilBatchSink Store) : Prop where
  ledger : sequencer.Ledger
  sequenced : Sequencer.Sequenced loaded sequencer
  sent : Sent sequencer.submissions sequencer.batchSink.sent

theorem SequencerOnL1.step {loaded : Nat} {self next : Sequencer Block AnvilBatchSink Store}
    (step : Sequencer.Step self next) (life : SequencerOnL1 loaded self) : SequencerOnL1 loaded next := by
  refine ⟨life.ledger.step step, life.sequenced.step step life.ledger, ?_⟩
  have sent := life.sent
  rcases Sequencer.step_undisturbed step with same | ⟨prepared, _, _, rfl⟩
  · rw [same.submissions, same.batchSink]
    exact sent
  · rcases Sequencer.submitPreparedBatch_cases { self with readyBatches := self.readyBatches.pop }
      prepared with ⟨_, same⟩ | ⟨_, _, _, _, submitted, same⟩ | ⟨_, _, _, _, _, submitted, same⟩ |
      ⟨_, _, _, _, _, _, submitted, same⟩ <;> rw [same]
    · exact sent
    all_goals exact sent.submit submitted

theorem SequencerOnL1.known {loaded : Nat} {self : Sequencer Block AnvilBatchSink Store}
    (life : SequencerOnL1 loaded self) :
    (∀ batch ∈ self.batchSink.sent, batch ∈ Submitter.batches self) ∧
      ((Submitter.batches self).map (·.batchNumber)).Nodup := by
  constructor
  · intro batch member
    obtain ⟨entry, submitted, rfl⟩ := List.mem_map.mp (life.sent.sublist.subset member)
    obtain ⟨prepared, ⟨worker, spawned, success⟩, same⟩ := life.ledger.encoded.submissions entry submitted
    exact List.mem_filterMap.mpr ⟨worker, spawned, by simp [success, Except.toOption, same]⟩
  · have kept (worker : PreparationWorker Block) (batch : CompressedBatch) (prepared :
        (Sequencer.prepareBatchSync self.compressor worker).toOption.map (·.compressedBatch) = some batch) :
        batch.batchNumber = worker.batchNumber := by
      obtain ⟨done, success, rfl⟩ := Option.map_eq_some_iff.mp prepared
      cases made : Sequencer.prepareBatchSync self.compressor worker with
      | error e =>
        rw [made] at success
        cases success
      | ok other =>
        rw [made] at success
        cases success
        exact (Sequencer.prepareBatchSync_number made).2
    have numbers := filterMap_map_sublist kept self.spawned
    rw [life.ledger.cut.numbers] at numbers
    exact numbers.nodup List.nodup_range'

omit [CheckpointStore Store] in
/-- The batches that reached L1 are numbered from the one after the loaded checkpoint. -/
theorem SequencerOnL1.number {loaded index : Nat} {self : Sequencer Block AnvilBatchSink Store}
    {batch : CompressedBatch} (life : SequencerOnL1 loaded self)
    (sent : self.batchSink.sent[index]? = some batch) : batch.batchNumber = loaded + index + 1 := by
  have initial : self.batchSink.sent <+: self.submissions.map (·.1) := by
    have reached := life.sent
    have position := life.sequenced.position
    generalize self.submissions = submissions at reached position
    cases position with
    | skipping => exact reached.all (by simp) ▸ List.prefix_refl _
    | submitting _ answered _ => exact reached.all answered ▸ List.prefix_refl _
    | stuck _ answered => exact reached.prefix_of_last answered
  obtain ⟨inside, found⟩ := List.getElem?_eq_some_iff.mp sent
  have longer := initial.length_le
  rw [List.length_map] at longer
  have numbers := congrArg (·[index]?) life.sequenced.numbers
  simp only [List.getElem?_map, List.getElem?_eq_getElem (show index < self.submissions.length by omega),
    Option.map_some] at numbers
  rw [List.getElem?_eq_getElem (by simp; omega), List.getElem_range'] at numbers
  have handed := initial.getElem inside
  rw [found, List.getElem_map] at handed
  rw [handed, Option.some.inj numbers]
  omega

theorem SequencerOnL1.input {loaded : Nat} {self : Sequencer Block AnvilBatchSink Store}
    {input : Sequencer.Input Block} (kept : ∀ checkpoint, input ≠ .resume checkpoint)
    (life : SequencerOnL1 loaded self) : SequencerOnL1 loaded (self.step input) :=
  Runs.invariant_steps (SequencerOnL1 loaded) (fun _ _ => SequencerOnL1.step)
    (Sequencer.step_steps self input kept) life

/-- A sequencer and the source agree as far as its batches repeat at the distance of the
checkpoint that it loaded, so always if that is 0. -/
theorem sequencer_agrees_iff {channel : Channel (Sequencer Block AnvilBatchSink Store)}
    (launched : channel.submitter.Launched) (opened : channel.Opened)
    (events : List (Channel.Event (Sequencer.Input Block)))
    (foreign : ∀ event ∈ events, event.Foreign channel.sink.batchInbox)
    (lifetime : ∀ checkpoint, .submitter (.resume checkpoint) ∉ events)
    (regular : (channel.run events).Regular) :
    (channel.run events).Agrees ↔ ∀ index < (channel.run events).source.returned.length,
      SameContent (Submitter.batches (channel.run events).submitter) (index + 1)
        (channel.submitter.checkpoint.lastBatchSubmitted + index + 1) := by
  have initially : SequencerOnL1 channel.submitter.checkpoint.lastBatchSubmitted channel.submitter := by
    refine ⟨launched.ledger, launched.sequenced, ?_⟩
    obtain ⟨_, _, _, _, _, _, _, _, _, submissions, _, _⟩ := launched.start
    have sent : channel.submitter.batchSink.sent = [] := opened.sent
    rw [submissions, sent]
    exact .none
  obtain ⟨linked, _, life⟩ := opened.linked.run
    (SequencerOnL1 channel.submitter.checkpoint.lastBatchSubmitted)
    (fun input => ∀ checkpoint, input ≠ .resume checkpoint)
    (fun party input kept => SequencerOnL1.input kept)
    (fun party provider life => ⟨life.ledger.onSink _, ⟨life.sequenced.numbers, life.sequenced.placed,
      life.sequenced.position⟩, life.sent⟩) initially events foreign
    (fun input arrives checkpoint same => lifetime checkpoint (same ▸ arrives))
  obtain ⟨known, unique⟩ := life.known
  have bounded := fun batch member => regular.bounded batch (known batch member)
  rw [linked.agrees_iff regular known unique]
  constructor
  · intro same index inside
    obtain ⟨batch, sent, _⟩ := linked.returned_at regular.single bounded inside
    rw [← life.number sent]
    exact same index inside batch sent
  · intro same index inside batch sent
    rw [life.number sent]
    exact same index inside

end Sequencer

section Runner

variable {Block Source Tx : Type} [BlockResponse Block Tx] [BlockJson Block] [BlockSource Source Block]

/-- The batch runner, one iteration of its loop at a time. -/
instance : Submitter (RunLoop Block Source AnvilBatchSink) Unit where
  advance self _ := self.iterate
  sink self := self.runner.sink
  withSink self sink := { self with runner := { self.runner with sink } }
  batches self := self.attempts.filterMap (RunLoop.handedBatch self.runner.compressor)

omit [BlockSource Source Block] in
private theorem submitPending_submission (self : RunLoop Block Source AnvilBatchSink) :
    ReflTransGen Submission self.runner.sink self.submitPending.runner.sink ∧
      (Sent self.runner.submissions self.runner.sink.sent →
        Sent self.submitPending.runner.submissions self.submitPending.runner.sink.sent) := by
  obtain ⟨attempt, sink, metrics, callback, entries, _, _, outcome, _, same⟩ :=
    RunLoop.submitPending_cases self
  rw [same]
  rcases outcome with ⟨_, rfl, rfl, _⟩ | ⟨batch, answer, _, submitted, rfl, _⟩
  · exact ⟨.refl, fun sent => by simpa using sent⟩
  · exact ⟨.single ⟨batch, (congrArg Prod.snd submitted).symm⟩, fun sent => sent.submit submitted⟩

private theorem iterate_submission (self : RunLoop Block Source AnvilBatchSink) :
    ReflTransGen Submission self.runner.sink self.iterate.runner.sink ∧
      (Sent self.runner.submissions self.runner.sink.sent →
        Sent self.iterate.runner.submissions self.iterate.runner.sink.sent) := by
  rcases RunLoop.iterate_cases self with same |
    ⟨blocks, source, callback, metrics, fetching, grown, _, _, _, _, ⟨same, _⟩ | ⟨_, same⟩⟩ <;> rw [same]
  · exact ⟨.refl, id⟩
  · rw [grown]
    exact ⟨.refl, id⟩
  · have submitted := submitPending_submission fetching
    rwa [grown] at submitted ⊢

instance : LawfulSubmitter (RunLoop Block Source AnvilBatchSink) where
  sink_withSink _ _ := rfl
  sink_advance self _ := (iterate_submission self).1

/-- A run of the batch runner on L1 since its start. -/
structure RunnerOnL1 (start : BatchSubmissionRunner Source AnvilBatchSink) (startBlock : Nat)
    (loop : RunLoop Block Source AnvilBatchSink) : Prop where
  ledger : loop.Ledger start startBlock
  sent : Sent loop.runner.submissions loop.runner.sink.sent

theorem RunnerOnL1.known {start : BatchSubmissionRunner Source AnvilBatchSink} {startBlock : Nat}
    {self : RunLoop Block Source AnvilBatchSink} (first : start.submissions = [])
    (life : RunnerOnL1 start startBlock self) :
    (∀ batch ∈ self.runner.sink.sent, batch ∈ Submitter.batches self) ∧
      ((Submitter.batches self).map (·.batchNumber)).Nodup := by
  have compressor := life.ledger.compressor
  constructor
  · intro batch member
    obtain ⟨entry, submitted, rfl⟩ := List.mem_map.mp (life.sent.sublist.subset member)
    have handed := life.ledger.handed
    rw [first, List.map_nil, List.nil_append] at handed
    have listed : (entry.1, entry.2.isOk) ∈
        self.attempts.filterMap (RunLoop.handedOver start.compressor) := by
      rw [← handed]
      exact List.mem_map_of_mem submitted
    obtain ⟨attempt, tried, listed⟩ := List.mem_filterMap.mp listed
    obtain ⟨batch, packed, same⟩ := Option.map_eq_some_iff.mp listed
    rw [← (Prod.mk.inj same).1]
    exact List.mem_filterMap.mpr ⟨attempt, tried, by rw [compressor]; exact packed⟩
  · have kept (attempt : Attempt Block) (batch : CompressedBatch)
        (handed : RunLoop.handedBatch self.runner.compressor attempt = some batch) :
        batch.batchNumber = attempt.batchNumber := RunLoop.handedBatch_number handed
    have numbers := filterMap_map_sublist kept self.attempts
    rw [life.ledger.numbered] at numbers
    exact numbers.nodup List.nodup_range

theorem RunnerOnL1.iterate {start : BatchSubmissionRunner Source AnvilBatchSink} {startBlock : Nat}
    {self : RunLoop Block Source AnvilBatchSink} (life : RunnerOnL1 start startBlock self) :
    RunnerOnL1 start startBlock self.iterate :=
  ⟨life.ledger.iterate, (iterate_submission self).2 life.sent⟩

/-- The batch runner and the source agree as far as its batches have the same content as
those that reached L1 in their place. -/
theorem runner_agrees_iff {channel : Channel (RunLoop Block Source AnvilBatchSink)}
    {start : BatchSubmissionRunner Source AnvilBatchSink} {startBlock : Nat}
    (first : start.submissions = []) (begun : channel.submitter = .enter start startBlock)
    (opened : channel.Opened) (events : List (Channel.Event Unit))
    (foreign : ∀ event ∈ events, event.Foreign channel.sink.batchInbox)
    (regular : (channel.run events).Regular) :
    (channel.run events).Agrees ↔ ∀ index < (channel.run events).source.returned.length,
      ∀ batch, (channel.run events).sink.sent[index]? = some batch →
        SameContent (Submitter.batches (channel.run events).submitter) (index + 1) batch.batchNumber := by
  have initially : RunnerOnL1 start startBlock channel.submitter := by
    have sent : channel.submitter.runner.sink.sent = [] := opened.sent
    rw [begun] at sent ⊢
    refine ⟨RunLoop.ledger_run start startBlock 0, ?_⟩
    have none : (RunLoop.enter start startBlock : RunLoop Block Source AnvilBatchSink).runner.submissions =
      [] := first
    rw [none, sent]
    exact .none
  obtain ⟨linked, _, life⟩ := opened.linked.run (RunnerOnL1 start startBlock) (fun _ => True)
    (fun party _ _ => RunnerOnL1.iterate)
    (fun party provider life => by
      obtain ⟨⟨running, compressor, current, numbers, blocks, filled, counted, numbered, handed,
        packed⟩, sent⟩ := life
      exact ⟨⟨running, compressor, current, numbers, blocks, filled, counted, numbered, handed,
        packed⟩, sent⟩)
    initially events foreign (fun _ _ => trivial)
  obtain ⟨known, unique⟩ := life.known first
  exact linked.agrees_iff regular known unique

end Runner

section BothSubmitters

variable {Block Store Source Tx : Type} [BlockResponse Block Tx] [BlockJson Block]
variable [CheckpointStore Store] [BlockSource Source Block]

/-- Neither submitter numbers its batches from where the source counts. The sequencer
starts behind the checkpoint N that it loaded: the two agree as far as its batches n and
N + n have the same content. The batch runner starts at 0 and goes on after failures: the
two agree as far as its batch n has the same content as the n-th that reached L1. -/
theorem agrees_iff_sameContent (sequencing : Channel (Sequencer Block AnvilBatchSink Store))
    (events : List (Channel.Event (Sequencer.Input Block)))
    (running : Channel (RunLoop Block Source AnvilBatchSink))
    (start : BatchSubmissionRunner Source AnvilBatchSink) (startBlock : Nat)
    (rounds : List (Channel.Event Unit)) :
    (sequencing.submitter.Launched → sequencing.Opened →
      (∀ event ∈ events, event.Foreign sequencing.sink.batchInbox) →
      (∀ checkpoint, .submitter (.resume checkpoint) ∉ events) → (sequencing.run events).Regular →
      ((sequencing.run events).Agrees ↔ ∀ index < (sequencing.run events).source.returned.length,
        SameContent (Submitter.batches (sequencing.run events).submitter) (index + 1)
          (sequencing.submitter.checkpoint.lastBatchSubmitted + index + 1))) ∧
    (start.submissions = [] → running.submitter = .enter start startBlock → running.Opened →
      (∀ event ∈ rounds, event.Foreign running.sink.batchInbox) → (running.run rounds).Regular →
      ((running.run rounds).Agrees ↔ ∀ index < (running.run rounds).source.returned.length,
        ∀ batch, (running.run rounds).sink.sent[index]? = some batch →
          SameContent (Submitter.batches (running.run rounds).submitter) (index + 1)
            batch.batchNumber)) := by
  constructor
  · intro launched opened foreign lifetime regular
    exact sequencer_agrees_iff launched opened events foreign lifetime regular
  · intro first begun opened foreign regular
    exact runner_agrees_iff first begun opened rounds foreign regular

end BothSubmitters

section Examples

open Reference

/-- A sink and a source at address 1 of a chain that mines each transaction at once. -/
def sinkAt1 : AnvilBatchSink := .new (.fresh []) 0 1

/-- The batch runner with the blocks 1 and 2 in its first batch. -/
def runnerOnAnvil : Channel (RunLoop UInt8 RunLoop.ShortChain AnvilBatchSink) where
  submitter := .enter (.new ⟨2⟩ noop sinkAt1 { maxBlocksPerBatch := 2 }) 1
  source := .new (.fresh []) 1

/-- A sequencer that cuts every block into a batch, with this many batches submitted in an
earlier life. -/
def sequencerOnAnvil (submitted : Nat) : Channel (Sequencer UInt8 AnvilBatchSink Files) where
  submitter := .singleBlockBatches sinkAt1 ⟨[("checkpoint", { lastBatchSubmitted := submitted })]⟩
    { lastBatchSubmitted := submitted }
  source := .new (.fresh []) 1

/-- Two batches of one block, and then a look at L1. -/
def twoBatches : List (Channel.Event (Sequencer.Input UInt8)) :=
  Sequencer.reversedWorkers.map .submitter ++ [.nextBatch, .nextBatch]

example : ((sequencerOnAnvil 0).run twoBatches).source.returned = [⟨1, [7], 1, 7, 7⟩, ⟨2, [8], 1, 8, 8⟩] := by
  decide

/-- Batch 0 of the runner comes out as batch 1, and so does batch 2 of a sequencer that
loaded a checkpoint with batch 1 submitted. -/
theorem first_batch_misnumbered :
    (runnerOnAnvil.run [.submitter (), .nextBatch]).source.returned = [⟨1, [1, 2], 2, 1, 2⟩] ∧
      ¬ (runnerOnAnvil.run [.submitter (), .nextBatch]).Agrees ∧
      ((sequencerOnAnvil 1).run twoBatches).source.returned = [⟨1, [8], 1, 8, 8⟩] ∧
      ¬ ((sequencerOnAnvil 1).run twoBatches).Agrees := by
  refine ⟨by decide, ?_, by decide, ?_⟩
  · intro agrees
    exact absurd (agrees ⟨1, [1, 2], 2, 1, 2⟩ (by decide)) (by decide)
  · intro agrees
    exact absurd (agrees ⟨1, [8], 1, 8, 8⟩ (by decide)) (by decide)

/-- The runner on a chain that goes on for another batch. -/
def longerRunnerOnAnvil : Channel (RunLoop UInt8 RunLoop.ShortChain AnvilBatchSink) where
  submitter := .enter (.new ⟨4⟩ noop sinkAt1 { maxBlocksPerBatch := 2 }) 1
  source := .new (.fresh []) 1

/-- The runner's batch 0 fails to reach L1, and its batch 1 does. -/
def firstBatchFails : List (Channel.Event Unit) :=
  [.network [{ failure := some "connection refused" }], .submitter (), .submitter (), .nextBatch]

/-- From a fresh checkpoint the sequencer agrees; so does a runner whose batch 0 never
reached L1. -/
theorem fresh_sequencer_agrees :
    ((sequencerOnAnvil 0).run twoBatches).Agrees ∧
      (longerRunnerOnAnvil.run firstBatchFails).source.returned = [⟨1, [3, 4], 2, 3, 4⟩] ∧
      (longerRunnerOnAnvil.run firstBatchFails).Agrees := by
  have opened : (sequencerOnAnvil 0).Opened ∧ longerRunnerOnAnvil.Opened :=
    ⟨⟨rfl, rfl, rfl, nofun⟩, ⟨rfl, rfl, rfl, nofun⟩⟩
  have start : longerRunnerOnAnvil.submitter = .enter (.new ⟨4⟩ noop sinkAt1 { maxBlocksPerBatch := 2 }) 1 :=
    rfl
  obtain ⟨sequencer, runner⟩ := agrees_iff_sameContent (sequencerOnAnvil 0) twoBatches longerRunnerOnAnvil
    (.new ⟨4⟩ noop sinkAt1 { maxBlocksPerBatch := 2 }) 1 firstBatchFails
  refine ⟨?_, by decide, ?_⟩
  · refine (sequencer (.startingFrom rfl) opened.1 ?_ ?_ ⟨⟨by decide, by decide⟩, by decide⟩).mpr ?_
    · simp [twoBatches, Sequencer.reversedWorkers, Channel.Event.Foreign]
    · simp [twoBatches, Sequencer.reversedWorkers]
    · unfold SameContent
      decide
  · refine (runner rfl start opened.2 ?_ ⟨⟨by decide, by decide⟩, by decide⟩).mpr ?_
    · simp [firstBatchFails, Channel.Event.Foreign, Turn.Foreign]
    · unfold SameContent
      decide

end Examples

end Montana.Anvil
