import Montana.Node.Telemetry

/-! What a dashboard shows of the two roles, however far it is behind them. -/

namespace Montana.Node.L1Pipeline

open Adapters Anvil Roles Tui Vm

variable {Block Exec Result SequencerStore ValidatorStore Tx F : Type}
variable [BlockResponse Block Tx] [BlockJson Block]

section Calls

variable {Sink : Type} {sequencer : Sequencer Block Sink SequencerStore}

private theorem blocksOf_submission (ledger : sequencer.Ledger) (hasBlocks : sequencer.HasBlocks) {entry}
    (member : entry ∈ sequencer.submissions) : sequencer.blocksOf entry.1.batchNumber ≠ [] := by
  obtain ⟨prepared, ⟨worker, spawned, success⟩, same⟩ := ledger.encoded.submissions entry member
  have number := (Sequencer.prepareBatchSync_number success).2
  rw [← same, number, ledger.cut.blocksOf_worker spawned]
  exact hasBlocks worker spawned

/-- Every batch ends behind the one before. -/
theorem lastBlocks_ascending (orderly : sequencer.Orderly) (clean : sequencer.faults = [])
    (announced : sequencer.Announced) (hasBlocks : sequencer.HasBlocks)
    (consecutive : Consecutive sequencer.sent) :
    (sequencer.batchCalls.map (·.lastBlock)).Pairwise (· < ·) := by
  have tells := announced_tells orderly clean announced consecutive
  let last (entry : CompressedBatch × Except SinkError SubmissionReceipt) : Nat :=
    ((sequencer.blocksOf entry.1.batchNumber).getLast?.map BlockResponse.number).getD 0
  have lasts : List.Forall₂ Eq (sequencer.batchCalls.map (·.lastBlock)) (sequencer.submissions.map last) := by
    rw [List.forall₂_map_left_iff, List.forall₂_map_right_iff]
    exact tells.imp fun call entry told => told.last
  rw [List.forall₂_eq_eq_eq] at lasts
  have blocks := (consecutive.of_infix (submittedBlocks_isPrefix orderly clean).isInfix).ascending
  rw [Sequencer.submittedBlocks, ← (orderly.ordered clean).submissions_all, List.flatMap_map,
    List.pairwise_flatMap] at blocks
  rw [lasts, List.pairwise_map]
  refine blocks.2.imp_of_mem ?_
  intro earlier later member after above
  have some := blocksOf_submission orderly.ledger hasBlocks member
  have more := blocksOf_submission orderly.ledger hasBlocks after
  have bound := above _ (List.getLast_mem some) _ (List.getLast_mem more)
  simp only [last, List.getLast?_eq_some_getLast some, List.getLast?_eq_some_getLast more, Option.map_some,
    Option.getD_some]
  exact bound

/-- No two batches are reported under one number. -/
theorem batchNumbers_distinct (orderly : sequencer.Orderly) (clean : sequencer.faults = [])
    (announced : sequencer.Announced) (consecutive : Consecutive sequencer.sent) :
    (sequencer.batchCalls.map (·.batchNumber)).Nodup := by
  have ordered := orderly.ordered clean
  have headers := congrArg (List.map BatchHeader.batchNumber)
    (headers_submitted orderly clean announced consecutive)
  rw [List.map_map, List.map_map] at headers
  have numbers : sequencer.batchCalls.map (·.batchNumber) = sequencer.submissions.map (·.1.batchNumber) := headers
  rw [numbers, ordered.submissions_all, ordered.submitted]
  exact List.nodup_range'

end Calls

section Runs

variable [CheckpointStore SequencerStore] [Executor Exec Block Result] [CheckpointStore ValidatorStore]

private theorem hasBlocks_run {start : L1Pipeline Block Exec Result SequencerStore ValidatorStore}
    (launched : start.sequencer.Launched) (positive : 0 < start.sequencer.batcherConfig.maxBlocksPerBatch)
    (inputs : List (Input Block)) (lifetime : ∀ input ∈ inputs, input.restarts = false) :
    (start.run inputs).sequencer.HasBlocks := by
  suffices (start.run inputs).sequencer.HasBlocks ∧
      (start.run inputs).sequencer.batcherConfig = start.sequencer.batcherConfig from this.1
  refine Runs.invariant_run (fun reached : L1Pipeline Block Exec Result SequencerStore ValidatorStore =>
    reached.sequencer.HasBlocks ∧ reached.sequencer.batcherConfig = start.sequencer.batcherConfig) inputs ?_ ?_
  · intro reached input arrives kept
    obtain ⟨hasBlocks, same⟩ := kept
    cases input with
    | sequencer input =>
      have steps := Sequencer.step_steps reached.sequencer input (fun checkpoint restart => by
        have kept := lifetime _ arrives
        rw [restart] at kept
        cases kept)
      exact ⟨hasBlocks.input input (by rw [same]; exact positive), (Sequencer.steps_fixed steps).1.trans same⟩
    | validator input => exact ⟨hasBlocks.same rfl, same⟩
    | network schedule => exact ⟨hasBlocks.same rfl, same⟩
  · obtain ⟨_, _, _, _, _, spawned, _, _, _, _, _, _⟩ := launched.start
    refine ⟨?_, rfl⟩
    rw [Sequencer.HasBlocks, spawned]
    intro worker member
    cases member

/-- What a dashboard heard of the heads is what was sent up to some moment. -/
structure Listens (passes : List (Pass F)) (sent told : List (TuiEvent F)) : Prop where
  initial : told <+: sent
  heard : ((Trace.listen passes).heard.map (·.2)).filter aboutHeads = told.filter aboutHeads

omit [BlockResponse Block Tx] [BlockJson Block] [CheckpointStore SequencerStore] [Executor Exec Block Result]
  [CheckpointStore ValidatorStore] in
theorem Listens.reports {passes : List (Pass F)} {sent told : List (TuiEvent F)}
    (listens : Listens passes sent told) {Report : Type} {report : TuiEvent F → Option Report}
    (moves : ∀ event, (report event).isSome → aboutHeads event) :
    ((Trace.listen passes).heard.map (·.2)).filterMap report = told.filterMap report := by
  rw [← Traces.filterMap_filter_of_isSome moves, listens.heard, Traces.filterMap_filter_of_isSome moves]

variable [LawfulBlockJson Block]

omit [Executor Exec Block Result] [CheckpointStore ValidatorStore] in
theorem Watched.matched {self : Observed Block Exec Result SequencerStore ValidatorStore F}
    (watched : Watched self) (regular : Regular self.system.sequencer)
    (consecutive : Consecutive self.system.sequencer.sent) : Matched self.telemetry.sent := by
  have distinct := batchNumbers_distinct watched.linked.submits.orderly regular.clean
    (watched.announced regular.clean) consecutive
  exact (watched.tracks regular consecutive).numbers distinct (watched.derivable regular consecutive)

/-- A dashboard that listens to both roles, however late, never shows the finalized head ahead
of the safe one or more batches derived than submitted. -/
theorem dashboard_heads [F64 F] {start : Observed Block Exec Result SequencerStore ValidatorStore F}
    (opened : start.Opened) (roundtrips : start.system.sequencer.compressor.Roundtrips)
    (positive : 0 < start.system.sequencer.batcherConfig.maxBlocksPerBatch) (measured : Nat → Nat)
    (inputs : List (Input Block)) (lifetime : ∀ input ∈ inputs, input.restarts = false)
    (foreign : ∀ input ∈ inputs, input.Foreign start.system.sequencer.batchSink.batchInbox)
    (regular : Regular (start.run measured inputs).system.sequencer)
    (consecutive : Consecutive (start.run measured inputs).system.sequencer.sent)
    {limits : Limits} {passes : List (Pass F)} {app : App F}
    (running : eventLoop limits App.new passes = .running app) {told : List (TuiEvent F)}
    (listens : Listens passes (start.run measured inputs).telemetry.sent told) :
    app.finalizedHead ≤ app.safeHead ∧ app.batchesDerived ≤ app.batchesSubmitted := by
  have watched := opened.watched_run roundtrips measured inputs lifetime foreign
  have tracks := watched.tracks regular consecutive
  have orderly := watched.linked.submits.orderly
  have hasBlocks := hasBlocks_run opened.system.sequencer positive inputs lifetime
  rw [← Observed.run_system measured inputs start] at hasBlocks
  have ascending :=
    lastBlocks_ascending orderly regular.clean (watched.announced regular.clean) hasBlocks consecutive
  obtain ⟨safe, finalized, submitted, derived⟩ := running_heads running
  constructor
  · rw [safe, finalized, Traces.lastAbout, Traces.lastAbout, listens.reports safeReport_moves,
      listens.reports finalizedReport_moves]
    cases last : (told.filterMap finalizedReport).getLast? with
    | none => exact Nat.zero_le _
    | some head =>
      -- the report that came before it is not above the last one
      obtain ⟨reported, earlier, bound⟩ := (tracks.behind.of_isPrefix listens.initial).mem
        (List.mem_of_getLast? last)
      have initial := listens.initial.filterMap safeReport
      rw [tracks.safe] at initial
      have sorted := ascending.sublist initial.sublist
      have some := List.ne_nil_of_mem earlier
      rw [List.getLast?_eq_some_getLast some]
      exact Nat.le_trans bound ((sorted.imp Nat.le_of_lt).rel_getLast earlier)
  · rw [submitted, derived, listens.reports submittedNumber_moves, listens.reports derivedNumber_moves]
    exact ((watched.matched regular consecutive).of_isPrefix listens.initial).length_le

/-- No round trip is lost: a dashboard that listens to both roles has a time for every batch
whose derivation it heard of, and waits for just those that it heard to be submitted. -/
theorem dashboard_roundTrips [F64 F] {start : Observed Block Exec Result SequencerStore ValidatorStore F}
    (opened : start.Opened) (roundtrips : start.system.sequencer.compressor.Roundtrips) (measured : Nat → Nat)
    (inputs : List (Input Block)) (lifetime : ∀ input ∈ inputs, input.restarts = false)
    (foreign : ∀ input ∈ inputs, input.Foreign start.system.sequencer.batchSink.batchInbox)
    (regular : Regular (start.run measured inputs).system.sequencer)
    (consecutive : Consecutive (start.run measured inputs).system.sequencer.sent)
    {limits : Limits} {passes : List (Pass F)} {app : App F}
    (running : eventLoop limits App.new passes = .running app) {told : List (TuiEvent F)}
    (listens : Listens passes (start.run measured inputs).telemetry.sent told) :
    (∃ latencies, app.roundTripLatencies = SlidingWindow.last limits.samples latencies ∧
      latencies.length = app.batchesDerived) ∧
    ∀ batchNumber, (app.batchSubmitTimes.lookup batchNumber).isSome ↔
      batchNumber ∈ told.filterMap submittedNumber ∧ batchNumber ∉ told.filterMap derivedNumber := by
  have watched := opened.watched_run roundtrips measured inputs lifetime foreign
  have matched := (watched.matched regular consecutive).of_isPrefix listens.initial
  have heard : Matched ((Trace.listen passes).heard.map (·.2)) := by
    rw [← matched_aboutHeads, listens.heard, matched_aboutHeads]
    exact matched
  obtain ⟨latencies, pending⟩ := timed heard
  have derived := (running_heads running).derived
  obtain ⟨whole, _, clocks, rfl⟩ := running_panels running
  constructor
  · refine ⟨whole.roundTripLatencies, rfl, ?_⟩
    rw [clocks.latencies, derived]
    exact latencies
  · intro batchNumber
    rw [← listens.reports submittedNumber_moves, ← listens.reports derivedNumber_moves, ← pending batchNumber,
      ← clocks.pending batchNumber]
    rfl

end Runs

section Examples

open Reference

/-- What the dashboard heard when the second batch was submitted. -/
def busyTold : List (TuiEvent Nat) :=
  [.batchSubmitted 1 1 7 7 1 1, .batchIncludedInL1 0 1 1, .l1BlockProduced 1, .blockDerived 7 7 0 3,
    .batchDerived 1 1 7 7, .batchSubmitted 2 1 8 8 1 1]

/-- A transaction is executed and reported meanwhile. -/
def busyPasses : List (Pass Nat) :=
  [⟨false, .ok none, (busyTold.take 3).map (heardAt 1000000)⟩,
    ⟨false, .ok (some .other), [heardAt 2000000 (.blockExecuted 8 40 21000)]⟩,
    ⟨false, .ok none, (busyTold.drop 3).map (heardAt 3000000)⟩]

def busyApp : App Nat :=
  match eventLoop .source App.new busyPasses with
  | .running app => app
  | _ => App.new

private theorem busyPasses_listen : Listens busyPasses busy.telemetry.sent busyTold :=
  ⟨by decide +kernel, by decide +kernel⟩

theorem busyApp_heads :
    busyApp.finalizedHead ≤ busyApp.safeHead ∧ busyApp.batchesDerived ≤ busyApp.batchesSubmitted :=
  dashboard_heads busyRoles_opened noop_roundtrips (by decide) (fun _ => 3) busyInputs (by decide)
    busyInputs_foreign busy_regular busy_consecutive rfl busyPasses_listen

theorem busyApp_roundTrips :
    (∃ latencies, busyApp.roundTripLatencies = SlidingWindow.last Limits.source.samples latencies ∧
      latencies.length = busyApp.batchesDerived) ∧
    ∀ batchNumber, (busyApp.batchSubmitTimes.lookup batchNumber).isSome ↔
      batchNumber ∈ busyTold.filterMap submittedNumber ∧ batchNumber ∉ busyTold.filterMap derivedNumber :=
  dashboard_roundTrips busyRoles_opened noop_roundtrips (fun _ => 3) busyInputs (by decide)
    busyInputs_foreign busy_regular busy_consecutive rfl busyPasses_listen

end Examples

end Montana.Node.L1Pipeline
