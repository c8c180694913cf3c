import Montana.Lib.Traces
import Montana.Tui.Trace

/-! The L1 panel and the round trip times, as functions of what the dashboard heard. -/

namespace Montana.Tui

open SlidingWindow (last modifyFirst modifyFirst_eq_map records records_append records_le_summit summit
  summit_append)
open Traces (gathered gathered_append lastAbout lastAbout_append lastAbout_mem)

section Heard

variable {F : Type}

/-- What a dashboard hears, each with its readings of the clock. -/
abbrev Arrived (F : Type) := Readings × TuiEvent F

/-- The L1 block that an event tells of. -/
def l1Number (arrived : Arrived F) : Option Nat :=
  match arrived.2 with
  | .l1BlockProduced blockNumber => some blockNumber
  | .batchIncludedInL1 l1BlockNumber _ _ => some l1BlockNumber
  | _ => none

/-- A batch in this L1 block, with the number of its blocks. -/
def inclusionIn (l1BlockNumber : Nat) (arrived : Arrived F) : Option (Nat × Nat) :=
  match arrived.2 with
  | .batchIncludedInL1 included batchNumber blockCount =>
    if included = l1BlockNumber then some (batchNumber, blockCount) else none
  | _ => none

/-- The L1 block that this batch is reported in. -/
def inclusionOf (batchNumber : Nat) (arrived : Arrived F) : Option Nat :=
  match arrived.2 with
  | .batchIncludedInL1 l1BlockNumber included _ => if included = batchNumber then some l1BlockNumber else none
  | _ => none

/-- A derived batch points to the L1 block that it was last reported in. -/
def derivedFrom (before : List (Arrived F)) (arrived : Arrived F) : List Nat :=
  match arrived.2 with
  | .batchDerived batchNumber _ _ _ => (lastAbout (inclusionOf batchNumber) before).toList
  | _ => []

/-- The L1 blocks that are new when they are first told of, each with the last batch that
it was said to include. -/
def l1Panel (heard : List (Arrived F)) : List L1Block :=
  (records 0 (heard.filterMap l1Number)).map fun number =>
    { number
      batchNumber := (lastAbout (inclusionIn number) heard).map (·.1)
      batchBlockCount := (lastAbout (inclusionIn number) heard).map (·.2)
      isDerivationOrigin := decide (number ∈ gathered derivedFrom [] heard) }

/-- The last thing heard about a batch: when it was submitted, or that it was derived. -/
def submission (batchNumber : Nat) (arrived : Arrived F) : Option (Option Instant) :=
  match arrived.2 with
  | .batchSubmitted submitted _ _ _ _ _ => if submitted = batchNumber then some (some (arrived.1 0)) else none
  | .batchDerived derived _ _ _ => if derived = batchNumber then some none else none
  | _ => none

/-- The times of submission of the batches that were not derived since. -/
def outstanding (heard : List (Arrived F)) (batchNumber : Nat) : Option Instant :=
  (lastAbout (submission batchNumber) heard).join

def roundTrip (before : List (Arrived F)) (arrived : Arrived F) : List Nat :=
  match arrived.2 with
  | .batchDerived batchNumber _ _ _ =>
    ((outstanding before batchNumber).map fun submitTime => Duration.asMillis (arrived.1 0 - submitTime)).toList
  | _ => []

private theorem inclusionIn_l1Number {number : Nat} {arrived : Arrived F} {inclusion : Nat × Nat}
    (included : inclusionIn number arrived = some inclusion) : l1Number arrived = some number := by
  obtain ⟨clock, event⟩ := arrived
  cases event with
  | batchIncludedInL1 l1BlockNumber batchNumber blockCount =>
    simp only [inclusionIn, Option.ite_none_right_eq_some] at included
    exact congrArg some included.1
  | _ => cases included

private theorem inclusionOf_l1Number {batchNumber number : Nat} {arrived : Arrived F}
    (included : inclusionOf batchNumber arrived = some number) : l1Number arrived = some number := by
  obtain ⟨clock, event⟩ := arrived
  cases event with
  | batchIncludedInL1 l1BlockNumber other blockCount =>
    simp only [inclusionOf, Option.ite_none_right_eq_some] at included
    exact included.2
  | _ => cases included

/-- A block above the head was in no report so far. -/
theorem lastAbout_inclusionIn_none {number : Nat} {heard : List (Arrived F)}
    (higher : number > summit 0 (heard.filterMap l1Number)) :
    lastAbout (inclusionIn number) heard = none := by
  cases reported : lastAbout (inclusionIn number) heard with
  | none => rfl
  | some inclusion =>
    obtain ⟨arrived, member, included⟩ := lastAbout_mem reported
    have listed := List.mem_filterMap.mpr ⟨arrived, member, inclusionIn_l1Number included⟩
    exact absurd (SlidingWindow.le_summit 0 _ number listed) (Nat.not_le_of_lt higher)

private theorem derivedFrom_listed {heard : List (Arrived F)} {number : Nat}
    (derived : number ∈ gathered derivedFrom [] heard) : number ∈ heard.filterMap l1Number := by
  induction heard using List.reverseRecOn with
  | nil => cases derived
  | append_singleton heard arrived ih =>
    rw [gathered_append] at derived
    rw [List.filterMap_append]
    apply List.mem_append_left
    rcases List.mem_append.mp derived with earlier | here
    · exact ih earlier
    · obtain ⟨clock, event⟩ := arrived
      cases event with
      | batchDerived batchNumber blockCount firstBlock lastBlock =>
        obtain ⟨inclusion, member, included⟩ := lastAbout_mem (Option.mem_toList.mp here)
        exact List.mem_filterMap.mpr ⟨inclusion, member, inclusionOf_l1Number included⟩
      | _ => cases here

/-- The L1 part of a dashboard that forgets nothing is what it heard. -/
structure Displays (heard : List (Arrived F)) (app : App F) : Prop where
  blocks : app.l1Blocks = l1Panel heard
  head : app.l1Head = summit 0 (heard.filterMap l1Number)
  inclusions : ∀ batchNumber, app.batchToL1Block.lookup batchNumber = lastAbout (inclusionOf batchNumber) heard

theorem Displays.ascending {heard : List (Arrived F)} {app : App F} (displays : Displays heard app) :
    app.Ascending := by
  have numbers : app.l1Blocks.map (·.number) = records 0 (heard.filterMap l1Number) := by
    rw [displays.blocks, l1Panel, List.map_map]
    exact List.map_id _
  constructor
  · rw [numbers]
    exact SlidingWindow.records_ascending 0 _
  · intro block member
    have listed : block.number ∈ app.l1Blocks.map (·.number) := List.mem_map_of_mem member
    rw [numbers] at listed
    rw [displays.head]
    exact records_le_summit 0 _ _ listed

/-- An event that tells of no L1 block changes nothing. -/
theorem Displays.other {heard : List (Arrived F)} {app next : App F} {arrived : Arrived F}
    (displays : Displays heard app) (silent : l1Number arrived = none) (nothing : derivedFrom heard arrived = [])
    (blocks : next.l1Blocks = app.l1Blocks) (head : next.l1Head = app.l1Head)
    (inclusions : next.batchToL1Block = app.batchToL1Block) : Displays (heard ++ [arrived]) next := by
  have outside (number : Nat) : inclusionIn number arrived = none := by
    cases included : inclusionIn number arrived with
    | none => rfl
    | some inclusion => exact absurd (inclusionIn_l1Number included) (by simp [silent])
  have elsewhere (batchNumber : Nat) : inclusionOf batchNumber arrived = none := by
    cases included : inclusionOf batchNumber arrived with
    | none => rfl
    | some number => exact absurd (inclusionOf_l1Number included) (by simp [silent])
  constructor
  · simp [blocks, displays.blocks, l1Panel, List.filterMap_append, gathered_append, lastAbout_append, silent,
      nothing, outside]
  · simp [head, displays.head, List.filterMap_append, silent]
  · intro batchNumber
    simp [inclusions, displays.inclusions, lastAbout_append, elsewhere]

theorem Displays.recordL1Block {heard : List (Arrived F)} {app : App F} (displays : Displays heard app)
    (clock : Readings) (blockNumber : Nat) :
    Displays (heard ++ [(clock, .l1BlockProduced blockNumber)]) (app.recordL1Block .unbounded blockNumber) := by
  have numbers : (heard ++ [(clock, TuiEvent.l1BlockProduced blockNumber)]).filterMap l1Number =
      heard.filterMap l1Number ++ [blockNumber] := by
    simp [l1Number]
  by_cases higher : blockNumber > app.l1Head
  · have above := displays.head ▸ higher
    have unmarked : blockNumber ∉ gathered derivedFrom [] heard := by
      intro derived
      exact absurd (SlidingWindow.le_summit 0 _ _ (derivedFrom_listed derived)) (Nat.not_le_of_lt above)
    simp only [App.recordL1Block, if_pos higher]
    constructor
    · simp [displays.blocks, l1Panel, numbers, records_append, above, gathered_append, lastAbout_append,
        inclusionIn, derivedFrom, lastAbout_inclusionIn_none above, unmarked, Limits.unbounded]
    · simp [numbers, summit_append, Nat.max_eq_right (Nat.le_of_lt above)]
    · intro batchNumber
      simp [lastAbout_append, inclusionOf, displays.inclusions]
  · have below : blockNumber ≤ summit 0 (heard.filterMap l1Number) :=
      displays.head ▸ Nat.le_of_not_lt higher
    simp only [App.recordL1Block, if_neg higher]
    constructor
    · simp [displays.blocks, l1Panel, numbers, records_append, Nat.not_lt_of_le below, gathered_append,
        lastAbout_append, inclusionIn, derivedFrom]
    · simp [displays.head, numbers, summit_append, Nat.max_eq_left below]
    · intro batchNumber
      simp [lastAbout_append, inclusionOf, displays.inclusions]

theorem Displays.recordBatchInL1Block {heard : List (Arrived F)} {app : App F} (displays : Displays heard app)
    (clock : Readings) (l1BlockNumber batchNumber blockCount : Nat) :
    Displays (heard ++ [(clock, .batchIncludedInL1 l1BlockNumber batchNumber blockCount)])
      (app.recordBatchInL1Block .unbounded l1BlockNumber batchNumber blockCount) := by
  have numbers : (heard ++ [(clock, TuiEvent.batchIncludedInL1 l1BlockNumber batchNumber blockCount)]).filterMap
      l1Number = heard.filterMap l1Number ++ [l1BlockNumber] := by
    simp [l1Number]
  have inclusions (batch : Nat) : (app.batchToL1Block.insert batchNumber l1BlockNumber).lookup batch =
      lastAbout (inclusionOf batch)
        (heard ++ [(clock, .batchIncludedInL1 l1BlockNumber batchNumber blockCount)]) := by
    rw [lastAbout_append, ← displays.inclusions]
    by_cases same : batch = batchNumber
    · subst same
      simp [inclusionOf]
    · simp [inclusionOf, same, Ne.symm same]
  by_cases higher : l1BlockNumber > app.l1Head
  · have above := displays.head ▸ higher
    have unmarked : l1BlockNumber ∉ gathered derivedFrom [] heard := by
      intro derived
      exact absurd (SlidingWindow.le_summit 0 _ _ (derivedFrom_listed derived)) (Nat.not_le_of_lt above)
    have others : ∀ number ∈ records 0 (heard.filterMap l1Number), l1BlockNumber ≠ number := by
      intro number member same
      exact absurd (records_le_summit 0 _ number member) (Nat.not_le_of_lt (same ▸ above))
    simp only [App.recordBatchInL1Block, if_pos higher]
    constructor
    · simp only [displays.blocks, l1Panel, numbers, records_append, if_pos above, gathered_append,
        lastAbout_append, List.map_append, SlidingWindow.push_none, Limits.unbounded]
      congr 1
      · apply List.map_congr_left
        intro number member
        simp [inclusionIn, derivedFrom, others number member]
      · simp [inclusionIn, derivedFrom, unmarked]
    · simp [numbers, summit_append, Nat.max_eq_right (Nat.le_of_lt above)]
    · exact inclusions
  · have below : l1BlockNumber ≤ summit 0 (heard.filterMap l1Number) :=
      displays.head ▸ Nat.le_of_not_lt higher
    simp only [App.recordBatchInL1Block, if_neg higher]
    constructor
    · have distinct := displays.ascending.distinct
      simp only [modifyFirst_eq_map distinct]
      rw [displays.blocks, l1Panel, l1Panel, numbers, records_append, if_neg (Nat.not_lt_of_le below), List.map_map]
      apply List.map_congr_left
      intro number member
      by_cases here : number = l1BlockNumber
      · subst here
        simp [lastAbout_append, inclusionIn, gathered_append, derivedFrom]
      · simp [here, Ne.symm here, lastAbout_append, inclusionIn, gathered_append, derivedFrom]
    · simp [displays.head, numbers, summit_append, Nat.max_eq_left below]
    · exact inclusions

theorem Displays.recordBatchDerivationOrigin {heard : List (Arrived F)} {app : App F}
    (displays : Displays heard app) (clock : Readings) (batchNumber blockCount firstBlock lastBlock : Nat) :
    Displays (heard ++ [(clock, .batchDerived batchNumber blockCount firstBlock lastBlock)])
      (app.recordBatchDerivationOrigin batchNumber) := by
  have silent : l1Number (clock, (TuiEvent.batchDerived batchNumber blockCount firstBlock lastBlock : TuiEvent F)) =
    none := rfl
  unfold App.recordBatchDerivationOrigin
  split
  · rename_i l1Block found
    rw [displays.inclusions] at found
    constructor
    · have distinct := displays.ascending.distinct
      simp only [App.recordDerivationOrigin, modifyFirst_eq_map distinct]
      have numbers : (heard ++ [(clock, TuiEvent.batchDerived batchNumber blockCount firstBlock
          lastBlock)]).filterMap l1Number = heard.filterMap l1Number := by
        simp [silent]
      rw [displays.blocks, l1Panel, l1Panel, numbers, List.map_map]
      apply List.map_congr_left
      intro number member
      by_cases here : number = l1Block
      · subst here
        simp [lastAbout_append, inclusionIn, gathered_append, derivedFrom, found]
      · simp [here, lastAbout_append, inclusionIn, gathered_append, derivedFrom, found]
    · simp [App.recordDerivationOrigin, displays.head, List.filterMap_append, silent]
    · intro batch
      simp [App.recordDerivationOrigin, displays.inclusions, lastAbout_append, inclusionOf]
  · rename_i missing
    rw [displays.inclusions] at missing
    refine displays.other silent ?_ rfl rfl rfl
    simp [derivedFrom, missing]

theorem Displays.of_same {heard : List (Arrived F)} {app next : App F} (displays : Displays heard app)
    (blocks : next.l1Blocks = app.l1Blocks) (head : next.l1Head = app.l1Head)
    (inclusions : next.batchToL1Block = app.batchToL1Block) : Displays heard next :=
  ⟨blocks ▸ displays.blocks, head ▸ displays.head, inclusions ▸ displays.inclusions⟩

/-- The submissions and the round trips of a dashboard that forgets nothing are what it heard. -/
structure Clocks (heard : List (Arrived F)) (app : App F) : Prop where
  pending : ∀ batchNumber, app.batchSubmitTimes.lookup batchNumber = outstanding heard batchNumber
  latencies : app.roundTripLatencies = gathered roundTrip [] heard

theorem Clocks.recordBatchSubmit {heard : List (Arrived F)} {app : App F} (clocks : Clocks heard app)
    (clock : Readings) (batchNumber blockCount firstBlock lastBlock uncompressedSize compressedSize : Nat) :
    Clocks (heard ++ [(clock, .batchSubmitted batchNumber blockCount firstBlock lastBlock uncompressedSize
      compressedSize)]) (app.recordBatchSubmit batchNumber (clock 0)) := by
  constructor
  · intro batch
    rw [outstanding, lastAbout_append, App.recordBatchSubmit]
    by_cases same : batch = batchNumber
    · subst same
      simp [submission]
    · simp [submission, same, Ne.symm same, clocks.pending, outstanding]
  · simp [App.recordBatchSubmit, clocks.latencies, gathered_append, roundTrip]

theorem Clocks.recordBatchDerived {heard : List (Arrived F)} {app : App F} (clocks : Clocks heard app)
    (clock : Readings) (batchNumber blockCount firstBlock lastBlock : Nat) :
    Clocks (heard ++ [(clock, .batchDerived batchNumber blockCount firstBlock lastBlock)])
      (app.recordBatchDerived .unbounded batchNumber (clock 0)) := by
  have after (batch : Nat) : outstanding
      (heard ++ [(clock, TuiEvent.batchDerived batchNumber blockCount firstBlock lastBlock)]) batch =
        if batch = batchNumber then none else outstanding heard batch := by
    rw [outstanding, lastAbout_append]
    by_cases same : batch = batchNumber
    · subst same
      simp [submission]
    · simp [submission, same, Ne.symm same, outstanding]
  unfold App.recordBatchDerived
  cases found : app.batchSubmitTimes.lookup batchNumber with
  | none =>
    have missing := found
    rw [clocks.pending] at missing
    constructor
    · intro batch
      rw [after]
      by_cases same : batch = batchNumber
      · subst same
        rw [if_pos rfl]
        exact found
      · rw [if_neg same]
        exact clocks.pending batch
    · simp [clocks.latencies, gathered_append, roundTrip, missing]
  | some submitTime =>
    have known := found
    rw [clocks.pending] at known
    constructor
    · intro batch
      rw [after]
      by_cases same : batch = batchNumber
      · subst same
        rw [if_pos rfl]
        exact AList.lookup_erase _ _
      · rw [if_neg same, ← clocks.pending]
        exact AList.lookup_erase_ne same
    · simp [App.recordLatency, clocks.latencies, gathered_append, roundTrip, known, Limits.unbounded]

theorem Clocks.other {heard : List (Arrived F)} {app next : App F} {arrived : Arrived F}
    (clocks : Clocks heard app) (silent : ∀ batchNumber, submission batchNumber arrived = none)
    (nothing : roundTrip heard arrived = []) (pending : next.batchSubmitTimes = app.batchSubmitTimes)
    (latencies : next.roundTripLatencies = app.roundTripLatencies) : Clocks (heard ++ [arrived]) next := by
  constructor
  · intro batchNumber
    rw [pending, clocks.pending, outstanding, outstanding, lastAbout_append, silent, Option.none_or]
  · rw [latencies, clocks.latencies, gathered_append, List.nil_append, nothing, List.append_nil]

/-- The events after which the times of the batches may be others. -/
def TuiEvent.aboutTimes : TuiEvent F → Bool
  | .batchSubmitted .. | .batchDerived .. | .reset => true
  | _ => false

private theorem App.recordBatchDerivationOrigin_times (app : App F) (batchNumber : Nat) :
    (app.recordBatchDerivationOrigin batchNumber).batchSubmitTimes = app.batchSubmitTimes ∧
      (app.recordBatchDerivationOrigin batchNumber).roundTripLatencies = app.roundTripLatencies := by
  unfold recordBatchDerivationOrigin
  cases app.batchToL1Block.lookup batchNumber <;> exact ⟨rfl, rfl⟩

end Heard

section Replays

variable {F : Type} [F64 F]

private theorem processEvent_times {limits : Limits} {app next : App F} {clock : Readings}
    {event : TuiEvent F}
    (processed : processEvent limits app clock event = some next) (other : event.aboutTimes = false) :
    next.batchSubmitTimes = app.batchSubmitTimes ∧ next.roundTripLatencies = app.roundTripLatencies := by
  cases event with
  | batchSubmitted _ _ _ _ _ _ | batchDerived _ _ _ _ | reset => cases other
  | blockBuilderInit rpcUrl pollIntervalMs =>
    obtain ⟨displayUrl, _, rfl⟩ := Option.map_eq_some_iff.mp processed
    dsimp only
    split <;> exact ⟨rfl, rfl⟩
  | l1BlockProduced blockNumber =>
    cases processed
    unfold App.recordL1Block
    split <;> exact ⟨rfl, rfl⟩
  | batchIncludedInL1 l1BlockNumber batchNumber blockCount =>
    cases processed
    unfold App.recordBatchInL1Block
    dsimp only
    split <;> exact ⟨rfl, rfl⟩
  | syncProgress _ _ _ _ | blockBuilt _ _ _ _ | sequencerInit _ _ _ _ | validatorInit _
  | executionInit _ _ _ | waitingForChain _ =>
    rw [← Option.some.inj processed]
    repeat' split
    all_goals exact ⟨rfl, rfl⟩
  | _ =>
    cases processed
    exact ⟨rfl, rfl⟩

theorem Displays.processEvent {heard : List (Arrived F)} {app next : App F} {arrived : Arrived F}
    (displays : Displays heard app) (kept : arrived.2 ≠ .reset)
    (processed : processEvent .unbounded app arrived.1 arrived.2 = some next) :
    Displays (heard ++ [arrived]) next := by
  obtain ⟨clock, event⟩ := arrived
  cases event with
  | reset => exact absurd rfl kept
  | batchDerived batchNumber blockCount firstBlock lastBlock =>
    cases processed
    have recorded : Displays heard ((app.recordBatchDerived .unbounded batchNumber (clock 0)).setFinalizedHead
        lastBlock) :=
      displays.of_same (App.recordBatchDerived_l1Blocks ..) (App.recordBatchDerived_l1Head ..)
        (App.recordBatchDerived_batchToL1Block ..)
    exact (recorded.recordBatchDerivationOrigin clock batchNumber blockCount firstBlock lastBlock).of_same
      rfl rfl rfl
  | l1BlockProduced blockNumber =>
    cases processed
    exact displays.recordL1Block clock blockNumber
  | batchIncludedInL1 l1BlockNumber batchNumber blockCount =>
    cases processed
    exact displays.recordBatchInL1Block clock l1BlockNumber batchNumber blockCount
  | _ =>
    obtain ⟨blocks, head, inclusions⟩ := processEvent_l1 processed rfl
    exact displays.other rfl rfl blocks head inclusions

theorem Clocks.processEvent {heard : List (Arrived F)} {app next : App F} {arrived : Arrived F}
    (clocks : Clocks heard app) (kept : arrived.2 ≠ .reset)
    (processed : processEvent .unbounded app arrived.1 arrived.2 = some next) :
    Clocks (heard ++ [arrived]) next := by
  obtain ⟨clock, event⟩ := arrived
  cases event with
  | reset => exact absurd rfl kept
  | batchSubmitted batchNumber blockCount firstBlock lastBlock uncompressedSize compressedSize =>
    cases processed
    obtain ⟨pending, latencies⟩ := clocks.recordBatchSubmit clock batchNumber blockCount firstBlock lastBlock
      uncompressedSize compressedSize
    exact ⟨pending, latencies⟩
  | batchDerived batchNumber blockCount firstBlock lastBlock =>
    cases processed
    have recorded := clocks.recordBatchDerived clock batchNumber blockCount firstBlock lastBlock
    obtain ⟨pending, latencies⟩ := App.recordBatchDerivationOrigin_times
      ((app.recordBatchDerived .unbounded batchNumber (clock 0)).setFinalizedHead lastBlock) batchNumber
    exact ⟨fun batch => (congrArg (AList.lookup batch) pending).trans (recorded.pending batch),
      latencies.trans recorded.latencies⟩
  | _ =>
    obtain ⟨pending, latencies⟩ := processEvent_times processed rfl
    exact clocks.other (fun _ => rfl) rfl pending latencies

private theorem replay_panels {mode : Mode} {heard : List (Arrived F)} {app : App F}
    (kept : ∀ arrived ∈ heard, arrived.2 ≠ .reset)
    (replayed : replay .unbounded (App.fresh mode) heard = some app) : Displays heard app ∧ Clocks heard app := by
  induction heard using List.reverseRecOn generalizing app with
  | nil =>
    cases replayed
    exact ⟨⟨rfl, rfl, fun _ => rfl⟩, ⟨fun _ => rfl, rfl⟩⟩
  | append_singleton heard arrived ih =>
    rw [replay_append] at replayed
    obtain ⟨before, replayed, processed⟩ := Option.bind_eq_some_iff.mp replayed
    have earlier : ∀ other ∈ heard, other.2 ≠ .reset := fun other member =>
      kept other (List.mem_append_left _ member)
    have last := kept arrived (List.mem_append_right _ List.mem_cons_self)
    obtain ⟨displays, clocks⟩ := ih earlier replayed
    exact ⟨displays.processEvent last processed, clocks.processEvent last processed⟩

/-- The whole of what a dashboard has heard, seen through its window. -/
theorem running_panels {limits : Limits} {passes : List (Pass F)} {app : App F}
    (running : eventLoop limits App.new passes = .running app) :
    ∃ whole, Displays (Trace.listen passes).heard whole ∧ Clocks (Trace.listen passes).heard whole ∧
      app = (whole.withPaused (Trace.listen passes).paused).window limits := by
  obtain ⟨whole, unbounded, rfl⟩ := running_window running
  have shows : Shows .unbounded (Trace.listen passes) whole := by
    have initially : Shows .unbounded Trace.start (App.new : App F) := rfl
    exact initially.eventLoop unbounded
  obtain ⟨replayed, same, rfl⟩ := shows.replayed
  obtain ⟨displays, clocks⟩ := replay_panels (Trace.listen_kept passes) same
  exact ⟨replayed, displays, clocks, rfl⟩

/-- The L1 panel: the blocks that were new when first told of, at most as many as it keeps,
with the last batch reported in each, marked where the last report of a batch before its
derivation named this block. -/
theorem eventLoop_l1Panel {limits : Limits} {passes : List (Pass F)} {app : App F}
    (running : eventLoop limits App.new passes = .running app) :
    app.l1Blocks = last limits.l1Blocks (l1Panel (Trace.listen passes).heard) ∧
      app.l1Head = summit 0 ((Trace.listen passes).heard.filterMap l1Number) := by
  obtain ⟨whole, displays, _, rfl⟩ := running_panels running
  exact ⟨congrArg (last limits.l1Blocks) displays.blocks, displays.head⟩

/-- The round trip times: one for each derived batch that was reported as submitted since
it was last derived, and the times of submission of the others are still there. -/
theorem eventLoop_roundTrips {limits : Limits} {passes : List (Pass F)} {app : App F}
    (running : eventLoop limits App.new passes = .running app) :
    app.roundTripLatencies = last limits.samples (gathered roundTrip [] (Trace.listen passes).heard) ∧
      ∀ batchNumber, app.batchSubmitTimes.lookup batchNumber =
        outstanding (Trace.listen passes).heard batchNumber := by
  obtain ⟨whole, _, clocks, rfl⟩ := running_panels running
  exact ⟨congrArg (last limits.samples) clocks.latencies, clocks.pending⟩

end Replays

section Examples

theorem watched_l1Panel :
    watchedApp.l1Blocks = last Limits.source.l1Blocks (l1Panel (Trace.listen watched).heard) ∧
      watchedApp.l1Head = summit 0 ((Trace.listen watched).heard.filterMap l1Number) :=
  eventLoop_l1Panel rfl

theorem watched_roundTrips :
    watchedApp.roundTripLatencies = last Limits.source.samples
        (gathered roundTrip [] (Trace.listen watched).heard) ∧
      ∀ batchNumber, watchedApp.batchSubmitTimes.lookup batchNumber =
        outstanding (Trace.listen watched).heard batchNumber :=
  eventLoop_roundTrips rfl

/-- The block that was told of during the pause is missing. -/
example : l1Panel (Trace.listen watched).heard = [⟨3, some 1, some 2, true⟩, ⟨4, none, none, false⟩] := by
  decide

end Examples

end Montana.Tui
