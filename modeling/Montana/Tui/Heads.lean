import Montana.Tui.Panels

/-! The heads and the counts of batches, as functions of what the dashboard heard. -/

namespace Montana.Tui

open Traces (gathered gathered_append lastAbout lastAbout_append)

section Heads

variable {F : Type}

/-- The block that an event makes the safe head. -/
def safeReport : TuiEvent F → Option Nat
  | .batchSubmitted _ _ _ lastBlock _ _ => some lastBlock
  | .safeHeadUpdated head => some head
  | _ => none

/-- The block that an event makes the finalized head. -/
def finalizedReport : TuiEvent F → Option Nat
  | .blockDerived number _ _ _ => some number
  | .batchDerived _ _ _ lastBlock => some lastBlock
  | .finalizedUpdated head => some head
  | _ => none

def submittedNumber : TuiEvent F → Option Nat
  | .batchSubmitted batchNumber _ _ _ _ _ => some batchNumber
  | _ => none

def derivedNumber : TuiEvent F → Option Nat
  | .batchDerived batchNumber _ _ _ => some batchNumber
  | _ => none

/-- The events that move a head. -/
def aboutHeads (event : TuiEvent F) : Bool := (safeReport event).isSome || (finalizedReport event).isSome

theorem submittedNumber_moves (event : TuiEvent F) (told : (submittedNumber event).isSome) : aboutHeads event := by
  cases event <;> first | rfl | cases told

theorem derivedNumber_moves (event : TuiEvent F) (told : (derivedNumber event).isSome) : aboutHeads event := by
  cases event <;> first | rfl | cases told

theorem safeReport_moves (event : TuiEvent F) (told : (safeReport event).isSome) : aboutHeads event := by
  rw [aboutHeads, told]
  rfl

theorem finalizedReport_moves (event : TuiEvent F) (told : (finalizedReport event).isSome) :
    aboutHeads event := by
  rw [aboutHeads, told]
  exact Bool.or_true _

/-- The safe and the finalized head are the last ones reported, and the counts are those of
the batches reported. -/
structure Heads (heard : List (TuiEvent F)) (app : App F) : Prop where
  safe : app.safeHead = (lastAbout safeReport heard).getD 0
  finalized : app.finalizedHead = (lastAbout finalizedReport heard).getD 0
  submitted : app.batchesSubmitted = (heard.filterMap submittedNumber).length
  derived : app.batchesDerived = (heard.filterMap derivedNumber).length

private theorem heads_fresh (mode : Mode) : Heads [] (App.fresh mode : App F) := ⟨rfl, rfl, rfl, rfl⟩

/-- What one event does to the heads and the counts. -/
structure Heads.Moved (event : TuiEvent F) (app next : App F) : Prop where
  safe : next.safeHead = (safeReport event).getD app.safeHead
  finalized : next.finalizedHead = (finalizedReport event).getD app.finalizedHead
  submitted : next.batchesSubmitted = app.batchesSubmitted + (submittedNumber event).toList.length
  derived : next.batchesDerived = app.batchesDerived + (derivedNumber event).toList.length

theorem Heads.append {heard : List (TuiEvent F)} {app next : App F} {event : TuiEvent F} (heads : Heads heard app)
    (moved : Moved event app next) : Heads (heard ++ [event]) next := by
  obtain ⟨safe, finalized, submitted, derived⟩ := heads
  constructor
  · rw [moved.safe, safe, lastAbout_append]
    cases safeReport event <;> rfl
  · rw [moved.finalized, finalized, lastAbout_append]
    cases finalizedReport event <;> rfl
  · rw [moved.submitted, submitted, List.filterMap_append, List.length_append]
    cases told : submittedNumber event <;> simp [told]
  · rw [moved.derived, derived, List.filterMap_append, List.length_append]
    cases told : derivedNumber event <;> simp [told]

private theorem App.recordBatchDerived_heads (limits : Limits) (app : App F) (batchNumber : Nat)
    (now : Instant) :
    (app.recordBatchDerived limits batchNumber now).safeHead = app.safeHead ∧
      (app.recordBatchDerived limits batchNumber now).batchesSubmitted = app.batchesSubmitted ∧
      (app.recordBatchDerived limits batchNumber now).batchesDerived = app.batchesDerived + 1 := by
  unfold recordBatchDerived
  cases app.batchSubmitTimes.lookup batchNumber <;> exact ⟨rfl, rfl, rfl⟩

private theorem App.recordBatchDerivationOrigin_heads (app : App F) (batchNumber : Nat) :
    (app.recordBatchDerivationOrigin batchNumber).safeHead = app.safeHead ∧
      (app.recordBatchDerivationOrigin batchNumber).finalizedHead = app.finalizedHead ∧
      (app.recordBatchDerivationOrigin batchNumber).batchesSubmitted = app.batchesSubmitted ∧
      (app.recordBatchDerivationOrigin batchNumber).batchesDerived = app.batchesDerived := by
  unfold recordBatchDerivationOrigin
  cases app.batchToL1Block.lookup batchNumber <;> exact ⟨rfl, rfl, rfl, rfl⟩

variable [F64 F]

private theorem processEvent_moved {limits : Limits} {app next : App F} {clock : Readings}
    {event : TuiEvent F}
    (kept : event ≠ .reset) (processed : processEvent limits app clock event = some next) :
    Heads.Moved event app next := by
  cases event with
  | reset => exact absurd rfl kept
  | batchDerived batchNumber blockCount firstBlock lastBlock =>
    cases processed
    obtain ⟨safe, submitted, derived⟩ := app.recordBatchDerived_heads limits batchNumber (clock 0)
    obtain ⟨safe', finalized', submitted', derived'⟩ := App.recordBatchDerivationOrigin_heads
      ((app.recordBatchDerived limits batchNumber (clock 0)).setFinalizedHead lastBlock) batchNumber
    exact ⟨safe'.trans safe, finalized', submitted'.trans submitted, derived'.trans derived⟩
  | blockBuilderInit rpcUrl pollIntervalMs =>
    obtain ⟨displayUrl, _, rfl⟩ := Option.map_eq_some_iff.mp processed
    dsimp only
    split <;> exact ⟨rfl, rfl, rfl, rfl⟩
  | l1BlockProduced blockNumber =>
    cases processed
    unfold App.recordL1Block
    split <;> exact ⟨rfl, rfl, rfl, rfl⟩
  | batchIncludedInL1 l1BlockNumber batchNumber blockCount =>
    cases processed
    unfold App.recordBatchInL1Block
    dsimp only
    split <;> exact ⟨rfl, rfl, rfl, rfl⟩
  | syncProgress _ _ _ _ | blockBuilt _ _ _ _ | sequencerInit _ _ _ _ | validatorInit _
  | executionInit _ _ _ | waitingForChain _ =>
    rw [← Option.some.inj processed]
    repeat' split
    all_goals exact ⟨rfl, rfl, rfl, rfl⟩
  | _ =>
    cases processed
    exact ⟨rfl, rfl, rfl, rfl⟩

private theorem replay_heads {limits : Limits} {mode : Mode} {heard : List (Arrived F)} {app : App F}
    (kept : ∀ arrived ∈ heard, arrived.2 ≠ .reset)
    (replayed : replay limits (App.fresh mode) heard = some app) : Heads (heard.map (·.2)) app := by
  induction heard using List.reverseRecOn generalizing app with
  | nil =>
    cases replayed
    exact heads_fresh mode
  | append_singleton heard arrived ih =>
    rw [replay_append] at replayed
    obtain ⟨before, replayed, processed⟩ := Option.bind_eq_some_iff.mp replayed
    have heads := ih (fun other member => kept other (List.mem_append_left _ member)) replayed
    have last := kept arrived (List.mem_append_right _ List.mem_cons_self)
    rw [List.map_append]
    exact heads.append (processEvent_moved last processed)

theorem running_heads {limits : Limits} {passes : List (Pass F)} {app : App F}
    (running : eventLoop limits App.new passes = .running app) :
    Heads ((Trace.listen passes).heard.map (·.2)) app := by
  have initially : Shows limits Trace.start (App.new : App F) := rfl
  obtain ⟨replayed, same, rfl⟩ := (initially.eventLoop running).replayed
  obtain ⟨safe, finalized, submitted, derived⟩ := replay_heads (Trace.listen_kept passes) same
  exact ⟨safe, finalized, submitted, derived⟩

end Heads

section RoundTrips

variable {F : Type}

/-- Every batch was derived once after it was submitted once, or waits for that. -/
structure Matched (events : List (TuiEvent F)) : Prop where
  submitted : (events.filterMap submittedNumber).Nodup
  derived : (events.filterMap derivedNumber).Nodup
  preceded : Traces.Preceded Eq submittedNumber derivedNumber events

theorem Matched.of_isPrefix {events heard : List (TuiEvent F)} (matched : Matched events)
    (initial : heard <+: events) : Matched heard := by
  obtain ⟨submitted, derived, preceded⟩ := matched
  exact ⟨submitted.sublist (initial.filterMap _).sublist, derived.sublist (initial.filterMap _).sublist,
    preceded.of_isPrefix initial⟩

theorem Matched.mem {events : List (TuiEvent F)} (matched : Matched events) {batchNumber : Nat}
    (derived : batchNumber ∈ events.filterMap derivedNumber) :
    batchNumber ∈ events.filterMap submittedNumber := by
  obtain ⟨_, listed, rfl⟩ := matched.preceded.mem derived
  exact listed

theorem Matched.length_le {events : List (TuiEvent F)} (matched : Matched events) :
    (events.filterMap derivedNumber).length ≤ (events.filterMap submittedNumber).length := by
  apply (List.subperm_of_subset matched.derived ?_).length_le
  intro batchNumber derived
  exact matched.mem derived

/-- Events that move no head do not matter. -/
theorem matched_aboutHeads (events : List (TuiEvent F)) : Matched (events.filter aboutHeads) ↔ Matched events := by
  have submitted := Traces.filterMap_filter_of_isSome submittedNumber_moves events
  have derived := Traces.filterMap_filter_of_isSome derivedNumber_moves events
  have preceded := @Traces.preceded_filter _ _ _ Eq submittedNumber derivedNumber events aboutHeads
    submittedNumber_moves derivedNumber_moves
  constructor
  · intro matched
    exact ⟨submitted ▸ matched.submitted, derived ▸ matched.derived, preceded.mp matched.preceded⟩
  · intro matched
    exact ⟨submitted.symm ▸ matched.submitted, derived.symm ▸ matched.derived, preceded.mpr matched.preceded⟩

/-- One round trip for every batch derived, and a time for each that waits. -/
structure Timed (heard : List (Arrived F)) : Prop where
  latencies : (gathered roundTrip [] heard).length = ((heard.map (·.2)).filterMap derivedNumber).length
  pending : ∀ batchNumber, (outstanding heard batchNumber).isSome ↔
    batchNumber ∈ (heard.map (·.2)).filterMap submittedNumber ∧
      batchNumber ∉ (heard.map (·.2)).filterMap derivedNumber

/-- Another event neither begins nor ends a round trip. -/
theorem Timed.other {heard : List (Arrived F)} {arrived : Arrived F} (timed : Timed heard)
    (submits : submittedNumber arrived.2 = none) (derives : derivedNumber arrived.2 = none)
    (silent : ∀ batchNumber, submission batchNumber arrived = none) (nothing : roundTrip heard arrived = []) :
    Timed (heard ++ [arrived]) := by
  obtain ⟨latencies, pending⟩ := timed
  have events : (heard ++ [arrived]).map (·.2) = heard.map (·.2) ++ [arrived.2] := List.map_append
  constructor
  · rw [gathered_append, List.nil_append, nothing, List.append_nil, latencies, events, List.filterMap_append,
      List.filterMap_cons_none derives, List.filterMap_nil, List.append_nil]
  · intro batchNumber
    rw [outstanding, lastAbout_append, silent, Option.none_or, ← outstanding, pending, events,
      List.filterMap_append, List.filterMap_append, List.filterMap_cons_none submits,
      List.filterMap_cons_none derives, List.filterMap_nil, List.append_nil, List.filterMap_nil, List.append_nil]

theorem Timed.submitted {heard : List (Arrived F)} {clock : Readings}
    {batchNumber blockCount firstBlock lastBlock uncompressedSize compressedSize : Nat} (timed : Timed heard)
    (underived : batchNumber ∉ (heard.map (·.2)).filterMap derivedNumber) :
    Timed (heard ++ [(clock, .batchSubmitted batchNumber blockCount firstBlock lastBlock uncompressedSize
      compressedSize)]) := by
  obtain ⟨latencies, pending⟩ := timed
  constructor
  · simp [gathered_append, roundTrip, latencies, derivedNumber]
  · intro sought
    rw [outstanding, lastAbout_append, List.map_append, List.filterMap_append, List.filterMap_append]
    by_cases same : batchNumber = sought
    · subst same
      simpa [submission, submittedNumber, derivedNumber] using underived
    · have before := pending sought
      simp only [submission, same, if_false, Option.none_or]
      rw [← outstanding, before]
      simp [submittedNumber, derivedNumber, Ne.symm same]

/-- A batch that waits is derived: its time is taken, and it waits no more. -/
theorem Timed.derived {heard : List (Arrived F)} {clock : Readings}
    {batchNumber blockCount firstBlock lastBlock : Nat} (timed : Timed heard)
    (submitted : batchNumber ∈ (heard.map (·.2)).filterMap submittedNumber)
    (once : batchNumber ∉ (heard.map (·.2)).filterMap derivedNumber) :
    Timed (heard ++ [(clock, .batchDerived batchNumber blockCount firstBlock lastBlock)]) := by
  obtain ⟨latencies, pending⟩ := timed
  obtain ⟨submitTime, waits⟩ := Option.isSome_iff_exists.mp ((pending batchNumber).mpr ⟨submitted, once⟩)
  constructor
  · simp [gathered_append, roundTrip, waits, latencies, derivedNumber]
  · intro sought
    rw [outstanding, lastAbout_append, List.map_append, List.filterMap_append, List.filterMap_append]
    by_cases same : batchNumber = sought
    · subst same
      simp [submission, submittedNumber, derivedNumber]
    · have before := pending sought
      simp only [submission, same, if_false, Option.none_or]
      rw [← outstanding, before]
      simp [submittedNumber, derivedNumber, Ne.symm same]

/-- What is new in the last event is in no event before. -/
theorem last_fresh {Report : Type} {report : TuiEvent F → Option Report} {events : List (TuiEvent F)}
    {event : TuiEvent F} {told : Report} (once : ((events ++ [event]).filterMap report).Nodup)
    (here : report event = some told) : told ∉ events.filterMap report := by
  intro earlier
  rw [List.filterMap_append, List.filterMap_cons_some here] at once
  exact (List.nodup_append.mp once).2.2 told earlier told List.mem_cons_self rfl

theorem timed {heard : List (Arrived F)} (matched : Matched (heard.map (·.2))) : Timed heard := by
  induction heard using List.reverseRecOn with
  | nil => exact ⟨rfl, fun _ => by simp [outstanding, lastAbout]⟩
  | append_singleton heard arrived ih =>
    rw [List.map_append] at matched
    have earlier := matched.of_isPrefix (List.prefix_append _ _)
    have timed := ih earlier
    obtain ⟨clock, event⟩ := arrived
    cases event with
    | batchSubmitted batchNumber blockCount firstBlock lastBlock uncompressedSize compressedSize =>
      apply timed.submitted
      intro derived
      exact last_fresh matched.submitted rfl (earlier.mem derived)
    | batchDerived batchNumber blockCount firstBlock lastBlock =>
      have once := last_fresh matched.derived rfl
      obtain ⟨_, submitted, rfl⟩ := matched.preceded (heard.map (·.2)) _ [] rfl batchNumber rfl
      exact timed.derived submitted once
    | _ => exact timed.other rfl rfl (fun _ => rfl) rfl

end RoundTrips

end Montana.Tui
