/-! What a trace of events says happened last. -/

universe u v w x

namespace Traces

variable {Event : Type u}

/-- One of the events sets, and none after it clears. -/
def Stands (sets clears : Event → Prop) (trace : List Event) : Prop :=
  ∃ before event after, trace = before ++ event :: after ∧ sets event ∧ ∀ later ∈ after, ¬ clears later

theorem not_stands_nil {sets clears : Event → Prop} : ¬ Stands sets clears [] := by
  rintro ⟨before, event, after, split, _⟩
  exact List.append_ne_nil_of_right_ne_nil before (List.cons_ne_nil event after) split.symm

theorem stands_append {sets clears : Event → Prop} {trace : List Event} {event : Event} :
    Stands sets clears (trace ++ [event]) ↔ sets event ∨ ¬ clears event ∧ Stands sets clears trace := by
  constructor
  · rintro ⟨before, setting, after, split, set, kept⟩
    rcases List.eq_nil_or_concat after with rfl | ⟨earlier, last, rfl⟩
    · obtain ⟨rfl, same⟩ := List.append_inj' split rfl
      cases same
      exact .inl set
    · rw [List.concat_eq_append, ← List.cons_append, ← List.append_assoc] at split
      obtain ⟨rfl, same⟩ := List.append_inj' split rfl
      cases same
      refine .inr ⟨kept event (by simp), before, setting, earlier, rfl, set, ?_⟩
      exact fun later member => kept later (by simp [member])
  · rintro (set | ⟨keeps, before, setting, after, rfl, set, kept⟩)
    · exact ⟨trace, event, [], rfl, set, nofun⟩
    · refine ⟨before, setting, after ++ [event], by simp, set, fun later member => ?_⟩
      rcases List.mem_append.mp member with earlier | last
      · exact kept later earlier
      · exact List.mem_singleton.mp last ▸ keeps

/-- What comes after the last marked moment of the trace, which is all of it where no
moment is marked. A moment is the events so far. -/
structure SinceLast (marked : List Event → Prop) (trace after : List Event) : Prop where
  suffix : ∃ before, trace = before ++ after ∧ (before = [] ∨ marked before)
  last : ∀ before later, trace = before ++ later → later.length < after.length → ¬ marked before

theorem sinceLast_nil (marked : List Event → Prop) : SinceLast marked [] [] where
  suffix := ⟨[], rfl, .inl rfl⟩
  last _ _ _ less := absurd less (Nat.not_lt_zero _)

theorem sinceLast_marked {marked : List Event → Prop} {trace : List Event} (mark : marked trace) :
    SinceLast marked trace [] where
  suffix := ⟨trace, (List.append_nil trace).symm, .inr mark⟩
  last _ _ _ less := absurd less (Nat.not_lt_zero _)

theorem sinceLast_append {marked : List Event → Prop} {trace after : List Event} {event : Event}
    (since : SinceLast marked trace after) (unmarked : ¬ marked (trace ++ [event])) :
    SinceLast marked (trace ++ [event]) (after ++ [event]) := by
  constructor
  · obtain ⟨before, rfl, mark⟩ := since.suffix
    exact ⟨before, List.append_assoc before after [event], mark⟩
  · intro before later split less
    rcases List.eq_nil_or_concat later with rfl | ⟨earlier, last, rfl⟩
    · rw [List.append_nil] at split
      exact split ▸ unmarked
    · rw [List.concat_eq_append, ← List.append_assoc] at split
      obtain ⟨same, _⟩ := List.append_inj' split rfl
      exact since.last before earlier same (by simpa using less)

theorem sinceLast_unique {marked : List Event → Prop} {trace after other : List Event}
    (since : SinceLast marked trace after) (since' : SinceLast marked trace other) : after = other := by
  have shortest {short long : List Event} (here : SinceLast marked trace short)
      (there : SinceLast marked trace long) : long.length ≤ short.length := by
    obtain ⟨before, split, mark⟩ := here.suffix
    refine Nat.le_of_not_lt fun less => ?_
    rcases mark with rfl | mark
    · obtain ⟨front, whole, _⟩ := there.suffix
      have sizes := congrArg List.length (split.symm.trans whole)
      simp only [List.nil_append, List.length_append] at sizes
      omega
    · exact there.last before short split less mark
  obtain ⟨before, split, _⟩ := since.suffix
  obtain ⟨before', split', _⟩ := since'.suffix
  exact (List.append_inj' (split.symm.trans split')
    (Nat.le_antisymm (shortest since' since) (shortest since since'))).2

variable {Item : Type v}

/-- The last of the things that the events are about. -/
def lastAbout (about : Event → Option Item) (trace : List Event) : Option Item :=
  (trace.filterMap about).getLast?

theorem lastAbout_append (about : Event → Option Item) (trace : List Event) (event : Event) :
    lastAbout about (trace ++ [event]) = (about event).or (lastAbout about trace) := by
  unfold lastAbout
  rw [List.filterMap_append, List.getLast?_append]
  cases silent : about event <;> simp [silent]

theorem lastAbout_mem {about : Event → Option Item} {trace : List Event} {item : Item}
    (last : lastAbout about trace = some item) : ∃ event ∈ trace, about event = some item :=
  List.mem_filterMap.mp (List.mem_of_getLast? last)

/-- What each event adds, knowing those before it. -/
def gathered (adds : List Event → Event → List Item) : List Event → List Event → List Item
  | _, [] => []
  | before, event :: rest => adds before event ++ gathered adds (before ++ [event]) rest

theorem gathered_append (adds : List Event → Event → List Item) (before trace : List Event)
    (event : Event) :
    gathered adds before (trace ++ [event]) = gathered adds before trace ++ adds (before ++ trace) event := by
  induction trace generalizing before with
  | nil => simp [gathered]
  | cons first rest ih => simp [gathered, ih]

/-- Each thing that trails in the trace was led in by an earlier one that bounds it. -/
def Preceded {Lead : Type w} {Trail : Type x} (bounds : Lead → Trail → Prop) (leads : Event → Option Lead)
    (trails : Event → Option Trail) (trace : List Event) : Prop :=
  ∀ before event after, trace = before ++ event :: after → ∀ trail, trails event = some trail →
    ∃ lead ∈ before.filterMap leads, bounds lead trail

section Preceded

variable {Lead : Type w} {Trail : Type x} {bounds : Lead → Trail → Prop} {leads : Event → Option Lead}
  {trails : Event → Option Trail} {trace : List Event}

theorem preceded_nil : Preceded bounds leads trails [] := by
  intro before event after split
  exact absurd split.symm (List.append_ne_nil_of_right_ne_nil before (List.cons_ne_nil event after))

theorem Preceded.append (preceded : Preceded bounds leads trails trace) {event : Event}
    (led : ∀ trail, trails event = some trail → ∃ lead ∈ trace.filterMap leads, bounds lead trail) :
    Preceded bounds leads trails (trace ++ [event]) := by
  intro before other after split trail trailing
  rcases List.eq_nil_or_concat after with rfl | ⟨earlier, last, rfl⟩
  · obtain ⟨rfl, same⟩ := List.append_inj' split rfl
    cases same
    exact led trail trailing
  · rw [List.concat_eq_append, ← List.cons_append, ← List.append_assoc] at split
    obtain ⟨rfl, _⟩ := List.append_inj' split rfl
    exact preceded before other earlier rfl trail trailing

theorem Preceded.append_other (preceded : Preceded bounds leads trails trace) {event : Event}
    (other : trails event = none) : Preceded bounds leads trails (trace ++ [event]) := by
  apply preceded.append
  intro trail trailing
  rw [other] at trailing
  cases trailing

/-- A trace that has been heard in part has no trail without its lead either. -/
theorem Preceded.of_isPrefix (preceded : Preceded bounds leads trails trace) {heard : List Event}
    (initial : heard <+: trace) : Preceded bounds leads trails heard := by
  obtain ⟨rest, rfl⟩ := initial
  intro before event after split trail trailing
  exact preceded before event (after ++ rest) (by rw [split]; simp) trail trailing

theorem Preceded.mem (preceded : Preceded bounds leads trails trace) {trail : Trail}
    (trailing : trail ∈ trace.filterMap trails) : ∃ lead ∈ trace.filterMap leads, bounds lead trail := by
  obtain ⟨event, member, same⟩ := List.mem_filterMap.mp trailing
  obtain ⟨before, after, split⟩ := List.append_of_mem member
  obtain ⟨lead, listed, bound⟩ := preceded before event after split trail same
  refine ⟨lead, ?_, bound⟩
  rw [split, List.filterMap_append]
  exact List.mem_append_left _ listed

theorem filterMap_filter_of_isSome {about : Event → Option Item} {kept : Event → Bool}
    (keeps : ∀ event, (about event).isSome → kept event) (trace : List Event) :
    (trace.filter kept).filterMap about = trace.filterMap about := by
  rw [List.filterMap_filter]
  congr 1
  funext event
  by_cases here : kept event
  · rw [if_pos here]
  · rw [if_neg here]
    exact (Option.not_isSome_iff_eq_none.mp fun told => here (keeps event told)).symm

/-- The other events of a trace do not matter. -/
theorem preceded_filter {kept : Event → Bool} (leading : ∀ event, (leads event).isSome → kept event)
    (trailing : ∀ event, (trails event).isSome → kept event) :
    Preceded bounds leads trails (trace.filter kept) ↔ Preceded bounds leads trails trace := by
  constructor
  · intro preceded before event after split trail told
    have here : kept event := trailing event (by rw [told]; rfl)
    have parts : trace.filter kept = before.filter kept ++ event :: after.filter kept := by
      rw [split, List.filter_append, List.filter_cons_of_pos here]
    obtain ⟨lead, listed, bound⟩ := preceded _ event _ parts trail told
    rw [filterMap_filter_of_isSome leading] at listed
    exact ⟨lead, listed, bound⟩
  · intro preceded before event after split trail told
    obtain ⟨front, back, rfl, rfl, rest⟩ := List.filter_eq_append_iff.mp split
    obtain ⟨skipped, remaining, rfl, dropped, _, _⟩ := List.filter_eq_cons_iff.mp rest
    obtain ⟨lead, listed, bound⟩ := preceded (front ++ skipped) event remaining (by simp) trail told
    refine ⟨lead, ?_, bound⟩
    have silent : skipped.filterMap leads = [] := by
      apply List.filterMap_eq_nil_iff.mpr
      intro other member
      exact Option.not_isSome_iff_eq_none.mp fun told => dropped other member (leading other told)
    rw [List.filterMap_append, silent, List.append_nil] at listed
    rwa [filterMap_filter_of_isSome leading]

end Preceded

end Traces
