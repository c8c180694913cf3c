import Mathlib.Logic.Relation

/-! Invariants of runs: what one step preserves holds in every state reached. -/

universe u v

namespace Runs

open Relation (ReflTransGen)

variable {State : Type u} {Input : Type v}

/-- An invariant of a step relation holds after any number of steps. -/
theorem invariant_steps {Step : State → State → Prop} (Holds : State → Prop)
    (preserved : ∀ before after, Step before after → Holds before → Holds after)
    {start finish : State} (steps : ReflTransGen Step start finish) (initially : Holds start) :
    Holds finish := by
  induction steps with
  | refl => exact initially
  | tail _ last ih => exact preserved _ _ last ih

/-- An invariant of a step function holds after any list of inputs, each of which
may be restricted and may depend on the state it meets. -/
theorem invariant_run {step : State → Input → State} (Holds : State → Prop) (inputs : List Input)
    (preserved : ∀ state, ∀ input ∈ inputs, Holds state → Holds (step state input))
    {start : State} (initially : Holds start) : Holds (inputs.foldl step start) := by
  induction inputs generalizing start with
  | nil => exact initially
  | cons input rest ih =>
    exact ih (fun state other member => preserved state other (List.mem_cons_of_mem _ member))
      (preserved start input List.mem_cons_self initially)

/-- Every input of the run meets the guard in the state in which it arrives. -/
def Guarded (step : State → Input → State) (guard : State → Input → Prop) : State → List Input → Prop
  | _, [] => True
  | state, input :: rest => guard state input ∧ Guarded step guard (step state input) rest

def decidableGuarded (step : State → Input → State) (guard : State → Input → Prop)
    [∀ state input, Decidable (guard state input)] :
    ∀ (state : State) (inputs : List Input), Decidable (Guarded step guard state inputs)
  | _, [] => .isTrue trivial
  | state, input :: rest =>
    have := decidableGuarded step guard (step state input) rest
    inferInstanceAs (Decidable (guard state input ∧ Guarded step guard (step state input) rest))

instance {step : State → Input → State} {guard : State → Input → Prop}
    [∀ state input, Decidable (guard state input)] (state : State) (inputs : List Input) :
    Decidable (Guarded step guard state inputs) :=
  decidableGuarded step guard state inputs

theorem invariant_guarded {step : State → Input → State} {guard : State → Input → Prop}
    (Holds : State → Prop)
    (preserved : ∀ state input, guard state input → Holds state → Holds (step state input))
    {inputs : List Input} {start : State} (guarded : Guarded step guard start inputs)
    (initially : Holds start) : Holds (inputs.foldl step start) := by
  induction inputs generalizing start with
  | nil => exact initially
  | cons input rest ih => exact ih guarded.2 (preserved start input guarded.1 initially)

/-- Where a guard decides whether one admitted step keeps a property, given what is known
of every state, it decides whether the whole run keeps it. -/
theorem guarded_iff_invariant_known {step : State → Input → State}
    {admits guard : State → Input → Prop} (Known Holds : State → Prop)
    (keeps : ∀ state input, admits state input → Known state → Known (step state input))
    (decides : ∀ state input, admits state input → Known state → Holds state →
      (Holds (step state input) ↔ guard state input))
    (inputs : List Input) {start : State} (admitted : Guarded step admits start inputs)
    (known : Known start) (initially : Holds start) :
    (∀ count, Holds ((inputs.take count).foldl step start)) ↔ Guarded step guard start inputs := by
  induction inputs generalizing start with
  | nil => simpa [Guarded] using initially
  | cons input rest ih =>
    have next := keeps start input admitted.1 known
    constructor
    · intro always
      have first : Holds (step start input) := always 1
      exact ⟨(decides start input admitted.1 known initially).mp first,
        (ih admitted.2 next first).mp fun count => always (count + 1)⟩
    · intro guarded count
      have first := (decides start input admitted.1 known initially).mpr guarded.1
      cases count with
      | zero => exact initially
      | succ count => exact (ih admitted.2 next first).mpr guarded.2 count

/-- The same where nothing else has to be known. -/
theorem guarded_iff_invariant {step : State → Input → State} {admits guard : State → Input → Prop}
    (Holds : State → Prop)
    (decides : ∀ state input, admits state input → Holds state →
      (Holds (step state input) ↔ guard state input))
    (inputs : List Input) {start : State} (admitted : Guarded step admits start inputs)
    (initially : Holds start) :
    (∀ count, Holds ((inputs.take count).foldl step start)) ↔ Guarded step guard start inputs :=
  guarded_iff_invariant_known (fun _ => True) Holds (fun _ _ _ _ => trivial)
    (fun state input admitted _ holds => decides state input admitted holds) inputs admitted trivial initially

/-- Where a guard decides whether two step functions do the same, it decides whether
they do the same on every prefix of the inputs. -/
theorem guarded_iff_agree {step other : State → Input → State} {guard : State → Input → Prop}
    (decides : ∀ state input, step state input = other state input ↔ guard state input)
    (inputs : List Input) (start : State) :
    (∀ count, (inputs.take count).foldl step start = (inputs.take count).foldl other start) ↔
      Guarded other guard start inputs := by
  induction inputs generalizing start with
  | nil => simp [Guarded]
  | cons input rest ih =>
    constructor
    · intro always
      have first : step start input = other start input := always 1
      refine ⟨(decides start input).mp first, (ih _).mp fun count => ?_⟩
      have later := always (count + 1)
      rwa [List.take_succ_cons, List.foldl_cons, List.foldl_cons, first] at later
    · intro guarded count
      cases count with
      | zero => rfl
      | succ count =>
        rw [List.take_succ_cons, List.foldl_cons, List.foldl_cons, (decides start input).mpr guarded.1]
        exact (ih _).mpr guarded.2 count

/-- The states of a run and those that each of its steps goes through. -/
def Visits (step : State → Input → State) (through : State → Input → State → Prop) :
    State → List Input → State → Prop
  | start, [], reached => reached = start
  | start, input :: rest, reached =>
    reached = start ∨ through start input reached ∨ Visits step through (step start input) rest reached

/-- Among them is the last one. -/
theorem visits_run (step : State → Input → State) (through : State → Input → State → Prop)
    (inputs : List Input) (start : State) : Visits step through start inputs (inputs.foldl step start) := by
  induction inputs generalizing start with
  | nil => rfl
  | cons input rest ih => exact .inr (.inr (ih (step start input)))

/-- Where a guard decides whether one step goes through good states only, it decides
whether the whole run does. -/
theorem guarded_iff_visits {step : State → Input → State} {through : State → Input → State → Prop}
    {guard : State → Input → Prop} (Holds : State → Prop)
    (ends : ∀ state input, through state input (step state input))
    (decides : ∀ state input, Holds state →
      ((∀ reached, through state input reached → Holds reached) ↔ guard state input))
    (inputs : List Input) {start : State} (initially : Holds start) :
    (∀ reached, Visits step through start inputs reached → Holds reached) ↔
      Guarded step guard start inputs := by
  induction inputs generalizing start with
  | nil => simpa [Visits, Guarded] using initially
  | cons input rest ih =>
    constructor
    · intro always
      have first : ∀ reached, through start input reached → Holds reached :=
        fun reached passed => always reached (.inr (.inl passed))
      exact ⟨(decides start input initially).mp first, (ih (first _ (ends start input))).mp
        fun reached visited => always reached (.inr (.inr visited))⟩
    · intro guarded reached visited
      have first := (decides start input initially).mpr guarded.1
      rcases visited with rfl | passed | later
      · exact initially
      · exact first reached passed
      · exact (ih (first _ (ends start input))).mpr guarded.2 reached later

/-- A guard that does not read the state is a condition on the list of inputs. -/
theorem guarded_of_forall {step : State → Input → State} {guard : State → Input → Prop}
    {inputs : List Input} (all : ∀ state, ∀ input ∈ inputs, guard state input) (start : State) :
    Guarded step guard start inputs := by
  induction inputs generalizing start with
  | nil => exact trivial
  | cons input rest ih =>
    exact ⟨all start input List.mem_cons_self,
      ih (fun state other member => all state other (List.mem_cons_of_mem _ member)) _⟩

/-- Two guards that ask the same of every state of which something is known, where the
first keeps it known. -/
theorem guarded_congr {step : State → Input → State} {guard other : State → Input → Prop}
    (Known : State → Prop)
    (same : ∀ state input, Known state → (guard state input ↔ other state input))
    (keeps : ∀ state input, Known state → guard state input → Known (step state input))
    (inputs : List Input) {start : State} (known : Known start) :
    Guarded step guard start inputs ↔ Guarded step other start inputs := by
  induction inputs generalizing start with
  | nil => exact Iff.rfl
  | cons input rest ih =>
    constructor
    · rintro ⟨met, later⟩
      exact ⟨(same start input known).mp met, (ih (keeps start input known met)).mp later⟩
    · rintro ⟨met, later⟩
      have first := (same start input known).mpr met
      exact ⟨first, (ih (keeps start input known first)).mpr later⟩

/-- What does not depend on the run comes out of its guard. -/
theorem guarded_or_const {step : State → Input → State} {guard : State → Input → Prop} (always : Prop)
    (inputs : List Input) (start : State) :
    Guarded step (fun state input => always ∨ guard state input) start inputs ↔
      always ∨ Guarded step guard start inputs := by
  induction inputs generalizing start with
  | nil => simp [Guarded]
  | cons input rest ih =>
    rw [Guarded, Guarded, ih]
    exact or_and_left.symm

end Runs
