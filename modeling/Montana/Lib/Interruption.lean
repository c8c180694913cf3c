import Montana.Lib.Dialogue

/-! Programs whose questions are operations that can fail, run by a process that can
stop, with rules of pre- and postconditions for them. A program ends with a value, or it
breaks off at some operation: the operation fails, or the process stops before it. -/

universe u v w x y

namespace Dialogue

variable {Question : Type u} {Answer : Question → Type v} {State : Type x}
variable {Error : Type w} {Value : Type w} {Next : Type w}

/-- What becomes of an operation. -/
inductive Fate where
  | performed
  | refused (message : String)
  | stopped
  deriving DecidableEq, Repr

/-- How a program ended: its result unless the process stopped, and the last operation. -/
structure Ending (Question : Type u) (Result : Type w) (State : Type x) where
  result : Option Result
  last : Option Question
  state : State

/-- The program under these fates; once they are used up, every operation is performed. A
question that cannot be refused is answered. -/
def interrupted {Result : Type w} (answer : State → (question : Question) → Answer question × State)
    (refuse : (question : Question) → String → Option (Answer question)) :
    Dialogue Question Answer Result → List Fate → Option Question → State →
      Ending Question Result State
  | done result, _, last, state => ⟨some result, last, state⟩
  | ask question _, .stopped :: _, _, state => ⟨none, some question, state⟩
  | ask question next, .refused message :: fates, _, state =>
    match refuse question message with
    | some refusal => interrupted answer refuse (next refusal) fates (some question) state
    | none => interrupted answer refuse (next (answer state question).1) fates (some question)
        (answer state question).2
  | ask question next, fates, _, state =>
    interrupted answer refuse (next (answer state question).1) fates.tail (some question)
      (answer state question).2

/-- One operation, with what is made of its answer. -/
def call (question : Question) (read : Answer question → Except Error Value) :
    Dialogue Question Answer (Except Error Value) :=
  ask question fun answer => done (read answer)

/-- An error ends the program. -/
def andThen (program : Dialogue Question Answer (Except Error Value))
    (next : Value → Dialogue Question Answer (Except Error Next)) :
    Dialogue Question Answer (Except Error Next) :=
  match program with
  | done (.ok value) => next value
  | done (.error e) => done (.error e)
  | ask question rest => ask question fun answer => (rest answer).andThen next

def mapError {Error' : Type w} (program : Dialogue Question Answer (Except Error Value))
    (convert : Error → Error') : Dialogue Question Answer (Except Error' Value) :=
  match program with
  | done result => done (result.mapError convert)
  | ask question rest => ask question fun answer => (rest answer).mapError convert

/-- A loop over items, which hands a value on. -/
def forEach {Item : Type y} (body : Value → Item → Dialogue Question Answer (Except Error Value)) :
    List Item → Value → Dialogue Question Answer (Except Error Value)
  | [], value => done (.ok value)
  | item :: rest, value => (body value item).andThen (forEach body rest)

/-- An ending with a value as the first condition says, or one that breaks off as the
second one says. -/
def Ending.Meets (Ends : Value → State → Prop) (Breaks : Question → State → Prop) :
    Ending Question (Except Error Value) State → Prop
  | ⟨some (.ok value), _, state⟩ => Ends value state
  | ⟨some (.error _), last, state⟩ => ∃ question, last = some question ∧ Breaks question state
  | ⟨none, last, state⟩ => ∃ question, last = some question ∧ Breaks question state

section Rules

variable {answer : State → (question : Question) → Answer question × State}
variable {refuse : (question : Question) → String → Option (Answer question)}
variable {Ends : Value → State → Prop} {Breaks : Question → State → Prop} {state : State}

variable (answer refuse) in
/-- Under all fates the program started in this state meets the two conditions. -/
def Triple (program : Dialogue Question Answer (Except Error Value)) (state : State)
    (Ends : Value → State → Prop) (Breaks : Question → State → Prop) : Prop :=
  ∀ fates last, (program.interrupted answer refuse fates last state).Meets Ends Breaks

theorem Ending.Meets.mono {Ends' : Value → State → Prop} {Breaks' : Question → State → Prop}
    {ending : Ending Question (Except Error Value) State} (meets : ending.Meets Ends Breaks)
    (ends : ∀ value state, Ends value state → Ends' value state)
    (breaks : ∀ question state, Breaks question state → Breaks' question state) :
    ending.Meets Ends' Breaks' := by
  obtain ⟨result, last, state⟩ := ending
  rcases result with _ | e | value
  · obtain ⟨question, asked, broken⟩ := meets
    exact ⟨question, asked, breaks question state broken⟩
  · obtain ⟨question, asked, broken⟩ := meets
    exact ⟨question, asked, breaks question state broken⟩
  · exact ends value state meets

theorem Triple.mono {program : Dialogue Question Answer (Except Error Value)}
    {Ends' : Value → State → Prop} {Breaks' : Question → State → Prop}
    (triple : Triple answer refuse program state Ends Breaks)
    (ends : ∀ value state, Ends value state → Ends' value state)
    (breaks : ∀ question state, Breaks question state → Breaks' question state) :
    Triple answer refuse program state Ends' Breaks' :=
  fun fates last => (triple fates last).mono ends breaks

theorem Triple.done {value : Value} (ends : Ends value state) :
    Triple answer refuse (.done (.ok value : Except Error Value)) state Ends Breaks :=
  fun _ _ => ends

/-- One operation: it is stopped or refused, or it answers. -/
theorem Triple.call {question : Question} {read : Answer question → Except Error Value}
    (stopped : Breaks question state)
    (refused : ∀ message refusal, refuse question message = some refusal →
      ∃ e, read refusal = .error e)
    (failed : ∀ e, read (answer state question).1 = .error e →
      Breaks question (answer state question).2)
    (performed : ∀ value, read (answer state question).1 = .ok value →
      Ends value (answer state question).2) :
    Triple answer refuse (Dialogue.call question read) state Ends Breaks := by
  have answered : (Dialogue.Ending.mk (some (read (answer state question).1)) (some question)
      (answer state question).2).Meets Ends Breaks := by
    cases outcome : read (answer state question).1 with
    | error e => exact ⟨question, rfl, failed e outcome⟩
    | ok value => exact performed value outcome
  intro fates last
  rcases fates with _ | ⟨fate, fates⟩
  · exact answered
  · cases fate with
    | performed => exact answered
    | stopped => exact ⟨question, rfl, stopped⟩
    | refused message =>
      simp only [Dialogue.call, interrupted]
      cases taken : refuse question message with
      | none => exact answered
      | some refusal =>
        obtain ⟨e, error⟩ := refused message refusal taken
        simp only [error]
        exact ⟨question, rfl, stopped⟩

private theorem meets_andThen {program : Dialogue Question Answer (Except Error Value)}
    {next : Value → Dialogue Question Answer (Except Error Next)} {Middle : Value → State → Prop}
    {Ends : Next → State → Prop} {last : Option Question}
    (first : ∀ fates, (program.interrupted answer refuse fates last state).Meets Middle Breaks)
    (rest : ∀ value state, Middle value state → Triple answer refuse (next value) state Ends Breaks)
    (fates : List Fate) :
    ((program.andThen next).interrupted answer refuse fates last state).Meets Ends Breaks := by
  induction program generalizing state last fates with
  | done result =>
    cases result with
    | error e => exact first []
    | ok value => exact rest value state (first []) fates last
  | ask question continuation ih =>
    have answered := ih (answer state question).1 (fun fates => first (.performed :: fates))
    rcases fates with _ | ⟨fate, fates⟩
    · exact answered []
    · cases fate with
      | performed => exact answered fates
      | stopped => exact first [.stopped]
      | refused message =>
        have refused := fun fates => first (.refused message :: fates)
        simp only [andThen, interrupted] at refused ⊢
        cases taken : refuse question message with
        | none => exact answered fates
        | some refusal =>
          simp only [taken] at refused
          exact ih refusal refused fates

/-- Sequence: what the first part guarantees is what the second part starts from. -/
theorem Triple.andThen {program : Dialogue Question Answer (Except Error Value)}
    {next : Value → Dialogue Question Answer (Except Error Next)} {Middle : Value → State → Prop}
    {Ends : Next → State → Prop} (first : Triple answer refuse program state Middle Breaks)
    (rest : ∀ value state, Middle value state → Triple answer refuse (next value) state Ends Breaks) :
    Triple answer refuse (program.andThen next) state Ends Breaks :=
  fun fates last => meets_andThen (fun fates => first fates last) rest fates

private theorem meets_mapError {Error' : Type w}
    {program : Dialogue Question Answer (Except Error Value)} (convert : Error → Error')
    {last : Option Question} {fates : List Fate}
    (meets : (program.interrupted answer refuse fates last state).Meets Ends Breaks) :
    ((program.mapError convert).interrupted answer refuse fates last state).Meets Ends Breaks := by
  induction program generalizing state last fates with
  | done result => cases result <;> exact meets
  | ask question continuation ih =>
    rcases fates with _ | ⟨fate, fates⟩
    · exact ih _ meets
    · cases fate with
      | performed => exact ih _ meets
      | stopped => exact meets
      | refused message =>
        simp only [mapError, interrupted] at meets ⊢
        cases refusal : refuse question message with
        | none => exact ih _ (by simpa only [refusal] using meets)
        | some refusal => exact ih _ (by simpa only [refusal] using meets)

theorem Triple.mapError {Error' : Type w} {program : Dialogue Question Answer (Except Error Value)}
    (triple : Triple answer refuse program state Ends Breaks) (convert : Error → Error') :
    Triple answer refuse (program.mapError convert) state Ends Breaks :=
  fun fates last => meets_mapError convert (triple fates last)

private theorem forEach_from {Item : Type y}
    {body : Value → Item → Dialogue Question Answer (Except Error Value)}
    {Holds : List Item → Value → State → Prop} {items : List Item}
    (step : ∀ processed item rest value state, items = processed ++ item :: rest →
      Holds processed value state →
        Triple answer refuse (body value item) state (Holds (processed ++ [item])) Breaks)
    {processed remaining : List Item} (split : items = processed ++ remaining) {value : Value}
    (initially : Holds processed value state) :
    Triple answer refuse (forEach body remaining value) state (Holds items) Breaks := by
  induction remaining generalizing processed value state with
  | nil =>
    rw [List.append_nil] at split
    exact Triple.done (split ▸ initially)
  | cons item rest ih =>
    refine (step processed item rest value state split initially).andThen fun value state holds => ?_
    exact ih (by rw [split, List.append_assoc, List.singleton_append]) holds

/-- A loop: an invariant of the items it has been through. -/
theorem Triple.forEach {Item : Type y}
    {body : Value → Item → Dialogue Question Answer (Except Error Value)}
    (Holds : List Item → Value → State → Prop) {items : List Item} {value : Value}
    (step : ∀ processed item rest value state, items = processed ++ item :: rest →
      Holds processed value state →
        Triple answer refuse (body value item) state (Holds (processed ++ [item])) Breaks)
    (initially : Holds [] value state) :
    Triple answer refuse (Dialogue.forEach body items value) state (Holds items) Breaks :=
  forEach_from step rfl initially

end Rules

section Operations

/-- Whatever it is answered, the program asks for these operations only. -/
def Asks (allowed : Question → Prop) {Result : Type w} : Dialogue Question Answer Result → Prop
  | done _ => True
  | ask question next => allowed question ∧ ∀ answer, (next answer).Asks allowed

variable {allowed : Question → Prop}

theorem Asks.call {question : Question} (listed : allowed question)
    (read : Answer question → Except Error Value) :
    (Dialogue.call question read).Asks allowed :=
  ⟨listed, fun _ => trivial⟩

theorem Asks.andThen {program : Dialogue Question Answer (Except Error Value)}
    {next : Value → Dialogue Question Answer (Except Error Next)} (first : program.Asks allowed)
    (rest : ∀ value, (next value).Asks allowed) : (program.andThen next).Asks allowed := by
  induction program with
  | done result =>
    cases result with
    | error e => trivial
    | ok value => exact rest value
  | ask question continuation ih => exact ⟨first.1, fun answer => ih answer (first.2 answer)⟩

theorem Asks.mapError {Error' : Type w} {program : Dialogue Question Answer (Except Error Value)}
    (asks : program.Asks allowed) (convert : Error → Error') : (program.mapError convert).Asks allowed := by
  induction program with
  | done result => trivial
  | ask question continuation ih => exact ⟨asks.1, fun answer => ih answer (asks.2 answer)⟩

theorem Asks.forEach {Item : Type y} {body : Value → Item → Dialogue Question Answer (Except Error Value)}
    {items : List Item} (step : ∀ item ∈ items, ∀ value, (body value item).Asks allowed) (value : Value) :
    (Dialogue.forEach body items value).Asks allowed := by
  induction items generalizing value with
  | nil => trivial
  | cons item rest ih =>
    have later := ih fun other member => step other (List.mem_cons_of_mem item member)
    exact (step item List.mem_cons_self value).andThen later

/-- What each of these operations keeps, a program of them keeps, wherever it breaks off. -/
theorem Asks.invariant {Result : Type w} {answer : State → (question : Question) → Answer question × State}
    {refuse : (question : Question) → String → Option (Answer question)}
    {program : Dialogue Question Answer Result} (asks : program.Asks allowed) (Holds : State → Prop)
    (keeps : ∀ state question, allowed question → Holds state → Holds (answer state question).2)
    (fates : List Fate) (last : Option Question) {state : State} (initially : Holds state) :
    Holds (program.interrupted answer refuse fates last state).state := by
  induction program generalizing fates last state with
  | done result => exact initially
  | ask question next ih =>
    have answered (fates : List Fate) := ih (answer state question).1 (asks.2 _) fates (some question)
      (keeps state question asks.1 initially)
    rcases fates with _ | ⟨fate, fates⟩
    · exact answered []
    · cases fate with
      | performed => exact answered fates
      | stopped => exact initially
      | refused message =>
        rw [interrupted]
        cases refuse question message with
        | none => exact answered fates
        | some refusal => exact ih refusal (asks.2 _) fates (some question) initially

end Operations

end Dialogue
