/-! Programs that put questions to a state and go on with its answers. A state may
change when it answers; what every answer preserves, the whole program preserves. -/

universe u v w x y

/-- Each question comes with the continuation that takes its answer. -/
inductive Dialogue (Question : Type u) (Answer : Question → Type v) (Result : Type w) where
  | done (result : Result)
  | ask (question : Question) (next : Answer question → Dialogue Question Answer Result)

namespace Dialogue

variable {Question : Type u} {Answer : Question → Type v} {Result : Type w} {State : Type x}
variable {State' : Type y}

def run (answer : State → (question : Question) → Answer question × State) :
    Dialogue Question Answer Result → State → Result × State
  | done result, state => (result, state)
  | ask question next, state =>
    run answer (next (answer state question).1) (answer state question).2

/-- Questions asked for their own sake, before the program. -/
def asking (questions : List Question) (program : Dialogue Question Answer Result) :
    Dialogue Question Answer Result :=
  questions.foldr (fun question rest => ask question fun _ => rest) program

@[simp] theorem run_asking_done (answer : State → (question : Question) → Answer question × State)
    (questions : List Question) (result : Result) (state : State) :
    ((asking questions (done result)).run answer state).1 = result := by
  induction questions generalizing state with
  | nil => rfl
  | cons question rest ih => exact ih _

theorem run_invariant {answer : State → (question : Question) → Answer question × State}
    (Holds : State → Prop)
    (preserved : ∀ state question, Holds state → Holds (answer state question).2)
    (program : Dialogue Question Answer Result) {state : State} (initially : Holds state) :
    Holds (program.run answer state).2 := by
  induction program generalizing state with
  | done result => exact initially
  | ask question next ih => exact ih _ (preserved state question initially)

/-- Two states that answer each question alike, and stay related when they do, make the same
of every program. -/
theorem run_simulates {answer : State → (question : Question) → Answer question × State}
    {answer' : State' → (question : Question) → Answer question × State'}
    (Related : State → State' → Prop)
    (answers : ∀ state state' question, Related state state' →
      (answer state question).1 = (answer' state' question).1 ∧
        Related (answer state question).2 (answer' state' question).2)
    (program : Dialogue Question Answer Result) {state : State} {state' : State'}
    (initially : Related state state') :
    (program.run answer state).1 = (program.run answer' state').1 ∧
      Related (program.run answer state).2 (program.run answer' state').2 := by
  induction program generalizing state state' with
  | done result => exact ⟨rfl, initially⟩
  | ask question next ih =>
    obtain ⟨same, related⟩ := answers state state' question initially
    have rest := ih (answer state question).1 related
    rw [run, run, ← same]
    exact rest

end Dialogue
