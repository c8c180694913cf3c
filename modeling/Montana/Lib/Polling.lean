/-! Loops that poll for a tip and then work until they have caught up with it. -/

universe u v w

namespace Polling

/-- What one pass through the inner loop comes to. -/
inductive Turn (State : Type u) (Exit : Type v) where
  | caughtUp
  | again (state : State)
  | stopped (exit : Exit) (state : State)

/-- The loop waits for its next poll, or has returned, or needs more than it was given. -/
inductive Outcome (State : Type u) (Exit : Type v) where
  | waiting (state : State)
  | stopped (exit : Exit) (state : State)
  | running (state : State)

variable {State : Type u} {Exit : Type v} {Tip : Type w}

def fetch (turn : State → Turn State Exit) : Nat → State → Outcome State Exit
  | 0, state => .running state
  | fuel + 1, state =>
    match turn state with
    | .caughtUp => .waiting state
    | .again next => fetch turn fuel next
    | .stopped exit next => .stopped exit next

def poll (turn : Tip → State → Turn State Exit) (fuel : Nat) :
    List (Except Exit Tip) → State → Outcome State Exit
  | [], state => .waiting state
  | .error exit :: _, state => .stopped exit state
  | .ok tip :: rest, state =>
    match fetch (turn tip) fuel state with
    | .waiting next => poll turn fuel rest next
    | other => other

/-- More fuel does not change where the loop waits. -/
theorem fetch_mono {turn : State → Turn State Exit} {fuel more : Nat} {state final : State}
    (waits : fetch turn fuel state = .waiting final) (enough : fuel ≤ more) :
    fetch turn more state = .waiting final := by
  induction fuel generalizing more state with
  | zero => cases waits
  | succ fuel ih =>
    obtain ⟨more, rfl⟩ : ∃ rest, more = rest + 1 := ⟨more - 1, by omega⟩
    rw [fetch] at waits ⊢
    cases passed : turn state with
    | caughtUp =>
      rw [passed] at waits
      exact waits
    | again next =>
      rw [passed] at waits
      exact ih waits (Nat.le_of_succ_le_succ enough)
    | stopped exit next =>
      rw [passed] at waits
      cases waits

/-- A poll that comes to wait does so after each tip. -/
theorem poll_cons {turn : Tip → State → Turn State Exit} {fuel : Nat} {tip : Tip}
    {rest : List (Except Exit Tip)} {state final : State}
    (waits : poll turn fuel (.ok tip :: rest) state = .waiting final) :
    ∃ next, fetch (turn tip) fuel state = .waiting next ∧ poll turn fuel rest next = .waiting final := by
  rw [poll] at waits
  split at waits
  · rename_i next fetched
    exact ⟨next, fetched, waits⟩
  · rename_i notWaiting
    exact absurd waits (notWaiting final)

theorem poll_mono {turn : Tip → State → Turn State Exit} {fuel more : Nat}
    {tips : List (Except Exit Tip)} {state final : State}
    (waits : poll turn fuel tips state = .waiting final) (enough : fuel ≤ more) :
    poll turn more tips state = .waiting final := by
  induction tips generalizing state with
  | nil => exact waits
  | cons tip rest ih =>
    cases tip with
    | error exit => cases waits
    | ok tip =>
      obtain ⟨next, fetched, after⟩ := poll_cons waits
      rw [poll, fetch_mono fetched enough]
      exact ih after

/-- Where the loop waits does not depend on how much it was given. -/
theorem poll_unique {turn : Tip → State → Turn State Exit} {fuel other : Nat}
    {tips : List (Except Exit Tip)} {state final final' : State}
    (waits : poll turn fuel tips state = .waiting final)
    (waits' : poll turn other tips state = .waiting final') : final = final' := by
  have both := poll_mono waits (Nat.le_max_left fuel other)
  rw [poll_mono waits' (Nat.le_max_right fuel other)] at both
  cases both
  rfl

/-- The state in which a loop waits, stopped or still runs. -/
def Outcome.state : Outcome State Exit → State
  | .waiting state => state
  | .stopped _ state => state
  | .running state => state

/-- What every pass keeps, also the one that ends the loop, holds wherever the loop is left. -/
theorem fetch_invariant {turn : State → Turn State Exit} (Holds : State → Prop)
    (again : ∀ state next, turn state = .again next → Holds state → Holds next)
    (stopped : ∀ state exit next, turn state = .stopped exit next → Holds state → Holds next)
    (fuel : Nat) {state : State} (initially : Holds state) : Holds (fetch turn fuel state).state := by
  induction fuel generalizing state with
  | zero => exact initially
  | succ fuel ih =>
    rw [fetch]
    cases passed : turn state with
    | caughtUp => exact initially
    | again next => exact ih (again state next passed initially)
    | stopped exit next => exact stopped state exit next passed initially

theorem poll_invariant {turn : Tip → State → Turn State Exit} (Holds : State → Prop) (fuel : Nat)
    {tips : List (Except Exit Tip)}
    (again : ∀ tip, .ok tip ∈ tips → ∀ state next, turn tip state = .again next → Holds state → Holds next)
    (stopped : ∀ tip, .ok tip ∈ tips → ∀ state exit next, turn tip state = .stopped exit next →
      Holds state → Holds next)
    {state : State} (initially : Holds state) : Holds (poll turn fuel tips state).state := by
  induction tips generalizing state with
  | nil => exact initially
  | cons tip rest ih =>
    cases tip with
    | error exit => exact initially
    | ok tip =>
      have here := fetch_invariant Holds (again tip List.mem_cons_self) (stopped tip List.mem_cons_self)
        fuel initially
      rw [poll]
      split
      · rename_i next fetched
        rw [fetched] at here
        exact ih (fun other member => again other (List.mem_cons_of_mem _ member))
          (fun other member => stopped other (List.mem_cons_of_mem _ member)) here
      · exact here

/-- A loop that asks until an answer decides; what it comes to, if it does, and the
answers it has not asked for. -/
def ask {Answer : Type u} {Result : Type v} (decide : Answer → Option Result) :
    List Answer → Option (Result × List Answer)
  | [] => none
  | answer :: rest =>
    match decide answer with
    | some result => some (result, rest)
    | none => ask decide rest

/-- One of the answers decided. -/
theorem ask_inv {Answer : Type u} {Result : Type v} {decide : Answer → Option Result}
    {answers rest : List Answer} {result : Result} (decided : ask decide answers = some (result, rest)) :
    ∃ before answer, answers = before ++ answer :: rest ∧ decide answer = some result := by
  induction answers with
  | nil => cases decided
  | cons answer later ih =>
    rw [ask] at decided
    cases asked : decide answer with
    | some found =>
      rw [asked] at decided
      cases decided
      exact ⟨[], answer, rfl, asked⟩
    | none =>
      rw [asked] at decided
      obtain ⟨before, last, rfl, asked⟩ := ih decided
      exact ⟨answer :: before, last, rfl, asked⟩

end Polling
