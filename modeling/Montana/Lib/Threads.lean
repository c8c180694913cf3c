import Mathlib.Algebra.BigOperators.Group.List.Basic
import Mathlib.Algebra.GroupWithZero.Nat
import Mathlib.Data.List.Induction
import Montana.Lib.Runs

/-! Threads that take turns on shared state. Any number of them may be started at any time. -/

universe u v w x

namespace Threads

/-- How a thread starts, and what it makes of the shared state when it moves. -/
structure Program (Shared : Type u) (Thread : Type v) (Request : Type w) (Move : Type x) where
  start : Request → Thread
  next : Move → Nat → Shared → Thread → Thread × Shared

structure Pool (Shared : Type u) (Thread : Type v) where
  shared : Shared
  threads : List Thread

inductive Turn (Request : Type w) (Move : Type x) where
  | start (request : Request)
  | act (thread : Nat) (move : Move)

variable {Shared : Type u} {Thread : Type v} {Request : Type w} {Move : Type x}

def step (program : Program Shared Thread Request Move) (pool : Pool Shared Thread) :
    Turn Request Move → Pool Shared Thread
  | .start request => { pool with threads := pool.threads ++ [program.start request] }
  | .act id move =>
    match pool.threads[id]? with
    | none => pool
    | some thread =>
      { shared := (program.next move id pool.shared thread).2
        threads := pool.threads.set id (program.next move id pool.shared thread).1 }

def run (program : Program Shared Thread Request Move) (pool : Pool Shared Thread)
    (turns : List (Turn Request Move)) : Pool Shared Thread :=
  turns.foldl (step program) pool

/-- The shared state before and after the turn, if it is a move of this thread. -/
def moveOf (program : Program Shared Thread Request Move) (id : Nat) (pool : Pool Shared Thread) :
    Turn Request Move → List (Shared × Shared)
  | .start _ => []
  | .act other move =>
    if other = id then
      match pool.threads[id]? with
      | none => []
      | some thread => [(pool.shared, (program.next move id pool.shared thread).2)]
    else []

/-- All moves of one thread in a run. -/
def movesOf (program : Program Shared Thread Request Move) (id : Nat) :
    Pool Shared Thread → List (Turn Request Move) → List (Shared × Shared)
  | _, [] => []
  | pool, turn :: rest => moveOf program id pool turn ++ movesOf program id (step program pool turn) rest

def total (weight : Thread → Nat) (threads : List Thread) : Nat := (threads.map weight).sum

theorem total_append (weight : Thread → Nat) (threads : List Thread) (thread : Thread) :
    total weight (threads ++ [thread]) = total weight threads + weight thread := by
  simp [total]

theorem total_add (weight other : Thread → Nat) (threads : List Thread) :
    total (fun thread => weight thread + other thread) threads = total weight threads + total other threads := by
  induction threads with
  | nil => rfl
  | cons head rest ih =>
    simp only [total, List.map_cons, List.sum_cons] at ih ⊢
    omega

/-- One thread's weight is exchanged for another. -/
theorem total_set (weight : Thread → Nat) {threads : List Thread} {id : Nat} {thread : Thread}
    (found : threads[id]? = some thread) (thread' : Thread) :
    total weight (threads.set id thread') + weight thread = total weight threads + weight thread' := by
  induction threads generalizing id with
  | nil => cases found
  | cons head rest ih =>
    cases id with
    | zero =>
      obtain rfl := Option.some.inj found
      simp only [total, List.set_cons_zero, List.map_cons, List.sum_cons]
      omega
    | succ id =>
      have later : rest[id]? = some thread := found
      have tail := ih later
      simp only [total, List.set_cons_succ, List.map_cons, List.sum_cons] at tail ⊢
      omega

variable (program : Program Shared Thread Request Move)

@[simp] theorem run_append (pool : Pool Shared Thread) (before after : List (Turn Request Move)) :
    run program pool (before ++ after) = run program (run program pool before) after :=
  List.foldl_append ..

theorem movesOf_append (id : Nat) (pool : Pool Shared Thread) (before after : List (Turn Request Move)) :
    movesOf program id pool (before ++ after) =
      movesOf program id pool before ++ movesOf program id (run program pool before) after := by
  induction before generalizing pool with
  | nil => rfl
  | cons turn rest ih =>
    rw [List.cons_append, movesOf, movesOf, ih, List.append_assoc]
    rfl

/-- What no move of any thread changes of the shared state holds in every run. -/
theorem shared_invariant (Holds : Shared → Prop)
    (preserved : ∀ move id shared thread, Holds shared → Holds (program.next move id shared thread).2)
    (turns : List (Turn Request Move)) (pool : Pool Shared Thread) (initially : Holds pool.shared) :
    Holds (run program pool turns).shared := by
  have kept : ∀ pool : Pool Shared Thread, ∀ turn ∈ turns, Holds pool.shared →
      Holds (step program pool turn).shared := by
    intro pool turn _ holds
    cases turn with
    | start request => exact holds
    | act id move =>
      rw [step]
      split
      · exact holds
      · exact preserved _ _ _ _ holds
  exact Runs.invariant_run (fun pool : Pool Shared Thread => Holds pool.shared) turns kept initially

/-- A quantity that each move shifts between the shared state and its thread is conserved. -/
theorem conserved (measure : Shared → Nat) (weight : Thread → Nat)
    (fresh : ∀ request, weight (program.start request) = 0)
    (shifted : ∀ move id shared thread,
      measure (program.next move id shared thread).2 + weight (program.next move id shared thread).1 =
        measure shared + weight thread)
    (turns : List (Turn Request Move)) (pool : Pool Shared Thread) :
    measure (run program pool turns).shared + total weight (run program pool turns).threads =
      measure pool.shared + total weight pool.threads := by
  induction turns generalizing pool with
  | nil => rfl
  | cons turn rest ih =>
    refine (ih (step program pool turn)).trans ?_
    cases turn with
    | start request =>
      rw [step, total_append, fresh]
      rfl
    | act id move =>
      rw [step]
      split
      · rfl
      · rename_i thread found
        have exchanged := total_set weight found (program.next move id pool.shared thread).1
        have moved := shifted move id pool.shared thread
        dsimp only
        omega

variable {program}

/-- A thread that is not there yet has not moved. -/
theorem step_absent {id : Nat} {pool : Pool Shared Thread} {turn : Turn Request Move}
    (absent : (step program pool turn).threads[id]? = none) :
    pool.threads[id]? = none ∧ moveOf program id pool turn = [] := by
  cases turn with
  | start request =>
    rw [step, List.getElem?_eq_none_iff, List.length_append] at absent
    exact ⟨List.getElem?_eq_none (by omega), rfl⟩
  | act other move =>
    have missing : pool.threads[id]? = none := by
      rw [step] at absent
      split at absent
      · exact absent
      · rw [List.getElem?_eq_none_iff, List.length_set] at absent
        exact List.getElem?_eq_none absent
    refine ⟨missing, ?_⟩
    rw [moveOf, missing]
    split <;> rfl

/-- Only a thread's own moves bring it on. -/
theorem step_present {id : Nat} {pool : Pool Shared Thread} {turn : Turn Request Move} {thread : Thread}
    (found : (step program pool turn).threads[id]? = some thread) :
    (pool.threads[id]? = some thread ∧ moveOf program id pool turn = []) ∨
      (∃ request, thread = program.start request ∧ pool.threads[id]? = none ∧
        moveOf program id pool turn = []) ∨
      ∃ move before, pool.threads[id]? = some before ∧ thread = (program.next move id pool.shared before).1 ∧
        moveOf program id pool turn = [(pool.shared, (program.next move id pool.shared before).2)] := by
  cases turn with
  | start request =>
    rw [step] at found
    by_cases old : id < pool.threads.length
    · left
      rw [List.getElem?_append_left old] at found
      exact ⟨found, rfl⟩
    · right
      left
      refine ⟨request, ?_, List.getElem?_eq_none (Nat.le_of_not_lt old), rfl⟩
      rw [List.getElem?_append_right (Nat.le_of_not_lt old), List.getElem?_singleton] at found
      split at found
      · exact (Option.some.inj found).symm
      · cases found
  | act other move =>
    by_cases own : other = id
    · subst own
      cases present : pool.threads[other]? with
      | none =>
        simp only [step, present] at found
        cases found
      | some before =>
        right
        right
        have inside : other < pool.threads.length := (List.getElem?_eq_some_iff.mp present).1
        simp only [step, present, List.getElem?_set_self inside] at found
        refine ⟨move, before, rfl, (Option.some.inj found).symm, ?_⟩
        rw [moveOf, if_pos rfl, present]
    · left
      refine ⟨?_, by rw [moveOf, if_neg own]⟩
      rw [step] at found
      split at found
      · exact found
      · rwa [List.getElem?_set_ne own] at found

/-- What holds of a fresh thread and is preserved by its own moves holds of it and all moves
it has made, whatever the others did in between. -/
theorem thread_invariant (program : Program Shared Thread Request Move)
    (Holds : Thread → List (Shared × Shared) → Prop)
    (fresh : ∀ request, Holds (program.start request) [])
    (moved : ∀ move id shared thread moves, Holds thread moves →
      Holds (program.next move id shared thread).1
        (moves ++ [(shared, (program.next move id shared thread).2)]))
    (shared : Shared) (turns : List (Turn Request Move)) (id : Nat) :
    ((run program ⟨shared, []⟩ turns).threads[id]? = none → movesOf program id ⟨shared, []⟩ turns = []) ∧
      ∀ thread, (run program ⟨shared, []⟩ turns).threads[id]? = some thread →
        Holds thread (movesOf program id ⟨shared, []⟩ turns) := by
  induction turns using List.reverseRecOn with
  | nil => exact ⟨fun _ => rfl, fun thread found => by cases found⟩
  | append_singleton turns turn ih =>
    obtain ⟨absentBefore, presentBefore⟩ := ih
    rw [run_append, movesOf_append]
    simp only [movesOf, List.append_nil]
    constructor
    · intro absent
      obtain ⟨missing, noMove⟩ := step_absent absent
      rw [absentBefore missing, noMove, List.append_nil]
    · intro thread found
      rcases step_present found with ⟨same, noMove⟩ | ⟨request, rfl, missing, noMove⟩ |
          ⟨move, before, present, rfl, itsMove⟩
      · rw [noMove, List.append_nil]
        exact presentBefore thread same
      · rw [noMove, List.append_nil, absentBefore missing]
        exact fresh request
      · rw [itsMove]
        exact moved _ _ _ _ _ (presentBefore before present)

end Threads
