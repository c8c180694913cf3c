import Mathlib.Algebra.GroupWithZero.Nat
import Mathlib.Data.List.Basic

/-! The sums so far along a list of numbers. -/

namespace Totals

/-- On top of what was there before. -/
def running (before : Nat) : List Nat → List Nat
  | [] => []
  | value :: rest => (before + value) :: running (before + value) rest

@[simp] theorem length_running (before : Nat) (values : List Nat) :
    (running before values).length = values.length := by
  induction values generalizing before with
  | nil => rfl
  | cons value rest ih => simp [running, ih]

theorem running_append (before : Nat) (values : List Nat) (value : Nat) :
    running before (values ++ [value]) = running before values ++ [before + values.sum + value] := by
  induction values generalizing before with
  | nil => simp [running]
  | cons first rest ih => simp [running, ih, Nat.add_assoc]

/-- The sums are the numbers themselves only as long as all before them are zero. -/
theorem running_eq_self_iff (before : Nat) (values : List Nat) :
    running before values = values ↔ values = [] ∨ before = 0 ∧ ∀ value ∈ values.dropLast, value = 0 := by
  induction values generalizing before with
  | nil => simp [running]
  | cons value rest ih =>
    rw [running, List.cons_eq_cons, ih]
    cases rest with
    | nil => simp
    | cons next later =>
      rw [List.dropLast_cons_cons, List.forall_mem_cons]
      constructor
      · intro same
        obtain ⟨head, tail⟩ := same
        have none : before = 0 := by omega
        rcases tail with empty | ⟨zero, others⟩
        · cases empty
        · exact .inr ⟨none, by omega, others⟩
      · intro same
        rcases same with empty | ⟨none, zero, others⟩
        · cases empty
        · exact ⟨by omega, .inr ⟨by omega, others⟩⟩

end Totals
