import Mathlib.Data.List.Basic

/-! Replay after interruptions. Effects are applied item by item, but progress is
kept group by group, so an interrupted group is applied again from its start. -/

universe u

namespace Replay

variable {α : Type u}

/-- Where a life ends: after this many whole groups and this many items of the next one. -/
structure Interruption where
  completed : Nat
  reached : Nat
  deriving DecidableEq, Repr

/-- The items of the interrupted group that were applied although it did not complete. -/
def Interruption.torn (interruption : Interruption) (groups : List (List α)) : List α :=
  ((groups.drop interruption.completed).headD []).take interruption.reached

/-- Every item applied, in order, through all lives; the last life is not interrupted. -/
def applied : List (List α) → List Interruption → List α
  | groups, [] => groups.flatten
  | groups, interruption :: rest =>
    (groups.take interruption.completed).flatten ++ interruption.torn groups ++
      applied (groups.drop interruption.completed) rest

/-- No interruption comes after an item of a group that did not complete. -/
def Untorn : List (List α) → List Interruption → Prop
  | _, [] => True
  | groups, interruption :: rest =>
    interruption.torn groups = [] ∧ Untorn (groups.drop interruption.completed) rest

theorem flatten_length_le_applied (groups : List (List α)) (interruptions : List Interruption) :
    groups.flatten.length ≤ (applied groups interruptions).length := by
  induction interruptions generalizing groups with
  | nil => exact Nat.le_refl _
  | cons interruption rest ih =>
    have later := ih (groups.drop interruption.completed)
    have split := congrArg (List.length ∘ List.flatten)
      (List.take_append_drop interruption.completed groups)
    simp only [Function.comp_apply, List.flatten_append, List.length_append] at split
    simp only [applied, List.length_append]
    omega

/-- Everything is applied once and in order exactly when no group was torn. -/
theorem applied_eq_flatten_iff (groups : List (List α)) (interruptions : List Interruption) :
    applied groups interruptions = groups.flatten ↔ Untorn groups interruptions := by
  induction interruptions generalizing groups with
  | nil => exact ⟨fun _ => trivial, fun _ => rfl⟩
  | cons interruption rest ih =>
    have split : groups.flatten = (groups.take interruption.completed).flatten ++
        (groups.drop interruption.completed).flatten := by
      rw [← List.flatten_append, List.take_append_drop]
    have later := flatten_length_le_applied (groups.drop interruption.completed) rest
    constructor
    · intro once
      have length := congrArg List.length once
      rw [split] at once length
      simp only [applied, List.length_append] at length
      have whole : interruption.torn groups = [] := List.eq_nil_of_length_eq_zero (by omega)
      simp only [applied, whole, List.append_nil] at once
      exact ⟨whole, (ih _).mp (List.append_cancel_left once)⟩
    · intro ⟨whole, untorn⟩
      rw [applied, whole, List.append_nil, (ih _).mpr untorn, ← split]

end Replay
