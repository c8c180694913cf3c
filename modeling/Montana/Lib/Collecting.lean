import Mathlib.Data.List.Forall2

/-! Results that are collected while they are computed: the first error is returned, and
a computation that panics ends everything. -/

universe u v w

namespace Collecting

variable {α : Type u} {β : Type v} {ε : Type w}

/-- No value is a panic. -/
def collect (f : α → Option (Except ε β)) : List α → Option (Except ε (List β))
  | [] => some (.ok [])
  | a :: rest =>
    match f a with
    | none => none
    | some (.error e) => some (.error e)
    | some (.ok b) => (collect f rest).map (Except.map (b :: ·))

variable {f : α → Option (Except ε β)} {a : α} {rest : List α}

theorem collect_cons_panic (panics : f a = none) : collect f (a :: rest) = none := by
  rw [collect, panics]

theorem collect_cons_error {e : ε} (failed : f a = some (.error e)) :
    collect f (a :: rest) = some (.error e) := by
  rw [collect, failed]

theorem collect_cons_ok {b : β} (computed : f a = some (.ok b)) :
    collect f (a :: rest) = (collect f rest).map (Except.map (b :: ·)) := by
  rw [collect, computed]

/-- Values come out exactly where each computation returns one, in order. -/
theorem collect_ok_iff (f : α → Option (Except ε β)) (list : List α) (values : List β) :
    collect f list = some (.ok values) ↔ List.Forall₂ (fun a b => f a = some (.ok b)) list values := by
  induction list generalizing values with
  | nil =>
    rw [List.forall₂_nil_left_iff, collect, Option.some_inj, Except.ok.injEq]
    exact eq_comm
  | cons a rest ih =>
    rw [List.forall₂_cons_left_iff]
    constructor
    · intro collected
      rcases computed : f a with _ | e | b
      · rw [collect_cons_panic computed] at collected
        cases collected
      · rw [collect_cons_error computed] at collected
        cases collected
      · rw [collect_cons_ok computed] at collected
        obtain ⟨later, continued, mapped⟩ := Option.map_eq_some_iff.mp collected
        cases later with
        | error e => cases mapped
        | ok others =>
          cases mapped
          exact ⟨b, others, rfl, (ih others).mp continued, rfl⟩
    · intro each
      obtain ⟨b, others, computed, later, rfl⟩ := each
      rw [collect_cons_ok computed, (ih others).mpr later]
      rfl

end Collecting
