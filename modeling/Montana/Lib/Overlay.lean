import Mathlib.Logic.Function.Basic

/-! Caches over a source. A miss is filled with the source's answer, a write replaces
what is there; a key that was not written still reads as before. -/

universe u v

/-- The cache came from the one before by these last writes, and by answers of the
source to keys that missed. -/
def Overlaid {Key : Type u} {Value : Type v} (source : Key → Value → Prop)
    (before written cache : Key → Option Value) : Prop :=
  ∀ key, match written key with
    | some value => cache key = some value
    | none => cache key = before key ∨
        before key = none ∧ ∃ value, source key value ∧ cache key = some value

namespace Overlaid

variable {Key : Type u} {Value : Type v} {source : Key → Value → Prop}
variable {before written cache : Key → Option Value}

theorem unchanged (source : Key → Value → Prop) (before : Key → Option Value) :
    Overlaid source before (fun _ => none) before :=
  fun _ => .inl rfl

theorem of_written (overlaid : Overlaid source before written cache) {key : Key} {value : Value}
    (last : written key = some value) : cache key = some value := by
  have at_key := overlaid key
  rwa [last] at at_key

theorem of_unwritten (overlaid : Overlaid source before written cache) {key : Key}
    (unwritten : written key = none) :
    cache key = before key ∨ before key = none ∧ ∃ value, source key value ∧ cache key = some value := by
  have at_key := overlaid key
  rwa [unwritten] at at_key

/-- What the cache holds for a key that was not written was there before, or is an answer. -/
theorem cached_unwritten (overlaid : Overlaid source before written cache) {key : Key} {value : Value}
    (unwritten : written key = none) (cached : cache key = some value) :
    before key = some value ∨ source key value := by
  rcases overlaid.of_unwritten unwritten with same | ⟨-, answer, answered, filled⟩
  · exact .inl (same.symm.trans cached)
  · rw [filled, Option.some.injEq] at cached
    exact .inr (cached ▸ answered)

/-- A miss was a miss before, and the key has not been written. -/
theorem missed (overlaid : Overlaid source before written cache) {key : Key} (miss : cache key = none) :
    written key = none ∧ before key = none := by
  cases last : written key with
  | some value =>
    rw [overlaid.of_written last] at miss
    contradiction
  | none =>
    rcases overlaid.of_unwritten last with same | ⟨-, value, -, filled⟩
    · exact ⟨rfl, same.symm.trans miss⟩
    · rw [filled] at miss
      contradiction

theorem fill [DecidableEq Key] (overlaid : Overlaid source before written cache) {key : Key}
    {value : Value} (miss : cache key = none) (answered : source key value) :
    Overlaid source before written (Function.update cache key (some value)) := by
  obtain ⟨unwritten, absent⟩ := overlaid.missed miss
  intro other
  by_cases same : other = key
  · subst same
    rw [unwritten, Function.update_self]
    exact .inr ⟨absent, value, answered, rfl⟩
  · rw [Function.update_of_ne same]
    exact overlaid other

/-- Filling a key again with the answer it holds changes nothing. -/
theorem refill [DecidableEq Key] (overlaid : Overlaid source before written cache) {key : Key}
    {value : Value} (repeats : ∀ held, cache key = some held → held = value)
    (answered : source key value) :
    Overlaid source before written (Function.update cache key (some value)) := by
  cases found : cache key with
  | none => exact overlaid.fill found answered
  | some held =>
    rw [← repeats held found, ← found, Function.update_eq_self]
    exact overlaid

/-- The last of several writes to a key is the one that stays. -/
theorem write (overlaid : Overlaid source before written cache) (fresh : Key → Option Value) :
    Overlaid source before (fun key => (fresh key).or (written key))
      (fun key => (fresh key).or (cache key)) := by
  intro key
  cases now : fresh key with
  | some value => simp only [now, Option.some_or]
  | none => simpa only [now, Option.none_or] using overlaid key

end Overlaid
