import Mathlib.Data.List.AList

/-! A map to which entries are added and from which they are taken in the same order. -/

universe u v

namespace Outstanding

variable {Key : Type u} {Value : Type v} [DecidableEq Key]

/-- The map has just these entries. -/
def Holds (store : AList fun _ : Key => Value) (entries : List (Key × Value)) : Prop :=
  ∀ key value, store.lookup key = some value ↔ (key, value) ∈ entries

def insertAll (store : AList fun _ : Key => Value) (entries : List (Key × Value)) :
    AList fun _ : Key => Value :=
  entries.foldl (fun store entry => store.insert entry.1 entry.2) store

theorem holds_empty : Holds (∅ : AList fun _ : Key => Value) [] := by
  intro key value
  simp

theorem Holds.insert {store : AList fun _ : Key => Value} {entries : List (Key × Value)} {key : Key}
    (holds : Holds store entries) (fresh : key ∉ entries.map Prod.fst) (value : Value) :
    Holds (store.insert key value) (entries ++ [(key, value)]) := by
  intro sought found
  by_cases same : sought = key
  · subst same
    have absent : (sought, found) ∉ entries := fun member =>
      fresh (List.mem_map.mpr ⟨(sought, found), member, rfl⟩)
    rw [AList.lookup_insert]
    simp [absent, eq_comm]
  · rw [AList.lookup_insert_ne same, holds sought found]
    simp [same]

/-- Entries under new keys are added to those that are there. -/
theorem Holds.insertAll {store : AList fun _ : Key => Value} {entries more : List (Key × Value)}
    (holds : Holds store entries) (distinct : ((entries ++ more).map Prod.fst).Nodup) :
    Holds (insertAll store more) (entries ++ more) := by
  induction more generalizing store entries with
  | nil =>
    rw [List.append_nil]
    exact holds
  | cons entry rest ih =>
    have apart := distinct
    rw [List.map_append, List.map_cons] at apart
    have fresh : entry.1 ∉ entries.map Prod.fst := fun member =>
      (List.nodup_append.mp apart).2.2 entry.1 member entry.1 List.mem_cons_self rfl
    have together : entries ++ entry :: rest = (entries ++ [entry]) ++ rest := by simp
    rw [together] at distinct ⊢
    exact ih (holds.insert fresh entry.2) distinct

/-- The first entry is found and can be taken out. -/
theorem Holds.erase {store : AList fun _ : Key => Value} {entries : List (Key × Value)} {key : Key}
    {value : Value} (holds : Holds store ((key, value) :: entries)) (once : key ∉ entries.map Prod.fst) :
    store.lookup key = some value ∧ Holds (store.erase key) entries := by
  constructor
  · exact (holds key value).mpr List.mem_cons_self
  · intro sought found
    by_cases same : sought = key
    · subst same
      have absent : (sought, found) ∉ entries := fun member =>
        once (List.mem_map.mpr ⟨(sought, found), member, rfl⟩)
      simp [AList.lookup_erase, absent]
    · rw [AList.lookup_erase_ne same, holds sought found]
      simp [same]

end Outstanding
