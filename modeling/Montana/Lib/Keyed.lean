import Mathlib.Data.List.AList
import Mathlib.Logic.Function.Basic

/-! States indexed by keys, changed by maps that say what happens at some keys.
Every key sees its own changes only, in whatever order a map lists its entries. -/

universe u v w w'

namespace Keyed

variable {Key : Type u} {Value : Type v} {State : Type w} [DecidableEq Key]

/-- One entry changes the state at its key. -/
def applyEntry (change : Value → State → State) (state : Key → State) (entry : (_ : Key) × Value) :
    Key → State :=
  Function.update state entry.1 (change entry.2 (state entry.1))

def applyMap (change : Value → State → State) (state : Key → State) (map : AList fun _ : Key => Value) :
    Key → State :=
  map.entries.foldl (applyEntry change) state

def applyMaps (change : Value → State → State) (state : Key → State)
    (maps : List (AList fun _ : Key => Value)) : Key → State :=
  maps.foldl (applyMap change) state

/-- The map with other values under the same keys. -/
def mapValues {Value' : Type w'} (convert : Value → Value') (map : AList fun _ : Key => Value) :
    AList fun _ : Key => Value' :=
  ⟨map.entries.map (Sigma.map id fun _ => convert), map.nodupKeys.map₂ (fun _ => convert) map.entries⟩

theorem lookup_mapValues {Value' : Type w'} (convert : Value → Value') (map : AList fun _ : Key => Value)
    (key : Key) : (mapValues convert map).lookup key = (map.lookup key).map convert :=
  List.dlookup_map₂ key

/-- What a list of maps says about one key, in order. -/
def changesAt (maps : List (AList fun _ : Key => Value)) (key : Key) : List Value :=
  maps.filterMap (·.lookup key)

theorem applyEntries_of_notMem (change : Value → State → State) (state : Key → State)
    {entries : List ((_ : Key) × Value)} {key : Key} (absent : key ∉ entries.keys) :
    entries.foldl (applyEntry change) state key = state key := by
  induction entries generalizing state with
  | nil => rfl
  | cons entry rest ih =>
    rw [List.keys_cons, List.mem_cons, not_or] at absent
    rw [List.foldl_cons, ih _ absent.2, applyEntry, Function.update_of_ne absent.1]

theorem applyEntries_apply (change : Value → State → State) (state : Key → State)
    {entries : List ((_ : Key) × Value)} (nodup : entries.NodupKeys) (key : Key) :
    entries.foldl (applyEntry change) state key =
      ((entries.dlookup key).map fun value => change value (state key)).getD (state key) := by
  induction entries generalizing state with
  | nil => rfl
  | cons entry rest ih =>
    obtain ⟨fresh, nodup⟩ := List.nodupKeys_cons.mp nodup
    rw [List.foldl_cons]
    by_cases same : entry.1 = key
    · subst same
      rw [applyEntries_of_notMem change _ fresh, applyEntry, Function.update_self,
        List.dlookup_cons_eq]
      rfl
    · rw [ih _ nodup, applyEntry, Function.update_of_ne (Ne.symm same),
        List.dlookup_cons_ne _ _ (Ne.symm same)]

theorem applyMap_apply (change : Value → State → State) (state : Key → State)
    (map : AList fun _ : Key => Value) (key : Key) :
    applyMap change state map key =
      ((map.lookup key).map fun value => change value (state key)).getD (state key) :=
  applyEntries_apply change state map.nodupKeys key

/-- Two rules make the same of a map when they make the same of each of its entries. -/
theorem applyMap_eq_iff (change other : Value → State → State) (state : Key → State)
    (map : AList fun _ : Key => Value) :
    applyMap change state map = applyMap other state map ↔
      ∀ entry ∈ map.entries, change entry.2 (state entry.1) = other entry.2 (state entry.1) := by
  constructor
  · intro same entry member
    have found : map.lookup entry.1 = some entry.2 := AList.mem_lookup_iff.mpr member
    have same := congrFun same entry.1
    rw [applyMap_apply, applyMap_apply, found] at same
    exact same
  · intro same
    funext key
    rw [applyMap_apply, applyMap_apply]
    cases found : map.lookup key with
    | none => rfl
    | some value => exact same ⟨key, value⟩ (AList.mem_lookup_iff.mp found)

/-- A map changes nothing when none of its entries does. -/
theorem applyMap_eq_self_iff (change : Value → State → State) (state : Key → State)
    (map : AList fun _ : Key => Value) :
    applyMap change state map = state ↔
      ∀ entry ∈ map.entries, change entry.2 (state entry.1) = state entry.1 := by
  have idle : applyMap (fun _ state => state) state map = state := by
    funext key
    rw [applyMap_apply]
    cases map.lookup key <;> rfl
  have same := applyMap_eq_iff change (fun _ state => state) state map
  rwa [idle] at same

/-- Each key goes through its own changes. -/
theorem applyMaps_apply (change : Value → State → State) (state : Key → State)
    (maps : List (AList fun _ : Key => Value)) (key : Key) :
    applyMaps change state maps key =
      (changesAt maps key).foldl (fun state value => change value state) (state key) := by
  induction maps generalizing state with
  | nil => rfl
  | cons map rest ih =>
    have later := ih (applyMap change state map)
    rw [applyMap_apply] at later
    rw [applyMaps, List.foldl_cons]
    refine later.trans ?_
    cases found : map.lookup key <;> simp [changesAt, found]

/-- A view of the states that goes along with the changes goes along with a map of them. -/
theorem map_applyMap {View : Type w'} (view : State → View) {change : Value → State → State}
    {change' : Value → View → View} (along : ∀ value state, view (change value state) = change' value (view state))
    (state : Key → State) (map : AList fun _ : Key => Value) :
    (fun key => view (applyMap change state map key)) = applyMap change' (fun key => view (state key)) map := by
  funext key
  rw [applyMap_apply, applyMap_apply]
  cases map.lookup key with
  | none => rfl
  | some value => exact along value (state key)

theorem changesAt_append (maps : List (AList fun _ : Key => Value))
    (map : AList fun _ : Key => Value) (key : Key) :
    changesAt (maps ++ [map]) key = changesAt maps key ++ (map.lookup key).toList := by
  rw [changesAt, List.filterMap_append, changesAt]
  cases found : map.lookup key <;> simp [found]

end Keyed
