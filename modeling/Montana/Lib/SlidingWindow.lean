import Mathlib.Data.List.DropRight
import Mathlib.Order.Basic

/-! Buffers that keep the last entries of what was pushed, changes in place to the entry
with a key, and the running records of a list of numbers. -/

universe u v

namespace SlidingWindow

variable {Item : Type u}

/-- As many entries as the limit allows, from the end; all of them without a limit. -/
def last : Option Nat → List Item → List Item
  | none, items => items
  | some limit, items => items.rtake limit

/-- Append an entry, then remove the first one where there are too many. -/
def push (limit : Option Nat) (buffer : List Item) (item : Item) : List Item :=
  let longer := buffer ++ [item]
  match limit with
  | none => longer
  | some limit => if longer.length > limit then longer.tail else longer

@[simp] theorem last_none (items : List Item) : last none items = items := rfl

@[simp] theorem last_nil (limit : Option Nat) : last limit ([] : List Item) = [] := by
  cases limit with
  | none => rfl
  | some limit => exact List.rtake_nil limit

@[simp] theorem push_none (buffer : List Item) (item : Item) : push none buffer item = buffer ++ [item] := rfl

/-- A buffer that is pushed to holds the last entries of its history. -/
theorem push_last (limit : Option Nat) (items : List Item) (item : Item) :
    push limit (last limit items) item = last limit (items ++ [item]) := by
  cases limit with
  | none => rfl
  | some limit =>
    have longer : items.drop (items.length - limit) ++ [item] =
        (items ++ [item]).drop (items.length - limit) :=
      (List.drop_append_of_le_length (Nat.sub_le _ _)).symm
    simp only [push, last, List.rtake, longer, List.tail_drop, List.length_drop, List.length_append,
      List.length_singleton]
    by_cases full : limit ≤ items.length
    · rw [if_pos (by omega), Nat.sub_add_comm full]
    · rw [if_neg (by omega)]
      congr 1
      omega

theorem last_map {Image : Type v} (limit : Option Nat) (image : Item → Image) (items : List Item) :
    last limit (items.map image) = (last limit items).map image := by
  cases limit with
  | none => rfl
  | some limit => simp [last, List.rtake]

theorem last_suffix (limit : Option Nat) (items : List Item) : last limit items <:+ items := by
  cases limit with
  | none => exact List.suffix_rfl
  | some limit => exact List.drop_suffix _ _

/-- Change the first entry that is found. -/
def modifyFirst (found : Item → Bool) (change : Item → Item) : List Item → List Item
  | [] => []
  | item :: rest => if found item then change item :: rest else item :: modifyFirst found change rest

/-- Where no two entries have one key, the first entry with it is every entry with it. -/
theorem modifyFirst_eq_map {key : Item → Nat} {items : List Item}
    (distinct : (items.map key).Pairwise (· < ·)) (sought : Nat) (change : Item → Item) :
    modifyFirst (fun item => key item == sought) change items =
      items.map fun item => if key item = sought then change item else item := by
  induction items with
  | nil => rfl
  | cons item rest ih =>
    obtain ⟨below, distinct⟩ := List.pairwise_cons.mp distinct
    by_cases found : key item = sought
    · have others : rest.map (fun item => if key item = sought then change item else item) = rest := by
        refine (List.map_congr_left ?_).trans (List.map_id rest)
        intro other member
        have above := below (key other) (List.mem_map_of_mem member)
        exact if_neg (by omega)
      simp [modifyFirst, found, others]
    · simp [modifyFirst, found, ih distinct]

/-- The change of an entry in the whole history is seen through the window. -/
theorem modifyFirst_last {key : Item → Nat} {items : List Item}
    (distinct : (items.map key).Pairwise (· < ·)) (limit : Option Nat) (sought : Nat)
    (change : Item → Item) :
    modifyFirst (fun item => key item == sought) change (last limit items) =
      last limit (modifyFirst (fun item => key item == sought) change items) := by
  have window : ((last limit items).map key).Pairwise (· < ·) :=
    distinct.sublist ((last_suffix limit items).sublist.map key)
  rw [modifyFirst_eq_map window, modifyFirst_eq_map distinct, last_map]

/-- The numbers that are greater than all before them and than the floor. -/
def records (floor : Nat) : List Nat → List Nat
  | [] => []
  | number :: rest => if number > floor then number :: records number rest else records floor rest

/-- The greatest of the numbers and the floor. -/
def summit (floor : Nat) (numbers : List Nat) : Nat := numbers.foldl max floor

theorem summit_append (floor : Nat) (numbers : List Nat) (number : Nat) :
    summit floor (numbers ++ [number]) = max (summit floor numbers) number := by
  rw [summit, List.foldl_append]
  rfl

theorem le_summit (floor : Nat) (numbers : List Nat) : ∀ number ∈ numbers, number ≤ summit floor numbers := by
  induction numbers using List.reverseRecOn with
  | nil => nofun
  | append_singleton numbers last ih =>
    intro number member
    rw [summit_append]
    rcases List.mem_append.mp member with earlier | here
    · exact le_trans (ih number earlier) (le_max_left _ _)
    · exact List.mem_singleton.mp here ▸ le_max_right _ _

theorem records_append (floor : Nat) (numbers : List Nat) (number : Nat) :
    records floor (numbers ++ [number]) =
      if number > summit floor numbers then records floor numbers ++ [number]
      else records floor numbers := by
  induction numbers generalizing floor with
  | nil => rfl
  | cons first rest ih =>
    by_cases higher : first > floor
    · have same : summit floor (first :: rest) = summit first rest :=
        congrArg (rest.foldl max) (max_eq_right_of_lt higher)
      rw [List.cons_append, records, records, if_pos higher, if_pos higher, ih, same]
      split <;> rfl
    · have same : summit floor (first :: rest) = summit floor rest :=
        congrArg (rest.foldl max) (max_eq_left (Nat.le_of_not_lt higher))
      rw [List.cons_append, records, records, if_neg higher, if_neg higher, ih, same]

theorem records_sublist (floor : Nat) (numbers : List Nat) : (records floor numbers).Sublist numbers := by
  induction numbers generalizing floor with
  | nil => exact .slnil
  | cons number rest ih =>
    unfold records
    split
    · exact (ih number).cons_cons number
    · exact (ih floor).cons number

theorem records_le_summit (floor : Nat) (numbers : List Nat) :
    ∀ number ∈ records floor numbers, number ≤ summit floor numbers :=
  fun number member => le_summit floor numbers number ((records_sublist floor numbers).subset member)

theorem records_ascending (floor : Nat) (numbers : List Nat) :
    (records floor numbers).Pairwise (· < ·) := by
  induction numbers using List.reverseRecOn with
  | nil => exact .nil
  | append_singleton numbers last ih =>
    rw [records_append]
    split
    · rename_i higher
      apply List.pairwise_append.mpr
      refine ⟨ih, List.pairwise_singleton _ _, ?_⟩
      intro earlier member number here
      rw [List.mem_singleton.mp here]
      exact Nat.lt_of_le_of_lt (records_le_summit floor numbers earlier member) higher
    · exact ih

end SlidingWindow
