import Mathlib.Logic.Relation
import Mathlib.Order.Lattice

/-! A record of two numbers that is written as a whole. Two writers move one number each, in
a copy of their own in which the other number stays; a third one holds both numbers. -/

universe u v

namespace Copies

open Relation (ReflTransGen)

variable {α : Type u} {β : Type v}

/-- No record is behind one that was written before it. -/
def Ascending [LE α] [LE β] (history : List (α × β)) : Prop := history.Pairwise (· ≤ ·)

/-- What the writers hold: all started from one record, and the first and the second moved
their number to what the third holds. -/
structure State (α : Type u) (β : Type v) where
  base : α × β
  first : α
  second : β
  history : List (α × β)
  firstWrote : Bool
  secondWrote : Bool

namespace State

/-- All writers hold this record, and none of them wrote. -/
def starting (base : α × β) (history : List (α × β)) : State α β where
  base := base
  first := base.1
  second := base.2
  history := history
  firstWrote := false
  secondWrote := false

/-- The first writer moves its number through these values and writes each. -/
def writeFirst (state : State α β) (values : List α) : State α β :=
  { state with
    first := values.getLastD state.first
    history := state.history ++ values.map fun value => (value, state.base.2)
    firstWrote := state.firstWrote || !values.isEmpty }

/-- The two writers with their numbers exchanged. -/
def swap (state : State α β) : State β α where
  base := state.base.swap
  first := state.second
  second := state.first
  history := state.history.map Prod.swap
  firstWrote := state.secondWrote
  secondWrote := state.firstWrote

def writeSecond (state : State α β) (values : List β) : State α β :=
  { state with
    second := values.getLastD state.second
    history := state.history ++ values.map fun value => (state.base.1, value)
    secondWrote := state.secondWrote || !values.isEmpty }

def writeBoth (state : State α β) : State α β :=
  { state with history := state.history ++ [(state.first, state.second)] }

@[simp] theorem swap_swap (state : State α β) : state.swap.swap = state := by
  simp [swap, Function.comp_def]

theorem writeSecond_swap (state : State α β) (values : List β) :
    (state.writeSecond values).swap = state.swap.writeFirst values := by
  simp [writeSecond, writeFirst, swap, Function.comp_def]

end State

/-- One writer writes; a number only moves up in the copy of its writer. -/
inductive Write [LT α] [LT β] : State α β → State α β → Prop where
  | first (state : State α β) (values : List α) (rising : (state.first :: values).Pairwise (· < ·)) :
      Write state (state.writeFirst values)
  | second (state : State α β) (values : List β) (rising : (state.second :: values).Pairwise (· < ·)) :
      Write state (state.writeSecond values)
  | both (state : State α β) : Write state state.writeBoth

variable [LinearOrder α] [LinearOrder β]

/-- Nobody wrote yet, and what was written before is not ahead of the copies unless it is
out of order already. -/
structure Fresh (state : State α β) : Prop where
  first : state.first = state.base.1
  second : state.second = state.base.2
  firstWrote : state.firstWrote = false
  secondWrote : state.secondWrote = false
  behind : Ascending state.history → ∀ record ∈ state.history, record ≤ state.base

theorem State.starting_fresh {base : α × β} {history : List (α × β)}
    (behind : Ascending history → ∀ record ∈ history, record ≤ base) : Fresh (starting base history) :=
  ⟨rfl, rfl, rfl, rfl, behind⟩

/-- What holds after any number of writes, where `clean` says that the history was in order
before the first of them. -/
structure Shared (clean : Prop) (state : State α β) : Prop where
  first_le : state.base.1 ≤ state.first
  second_le : state.base.2 ≤ state.second
  firstWrote : state.firstWrote = true → ∃ record ∈ state.history, state.base.1 < record.1
  secondWrote : state.secondWrote = true → ∃ record ∈ state.history, state.base.2 < record.2
  firstSilent : state.firstWrote = false → state.first = state.base.1
  secondSilent : state.secondWrote = false → state.second = state.base.2
  bounded : clean → ∀ record ∈ state.history, record ≤ (state.first, state.second)
  ascending : Ascending state.history ↔ clean ∧ ¬ (state.firstWrote = true ∧ state.secondWrote = true)

theorem Ascending.swap {history : List (α × β)} :
    Ascending (history.map Prod.swap) ↔ Ascending history := by
  simp [Ascending, List.pairwise_map, Prod.swap_le_swap]

theorem Fresh.shared {state : State α β} (fresh : Fresh state) :
    Shared (Ascending state.history) state where
  first_le := fresh.first.ge
  second_le := fresh.second.ge
  firstWrote wrote := nomatch fresh.firstWrote.symm.trans wrote
  secondWrote wrote := nomatch fresh.secondWrote.symm.trans wrote
  firstSilent _ := fresh.first
  secondSilent _ := fresh.second
  bounded ordered record member := by
    rw [fresh.first, fresh.second]
    exact fresh.behind ordered record member
  ascending := by
    rw [fresh.firstWrote]
    simp

theorem Shared.swap {clean : Prop} {state : State α β} (shared : Shared clean state) :
    Shared clean state.swap where
  first_le := shared.second_le
  second_le := shared.first_le
  firstWrote wrote := by
    obtain ⟨record, member, ahead⟩ := shared.secondWrote wrote
    exact ⟨record.swap, List.mem_map_of_mem member, ahead⟩
  secondWrote wrote := by
    obtain ⟨record, member, ahead⟩ := shared.firstWrote wrote
    exact ⟨record.swap, List.mem_map_of_mem member, ahead⟩
  firstSilent := shared.secondSilent
  secondSilent := shared.firstSilent
  bounded ordered record member := by
    obtain ⟨before, old, rfl⟩ := List.mem_map.mp member
    exact (shared.bounded ordered before old).symm
  ascending := by
    show Ascending (state.history.map Prod.swap) ↔
      clean ∧ ¬ (state.secondWrote = true ∧ state.firstWrote = true)
    rw [Ascending.swap, shared.ascending]
    exact and_congr_right fun _ => not_congr and_comm

theorem Ascending.append {history added : List (α × β)} :
    Ascending (history ++ added) ↔
      Ascending history ∧ Ascending added ∧ ∀ earlier ∈ history, ∀ later ∈ added, earlier ≤ later :=
  List.pairwise_append

/-- Numbers that rise end at the greatest of them. -/
theorem le_getLastD {start : α} {values : List α} (rising : (start :: values).Pairwise (· < ·)) :
    start ≤ values.getLastD start ∧ ∀ value ∈ values, value ≤ values.getLastD start := by
  induction values generalizing start with
  | nil => exact ⟨le_refl _, nofun⟩
  | cons value rest ih =>
    rw [List.pairwise_cons] at rising
    obtain ⟨first, others⟩ := ih rising.2
    rw [List.getLastD_cons]
    refine ⟨(rising.1 value List.mem_cons_self).le.trans first, fun other member => ?_⟩
    rcases List.mem_cons.mp member with same | later
    · rw [same]
      exact first
    · exact others other later

theorem Shared.writeFirst {clean : Prop} {state : State α β} (shared : Shared clean state)
    {values : List α} (rising : (state.first :: values).Pairwise (· < ·)) :
    Shared clean (state.writeFirst values) := by
  obtain ⟨reached, within⟩ := le_getLastD rising
  rw [List.pairwise_cons] at rising
  obtain ⟨ahead, rising⟩ := rising
  let added := values.map fun value => (value, state.base.2)
  have wrote (some : values ≠ []) : ∃ record ∈ added, state.base.1 < record.1 := by
    obtain ⟨value, member⟩ := List.exists_mem_of_ne_nil values some
    exact ⟨(value, state.base.2), List.mem_map_of_mem member, shared.first_le.trans_lt (ahead value member)⟩
  have ordered : Ascending added := by
    refine List.pairwise_map.mpr (rising.imp fun less => ?_)
    exact ⟨less.le, le_refl _⟩
  refine ⟨shared.first_le.trans reached, shared.second_le, fun some => ?_, fun some => ?_, fun none => ?_,
    shared.secondSilent, fun clean record member => ?_, ?_⟩
  · rcases Bool.or_eq_true_iff.mp some with before | now
    · obtain ⟨record, member, less⟩ := shared.firstWrote before
      exact ⟨record, List.mem_append_left _ member, less⟩
    · obtain ⟨record, member, less⟩ := wrote (by simpa using now)
      exact ⟨record, List.mem_append_right _ member, less⟩
  · obtain ⟨record, member, less⟩ := shared.secondWrote some
    exact ⟨record, List.mem_append_left _ member, less⟩
  · obtain ⟨before, now⟩ := Bool.or_eq_false_iff.mp none
    have nothing : values = [] := by simpa using now
    show values.getLastD state.first = state.base.1
    rw [nothing]
    exact shared.firstSilent before
  · rcases List.mem_append.mp member with old | new
    · exact (shared.bounded clean record old).trans ⟨reached, le_refl _⟩
    · obtain ⟨value, taken, rfl⟩ := List.mem_map.mp new
      exact ⟨within value taken, shared.second_le⟩
  · show Ascending (state.history ++ added) ↔
      clean ∧ ¬ ((state.firstWrote || !values.isEmpty) = true ∧ state.secondWrote = true)
    rw [Ascending.append, shared.ascending]
    constructor
    · rintro ⟨⟨clean, once⟩, _, behind⟩
      refine ⟨clean, fun ⟨first, second⟩ => ?_⟩
      rcases Bool.or_eq_true_iff.mp first with before | now
      · exact once ⟨before, second⟩
      · -- the second writer's record is ahead of what the first one writes of its number
        obtain ⟨record, member, less⟩ := shared.secondWrote second
        obtain ⟨new, taken, _⟩ := wrote (by simpa using now)
        obtain ⟨value, _, rfl⟩ := List.mem_map.mp taken
        exact absurd (behind record member _ taken).2 less.not_ge
    · rintro ⟨clean, once⟩
      refine ⟨⟨clean, fun ⟨before, second⟩ => once ⟨by rw [before]; rfl, second⟩⟩, ordered, ?_⟩
      intro record member later taken
      obtain ⟨value, new, rfl⟩ := List.mem_map.mp taken
      have some : (state.firstWrote || !values.isEmpty) = true := by
        cases values with
        | nil => cases new
        | cons => simp
      have silent : state.secondWrote = false := Bool.eq_false_iff.mpr fun second => once ⟨some, second⟩
      have bound := shared.bounded clean record member
      rw [shared.secondSilent silent] at bound
      exact ⟨bound.1.trans (ahead value new).le, bound.2⟩

theorem Shared.writeSecond {clean : Prop} {state : State α β} (shared : Shared clean state)
    {values : List β} (rising : (state.second :: values).Pairwise (· < ·)) :
    Shared clean (state.writeSecond values) := by
  have swapped : Shared clean (state.writeSecond values).swap := by
    rw [State.writeSecond_swap]
    exact shared.swap.writeFirst rising
  simpa using swapped.swap

theorem Shared.writeBoth {clean : Prop} {state : State α β} (shared : Shared clean state) :
    Shared clean state.writeBoth := by
  refine ⟨shared.first_le, shared.second_le, fun some => ?_, fun some => ?_, shared.firstSilent,
    shared.secondSilent, fun clean record member => ?_, ?_⟩
  · obtain ⟨record, member, less⟩ := shared.firstWrote some
    exact ⟨record, List.mem_append_left _ member, less⟩
  · obtain ⟨record, member, less⟩ := shared.secondWrote some
    exact ⟨record, List.mem_append_left _ member, less⟩
  · rcases List.mem_append.mp member with old | new
    · exact shared.bounded clean record old
    · rw [List.mem_singleton.mp new]
      rfl
  · show Ascending (state.history ++ [(state.first, state.second)]) ↔ _
    rw [Ascending.append]
    refine ⟨fun ordered => shared.ascending.mp ordered.1, fun both => ?_⟩
    refine ⟨shared.ascending.mpr both, List.pairwise_singleton _ _, fun record member later last => ?_⟩
    rw [List.mem_singleton.mp last]
    exact shared.bounded both.1 record member

/-- Whatever the order of the writes, no record falls behind an earlier one exactly when not
both of the writers that hold one number wrote. -/
theorem ascending_iff {start finish : State α β} (fresh : Fresh start)
    (writes : ReflTransGen Write start finish) :
    Ascending finish.history ↔
      Ascending start.history ∧ ¬ (finish.firstWrote = true ∧ finish.secondWrote = true) := by
  have shared : Shared (Ascending start.history) finish := by
    induction writes with
    | refl => exact fresh.shared
    | tail _ write ih =>
      cases write with
      | first values rising => exact ih.writeFirst rising
      | second values rising => exact ih.writeSecond rising
      | both => exact ih.writeBoth
  exact shared.ascending

end Copies
