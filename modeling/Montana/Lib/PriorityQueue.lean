import Mathlib.Data.List.Sort

/-! A priority queue as the sorted list of its elements. `before a b` says that
`a` leaves the queue no later than `b`; ties leave in an unspecified order. -/

universe u

/-- The queue carries the proof that its elements are listed in leaving order. -/
structure PriorityQueue (α : Type u) (before : α → α → Prop) where
  items : List α
  ordered : items.Pairwise before

namespace PriorityQueue

variable {α : Type u} {before : α → α → Prop}

def empty : PriorityQueue α before := ⟨[], .nil⟩

def isEmpty (queue : PriorityQueue α before) : Bool := queue.items.isEmpty

def peek (queue : PriorityQueue α before) : Option α := queue.items.head?

def pop (queue : PriorityQueue α before) : PriorityQueue α before :=
  ⟨queue.items.tail, queue.ordered.tail⟩

section Push

variable [DecidableRel before] [Std.Total before] [IsTrans α before]

def push (queue : PriorityQueue α before) (item : α) : PriorityQueue α before :=
  ⟨queue.items.orderedInsert before item, queue.ordered.orderedInsert item _⟩

theorem push_perm (queue : PriorityQueue α before) (item : α) :
    (queue.push item).items.Perm (item :: queue.items) :=
  List.perm_orderedInsert before item queue.items

end Push

@[simp] theorem pop_items (queue : PriorityQueue α before) :
    queue.pop.items = queue.items.tail := rfl

/-- What `peek` shows is what `pop` removes. -/
theorem items_of_peek {queue : PriorityQueue α before} {item : α}
    (shown : queue.peek = some item) : queue.items = item :: queue.pop.items := by
  obtain ⟨rest, same⟩ := List.head?_eq_some_iff.mp shown
  simp [same]

theorem peek_mem {queue : PriorityQueue α before} {item : α}
    (shown : queue.peek = some item) : item ∈ queue.items := by
  rw [items_of_peek shown]
  exact List.mem_cons_self

/-- Nothing that stays in the queue had to leave before the element shown. -/
theorem peek_before {queue : PriorityQueue α before} {item other : α}
    (shown : queue.peek = some item) (stays : other ∈ queue.pop.items) : before item other := by
  have sorted := queue.ordered
  rw [items_of_peek shown] at sorted
  exact (List.pairwise_cons.mp sorted).1 other stays

end PriorityQueue
