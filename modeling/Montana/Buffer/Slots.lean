import Mathlib.Algebra.Ring.Int.Defs
import Montana.Buffer.ExecutedBlocks
import Montana.Common.Reference

/-! Every slot of the buffer is free, or on its way to a block, or taken by one, or on its
way back; no call loses or doubles one. -/

namespace Montana.Buffer

open Threads (Pool Turn run total movesOf)

namespace Call

/-- Permits of a call whose block is not enqueued yet. -/
def acquired : Call Block → Nat
  | .write _ | .pushBack _ | .tryWrite _ | .tryPushBack _ | .dropPermit => 1
  | _ => 0

/-- Blocks that a call has drained without releasing their slots. -/
def unreleased : Call Block → Nat
  | .unlockDrained blocks | .addPermits blocks => blocks.length
  | _ => 0

/-- By how much the moves of a call have changed the number of permits. -/
def credit : Call Block → Int
  | .write _ | .pushBack _ | .unlock | .forget | .pushed => -1
  | .tryWrite _ | .tryPushBack _ | .tryForget | .tryUnlock | .tryPushed | .dropPermit => -1
  | .returned blocks => blocks.length
  | _ => 0

/-- A `try_push` that has enqueued nothing and will not. -/
def Unsuccessful : Call Block → Prop
  | .tryAcquire _ | .tryWrite _ | .dropPermit | .refused _ => True
  | _ => False

variable {Tx : Type} [BlockResponse Block Tx] (encode : Tx → Bytes)

/-- One move of a call shifts slots between the semaphore, the call and the queue. -/
theorem next_balance (move : Move) (id : Nat) (self : ExecutedBlockBuffer) (call : Call Block) :
    ((calls encode).next move id self call).2.slots +
          ((calls encode).next move id self call).2.pending.length +
        (((calls encode).next move id self call).1.acquired +
          ((calls encode).next move id self call).1.unreleased) =
      self.slots + self.pending.length + (call.acquired + call.unreleased) := by
  cases move with
  | advance =>
    cases call with
    | pushBack block | tryPushBack block =>
      -- the slot goes from the call to its block
      simp only [calls, advance, acquired, unreleased, ExecutedBlockBuffer.pushBack_slots,
        ExecutedBlockBuffer.pushBack_pending, List.length_append, List.length_singleton]
      omega
    | _ => grind [calls, advance, acquired, unreleased]
  | cancel =>
    cases call
    all_goals grind [calls, cancel, acquired, unreleased]

private theorem next_order (move : Move) (id : Nat) (self : ExecutedBlockBuffer) (call : Call Block)
    (order : self.drained ++ self.pending = self.enqueued) :
    ((calls encode).next move id self call).2.drained ++ ((calls encode).next move id self call).2.pending =
      ((calls encode).next move id self call).2.enqueued := by
  cases move with
  | advance =>
    cases call
    all_goals grind [calls, advance]
  | cancel =>
    cases call
    all_goals grind [calls, cancel]

private theorem next_credit (move : Move) (id : Nat) (self : ExecutedBlockBuffer) (call : Call Block) :
    (((calls encode).next move id self call).2.slots : Int) - self.slots =
      ((calls encode).next move id self call).1.credit - call.credit := by
  cases move with
  | advance =>
    cases call
    all_goals grind [calls, advance, credit]
  | cancel =>
    cases call
    all_goals grind [calls, cancel, credit]

private theorem next_unsuccessful (move : Move) (id : Nat) (self : ExecutedBlockBuffer) (call : Call Block)
    (unsuccessful : ((calls encode).next move id self call).1.Unsuccessful) :
    call.Unsuccessful ∧ ((calls encode).next move id self call).2.pending = self.pending := by
  cases move with
  | advance =>
    cases call
    all_goals grind [calls, advance, Unsuccessful]
  | cancel =>
    cases call
    all_goals grind [calls, cancel, Unsuccessful]

/-- A call and its moves so far: what they took and gave back, and that an unsuccessful
`try_push` has not touched the queue. -/
structure Accounted (call : Call Block) (moves : List (ExecutedBlockBuffer × ExecutedBlockBuffer)) : Prop where
  slots : (moves.map fun move => (move.2.slots : Int) - move.1.slots).sum = call.credit
  queue : call.Unsuccessful → ∀ move ∈ moves, move.2.pending = move.1.pending

private theorem accounted_start (request : Request Block) : (request.start).Accounted [] where
  slots := by cases request <;> rfl
  queue _ move member := by cases member

private theorem accounted_next (move : Move) (id : Nat) (self : ExecutedBlockBuffer) (call : Call Block)
    (moves : List (ExecutedBlockBuffer × ExecutedBlockBuffer)) (sofar : call.Accounted moves) :
    ((calls encode).next move id self call).1.Accounted
      (moves ++ [(self, ((calls encode).next move id self call).2)]) where
  slots := by
    have moved := next_credit encode move id self call
    rw [List.map_append, List.sum_append, sofar.slots]
    simp only [List.map_cons, List.map_nil, List.sum_cons, List.sum_nil]
    omega
  queue := by
    intro unsuccessful other member
    obtain ⟨before, kept⟩ := next_unsuccessful encode move id self call unsuccessful
    rcases List.mem_append.mp member with earlier | last
    · exact sofar.queue before other earlier
    · rw [List.mem_singleton.mp last]
      exact kept

end Call

namespace ExecutedBlockBuffer

variable {Tx : Type} [BlockResponse Block Tx] (encode : Tx → Bytes)

/-- In every run of any number of calls all slots are accounted for, the queue fits, the
drained blocks and the queue are the enqueued ones in order, and a `try_push` that
failed has neither changed the queue nor kept a permit. -/
theorem slots_and_blocks_conserved (capacity : Nat) (start : ExecutedBlockBuffer)
    (created : new capacity = some start) (turns : List (Turn (Request Block) Move)) :
    (run (calls encode) ⟨start, []⟩ turns).shared.slots +
          total Call.acquired (run (calls encode) ⟨start, []⟩ turns).threads +
        (run (calls encode) ⟨start, []⟩ turns).shared.pending.length +
        total Call.unreleased (run (calls encode) ⟨start, []⟩ turns).threads = capacity ∧
      (run (calls encode) ⟨start, []⟩ turns).shared.pending.length ≤ capacity ∧
      (run (calls encode) ⟨start, []⟩ turns).shared.drained ++
          (run (calls encode) ⟨start, []⟩ turns).shared.pending =
        (run (calls encode) ⟨start, []⟩ turns).shared.enqueued ∧
      ∀ id error, (run (calls encode) ⟨start, []⟩ turns).threads[id]? = some (.refused error) →
        (∀ move ∈ movesOf (calls encode) id ⟨start, []⟩ turns, move.2.pending = move.1.pending) ∧
        ((movesOf (calls encode) id ⟨start, []⟩ turns).map fun move =>
          (move.2.slots : Int) - move.1.slots).sum = 0 := by
  have fresh : start.slots = capacity ∧ start.pending = [] ∧ start.drained = [] ∧ start.enqueued = [] := by
    rw [new] at created
    split at created
    · cases created
      exact ⟨rfl, rfl, rfl, rfl⟩
    · cases created
  obtain ⟨allFree, noneQueued, noneDrained, noneEnqueued⟩ := fresh
  have balance := Threads.conserved (calls encode)
    (fun self : ExecutedBlockBuffer => self.slots + self.pending.length)
    (fun call : Call Block => call.acquired + call.unreleased)
    (fun request => by cases request <;> rfl) (Call.next_balance encode) turns ⟨start, []⟩
  rw [Threads.total_add] at balance
  simp only [allFree, noneQueued, List.length_nil, total, List.map_nil, List.sum_nil] at balance
  have order := Threads.shared_invariant (calls encode)
    (fun self : ExecutedBlockBuffer => self.drained ++ self.pending = self.enqueued)
    (Call.next_order encode) turns ⟨start, []⟩ (by simp [noneQueued, noneDrained, noneEnqueued])
  refine ⟨?_, ?_, order, ?_⟩
  · simp only [total]
    omega
  · omega
  · intro id error refused
    have accounted := (Threads.thread_invariant (calls encode) Call.Accounted
      Call.accounted_start (Call.accounted_next encode) start turns id).2 _ refused
    exact ⟨accounted.queue trivial, accounted.slots⟩

section Examples

open Reference

/-- With one slot, a second block is refused until the first one was drained. -/
theorem slots_and_blocks_conserved_two :
    let pool := run (calls (fun _ : Unit => [])) ⟨⟨[], none, 0, 1, 1, [], []⟩, []⟩
      [.start (.push (7 : UInt8)), .act 0 .advance, .act 0 .advance, .act 0 .advance,
       .start (.tryPush 8), .act 1 .advance]
    pool.threads[1]? = some (.refused (.full 1)) ∧ pool.shared.pending.length ≤ 1 :=
  ⟨rfl, (slots_and_blocks_conserved (fun _ : Unit => []) 1 ⟨[], none, 0, 1, 1, [], []⟩ rfl
    [.start (.push (7 : UInt8)), .act 0 .advance, .act 0 .advance, .act 0 .advance,
     .start (.tryPush 8), .act 1 .advance]).2.1⟩

end Examples

end ExecutedBlockBuffer

end Montana.Buffer
