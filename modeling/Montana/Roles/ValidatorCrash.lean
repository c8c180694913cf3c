import Montana.Common.Reference
import Montana.Lib.Replay
import Montana.Roles.ValidatorStep

/-! Crashes inside `process_batch`: the state is persisted block by block, the
progress batch by batch. -/

namespace Montana.Roles

open Vm (Execution Executor ExecutorError PersistentExecutor executeAll executeAll_append)
open Replay (Interruption)

/-- What a crash leaves: the state database inside the executor, and the checkpoint file. -/
structure Disk (Exec Store : Type) where
  executor : Exec
  store : Store

/-- Executing each block exactly once, in order; an error persists nothing. -/
def exactlyOnce (execute : State → Block → Except ExecutorError State) (initial : State)
    (blocks : List Block) : State :=
  blocks.foldl (fun state block => (execute state block).toOption.getD state) initial

namespace Validator

variable {Block Source Exec Result Store Tx : Type}

def disk (self : Validator Block Source Exec Result Store) : Disk Exec Store :=
  ⟨self.executor, self.store⟩

variable [BlockResponse Block Tx] [BlockJson Block] [Executor Exec Block Result]
variable [CheckpointStore Store]

/-- `process_batch` cut off after this many blocks, before `Checkpoint::save`. -/
def processUntil (self : Validator Block Source Exec Result Store) (batch : CompressedBatch)
    (reached : Nat) : Validator Block Source Exec Result Store :=
  match self.decodeBatch batch with
  | .ok (some blockBatch) =>
    let self := self.emit (.batchDerived batch.batchNumber batch.blockCount)
    self.executeBlocks (blockBatch.blocks.take reached)
  | _ => self

def processAll (self : Validator Block Source Exec Result Store) (batches : List CompressedBatch) :
    Validator Block Source Exec Result Store :=
  batches.foldl (fun self batch => (self.processBatch batch).2) self

/-- One life: the batches above the checkpoint are delivered again, up to the crash if there is one. -/
def live (self : Validator Block Source Exec Result Store) (batches : List CompressedBatch) :
    Option Interruption → Validator Block Source Exec Result Store
  | none => self.processAll (batches.filter (self.checkpoint.lastBatchDerived < ·.batchNumber))
  | some crash =>
    let delivered := batches.filter (self.checkpoint.lastBatchDerived < ·.batchNumber)
    let self := self.processAll (delivered.take crash.completed)
    match delivered.drop crash.completed with
    | [] => self
    | batch :: _ => self.processUntil batch crash.reached

variable (Block) in
/-- Lives on one disk: each crash is followed by `Validator::new` on what it left. -/
def survive (source : Source) (compressor : Compressor) (path : String)
    (batches : List CompressedBatch) (disk : Disk Exec Store) :
    List Interruption → Except CheckpointError (Disk Exec Store)
  | [] => do
    let self : Validator Block Source Exec Result Store ←
      new source compressor (some path) disk.executor disk.store
    return (self.live batches none).disk
  | crash :: rest => do
    let self : Validator Block Source Exec Result Store ←
      new source compressor (some path) disk.executor disk.store
    survive source compressor path batches (self.live batches (some crash)).disk rest

end Validator

/-- Batches with contiguous numbers after `derived`, each with the blocks it contains. -/
inductive Contiguous [BlockJson Block] (compressor : Compressor) :
    Nat → List CompressedBatch → List (List Block) → Prop where
  | nil (derived : Nat) : Contiguous compressor derived [] []
  | cons {derived : Nat} {batch : CompressedBatch} {blocks : List Block} {rest groups}
      (next : batch.batchNumber = derived + 1) (readable : payload compressor batch = some blocks)
      (later : Contiguous compressor (derived + 1) rest groups) :
      Contiguous compressor derived (batch :: rest) (blocks :: groups)

namespace Contiguous

variable {Block : Type} [BlockJson Block] {compressor : Compressor} {derived : Nat}
variable {batches : List CompressedBatch} {groups : List (List Block)}

theorem take (contiguous : Contiguous compressor derived batches groups) (count : Nat) :
    Contiguous compressor derived (batches.take count) (groups.take count) := by
  induction contiguous generalizing count with
  | nil derived => simpa using .nil derived
  | cons next readable later ih =>
    cases count with
    | zero => exact .nil _
    | succ count => exact .cons next readable (ih count)

theorem drop (contiguous : Contiguous compressor derived batches groups) (count : Nat) :
    Contiguous compressor (derived + min count batches.length) (batches.drop count)
      (groups.drop count) := by
  induction contiguous generalizing count with
  | nil derived => simpa using .nil derived
  | @cons derived batch blocks rest groups next readable later ih =>
    cases count with
    | zero => simpa using .cons next readable later
    | succ count =>
      have dropped := ih count
      rw [show derived + 1 + min count rest.length =
        derived + min (count + 1) (batch :: rest).length by simp; omega] at dropped
      exact dropped

theorem above (contiguous : Contiguous compressor derived batches groups) {batch : CompressedBatch}
    (member : batch ∈ batches) : derived < batch.batchNumber := by
  induction contiguous with
  | nil derived => cases member
  | cons next readable later ih =>
    rcases List.mem_cons.mp member with same | listed
    · rw [same, next]
      exact Nat.lt_succ_self _
    · exact Nat.lt_of_succ_lt (ih listed)

/-- The batches above the checkpoint are the ones that were not recorded yet. -/
theorem redelivered (contiguous : Contiguous compressor derived batches groups) (count : Nat) :
    batches.filter (derived + min count batches.length < ·.batchNumber) = batches.drop count := by
  induction contiguous generalizing count with
  | nil derived => simp
  | @cons derived batch blocks rest groups next readable later ih =>
    cases count with
    | zero =>
      refine List.filter_eq_self.mpr fun other member => ?_
      simpa using (Contiguous.cons next readable later).above member
    | succ count =>
      have dropped := ih count
      rw [List.filter_cons_of_neg (by simp [next]), List.drop_succ_cons, ← dropped]
      refine List.filter_congr fun other _ => ?_
      simp only [List.length_cons]
      congr 2
      omega

end Contiguous

/-- The checkpoint file says that the batches up to this one are derived. -/
def OnFile [CheckpointStore Store] (path : String) (derived : Nat) (store : Store) : Prop :=
  ∃ checkpoint, Checkpoint.loadOrFresh store (some path) = .ok checkpoint ∧
    checkpoint.lastBatchDerived = derived

namespace Validator

section Lives

variable {Block Source Exec Result Store Tx : Type}
variable [BlockResponse Block Tx] [BlockJson Block] [Executor Exec Block Result]
variable [CheckpointStore Store] {compressor : Compressor} {path : String} {derived : Nat}

/-- A validator whose checkpoint is the one on its file. -/
structure InStep (compressor : Compressor) (path : String) (derived : Nat)
    (validator : Validator Block Source Exec Result Store) : Prop where
  compressor_eq : validator.compressor = compressor
  path_eq : validator.checkpointPath = some path
  derived_eq : validator.checkpoint.lastBatchDerived = derived
  saved : OnFile path derived validator.store

omit [BlockResponse Block Tx] [BlockJson Block] [Executor Exec Block Result] in
private theorem new_inStep {disk : Disk Exec Store} (source : Source) (compressor : Compressor)
    (saved : OnFile path derived disk.store) :
    ∃ self : Validator Block Source Exec Result Store,
      new source compressor (some path) disk.executor disk.store = .ok self ∧
      InStep compressor path derived self ∧ self.disk = disk := by
  obtain ⟨checkpoint, loaded, last⟩ := saved
  refine ⟨startingFrom checkpoint source compressor (some path) disk.executor disk.store, ?_,
    ⟨rfl, rfl, last, checkpoint, loaded, last⟩, rfl⟩
  simp only [new, loaded]
  rfl

variable [LawfulCheckpointStore Store]

/-- A batch that is next is executed, recorded and saved. -/
theorem InStep.processBatch {self : Validator Block Source Exec Result Store}
    (inStep : InStep compressor path derived self)
    (saves : ∀ (store : Store) checkpoint, (CheckpointStore.save store path checkpoint).1 = .ok ())
    {batch : CompressedBatch} {blocks : List Block} (next : batch.batchNumber = derived + 1)
    (readable : payload compressor batch = some blocks) :
    InStep compressor path (derived + 1) (self.processBatch batch).2 ∧
      (self.processBatch batch).2.executor = executeAll self.executor blocks := by
  obtain ⟨sameCompressor, samePath, last, _⟩ := inStep
  rcases processBatch_cases self batch with
    ⟨stale | unreadable, _⟩ | ⟨ahead, executed, events, _, contained, _, same⟩
  · omega
  · rw [sameCompressor, readable] at unreadable
    cases unreadable
  · rw [sameCompressor, readable] at contained
    rw [same]
    have after : (self.checkpointAfter batch.batchNumber).lastBatchDerived = derived + 1 := by
      simp
      omega
    refine ⟨⟨sameCompressor, samePath, after, self.checkpointAfter batch.batchNumber, ?_, after⟩, ?_⟩
    · have written : CheckpointStore.save self.store path (self.checkpointAfter batch.batchNumber) =
          (.ok (), (self.savedAfter batch.batchNumber).2) := by
        refine Prod.ext (saves _ _) ?_
        simp [savedAfter, Checkpoint.saveIfEnabled, samePath]
      simp [Checkpoint.loadOrFresh, LawfulCheckpointStore.load_save _ _ _ _ written]
    · rw [Option.some.inj contained]

theorem InStep.processAll {self : Validator Block Source Exec Result Store}
    (inStep : InStep compressor path derived self)
    (saves : ∀ (store : Store) checkpoint, (CheckpointStore.save store path checkpoint).1 = .ok ())
    {batches : List CompressedBatch} {groups : List (List Block)}
    (contiguous : Contiguous compressor derived batches groups) :
    InStep compressor path (derived + batches.length) (self.processAll batches) ∧
      (self.processAll batches).executor = executeAll self.executor groups.flatten := by
  induction contiguous generalizing self with
  | nil derived => exact ⟨inStep, rfl⟩
  | @cons derived batch blocks rest groups next readable later ih =>
    obtain ⟨after, executor⟩ := inStep.processBatch saves next readable
    obtain ⟨last, executors⟩ := ih after
    refine ⟨?_, ?_⟩
    · rw [List.length_cons, ← Nat.add_assoc, Nat.add_right_comm]
      exact last
    · rw [List.flatten_cons, executeAll_append, ← executor]
      exact executors

omit [LawfulCheckpointStore Store] in
/-- A crash inside the next batch persists the blocks executed so far and no progress. -/
theorem InStep.processUntil {self : Validator Block Source Exec Result Store}
    (inStep : InStep compressor path derived self) {batch : CompressedBatch} {blocks : List Block}
    (next : batch.batchNumber = derived + 1) (readable : payload compressor batch = some blocks)
    (reached : Nat) :
    (self.processUntil batch reached).disk =
      ⟨executeAll self.executor (blocks.take reached), self.store⟩ := by
  have decoded := (decodeBatch_some self batch ⟨blocks⟩).mpr
    ⟨by rw [inStep.derived_eq]; omega, by rw [inStep.compressor_eq]; exact readable⟩
  obtain ⟨executed, _, _, after⟩ := executeBlocks_frame
    (self.emit (.batchDerived batch.batchNumber batch.blockCount)) (blocks.take reached)
  simp only [Validator.processUntil, decoded, after]
  rfl

/-- What a life that crashes leaves on disk. -/
theorem InStep.crash {self : Validator Block Source Exec Result Store} {batches : List CompressedBatch}
    {groups : List (List Block)} {count : Nat}
    (inStep : InStep compressor path (derived + min count batches.length) self)
    (saves : ∀ (store : Store) checkpoint, (CheckpointStore.save store path checkpoint).1 = .ok ())
    (contiguous : Contiguous compressor derived batches groups) (crash : Interruption) :
    OnFile path (derived + min (count + crash.completed) batches.length)
        (self.live batches (some crash)).disk.store ∧
      (self.live batches (some crash)).disk.executor = executeAll self.executor
        (((groups.drop count).take crash.completed).flatten ++ crash.torn (groups.drop count)) := by
  have remaining := contiguous.drop count
  obtain ⟨after, executor⟩ := inStep.processAll saves (remaining.take crash.completed)
  have interrupted := remaining.drop crash.completed
  have redelivered : batches.filter (self.checkpoint.lastBatchDerived < ·.batchNumber) =
      batches.drop count := by
    rw [inStep.derived_eq]
    exact contiguous.redelivered count
  have position : derived + min count batches.length +
      ((batches.drop count).take crash.completed).length =
      derived + min (count + crash.completed) batches.length := by
    simp only [List.length_take, List.length_drop]
    omega
  rw [position] at after
  simp only [live, redelivered]
  rw [executeAll_append, ← executor]
  generalize shape : (batches.drop count).drop crash.completed = later at interrupted
  generalize split : (groups.drop count).drop crash.completed = laterGroups at interrupted
  cases interrupted with
  | nil => exact ⟨after.saved, by simp [Interruption.torn, split, executeAll, disk]⟩
  | @cons _ batch blocks _ _ next readable _ =>
    have number : batch.batchNumber =
        derived + min (count + crash.completed) batches.length + 1 := by
      rw [next, List.length_drop]
      omega
    rw [after.processUntil number readable crash.reached]
    exact ⟨after.saved, by simp [Interruption.torn, split]⟩

/-- Through all its lives the validator executes what the replay applies. -/
theorem survive_applied (source : Source) {batches : List CompressedBatch} {groups : List (List Block)}
    (saves : ∀ (store : Store) checkpoint, (CheckpointStore.save store path checkpoint).1 = .ok ())
    (contiguous : Contiguous compressor derived batches groups) (crashes : List Interruption)
    {disk : Disk Exec Store} {count : Nat}
    (saved : OnFile path (derived + min count batches.length) disk.store) :
    ∃ final : Disk Exec Store,
      survive Block source compressor path batches disk crashes = .ok final ∧
      final.executor = executeAll disk.executor (Replay.applied (groups.drop count) crashes) := by
  induction crashes generalizing disk count with
  | nil =>
    obtain ⟨self, made, inStep, same⟩ :
        ∃ self : Validator Block Source Exec Result Store, _ ∧ _ ∧ _ :=
      new_inStep source compressor saved
    refine ⟨(self.live batches none).disk, by simp only [survive, made]; rfl, ?_⟩
    have redelivered : batches.filter (self.checkpoint.lastBatchDerived < ·.batchNumber) =
        batches.drop count := by
      rw [inStep.derived_eq]
      exact contiguous.redelivered count
    simp only [live, redelivered, ← same]
    exact (inStep.processAll saves (contiguous.drop count)).2
  | cons crash rest ih =>
    obtain ⟨self, made, inStep, same⟩ :
        ∃ self : Validator Block Source Exec Result Store, _ ∧ _ ∧ _ :=
      new_inStep source compressor saved
    obtain ⟨left, executor⟩ := inStep.crash saves contiguous crash
    obtain ⟨final, survived, applied⟩ := ih left
    refine ⟨final, by simp only [survive, made]; exact survived, ?_⟩
    rw [applied, executor, ← executeAll_append, Replay.applied, List.drop_drop, ← same]
    rfl

end Lives

section ExactlyOnce

variable {Block Source Store Tx : Type} [BlockResponse Block Tx] [BlockJson Block]
variable [CheckpointStore Store] [LawfulCheckpointStore Store]

omit [BlockResponse Block Tx] [BlockJson Block] in
private theorem executeAll_persistent {State : Type} (executor : PersistentExecutor State Block)
    (blocks : List Block) : executeAll executor blocks =
      { executor with state := exactlyOnce executor.execute executor.state blocks } := by
  induction blocks generalizing executor with
  | nil => rfl
  | cons block rest ih =>
    have first : (Executor.executeBlock executor block).2 =
        { executor with state := (executor.execute executor.state block).toOption.getD executor.state } := by
      simp only [Executor.executeBlock]
      cases executor.execute executor.state block <;> rfl
    rw [← List.singleton_append, executeAll_append, show executeAll executor [block] =
      (Executor.executeBlock executor block).2 from rfl, first, ih]
    rfl

omit [BlockJson Block] in
private theorem exactlyOnce_log (log blocks : List Block) :
    exactlyOnce (fun log block => .ok (log ++ [block])) log blocks = log ++ blocks := by
  induction blocks generalizing log with
  | nil => simp [exactlyOnce]
  | cons block rest ih => simpa [exactlyOnce, Except.toOption] using ih (log ++ [block])

/-- The state after all lives is that of executing each block once, whatever execution
does, exactly if no crash comes after a block of the batch it interrupts. -/
theorem exactly_once_iff_untorn (source : Source) {compressor : Compressor} {path : String}
    {derived : Nat} {batches : List CompressedBatch} {groups : List (List Block)} {store : Store}
    (contiguous : Contiguous compressor derived batches groups) (saved : OnFile path derived store)
    (saves : ∀ (store : Store) checkpoint, (CheckpointStore.save store path checkpoint).1 = .ok ())
    (crashes : List Interruption) :
    (∀ (State : Type) (execute : State → Block → Except ExecutorError State) (initial : State),
      ∃ final : Disk (PersistentExecutor State Block) Store,
        survive Block source compressor path batches ⟨⟨initial, execute⟩, store⟩ crashes = .ok final ∧
        final.executor.state = exactlyOnce execute initial groups.flatten) ↔
      Replay.Untorn groups crashes := by
  have outcome (State : Type) (execute : State → Block → Except ExecutorError State) (initial : State) :
      ∃ final : Disk (PersistentExecutor State Block) Store,
        survive Block source compressor path batches ⟨⟨initial, execute⟩, store⟩ crashes = .ok final ∧
        final.executor.state = exactlyOnce execute initial (Replay.applied groups crashes) := by
    let disk : Disk (PersistentExecutor State Block) Store := ⟨⟨initial, execute⟩, store⟩
    have initially : OnFile path (derived + min 0 batches.length) disk.store := by simpa using saved
    obtain ⟨final, survived, executor⟩ := survive_applied source saves contiguous crashes initially
    refine ⟨final, survived, ?_⟩
    rw [executor, executeAll_persistent]
    rfl
  rw [← Replay.applied_eq_flatten_iff]
  constructor
  · intro once
    obtain ⟨final, survived, state⟩ := outcome (List Block) (fun log block => .ok (log ++ [block])) []
    obtain ⟨same, survivedOnce, stateOnce⟩ :=
      once (List Block) (fun log block => .ok (log ++ [block])) []
    rw [survived] at survivedOnce
    cases survivedOnce
    rw [state, exactlyOnce_log, exactlyOnce_log] at stateOnce
    exact stateOnce
  · intro applied State execute initial
    rw [← applied]
    exact outcome State execute initial

end ExactlyOnce

section Examples

open Reference

/-- The lives of a validator whose executor logs the blocks, on these batches. -/
def logged (groups : List (List UInt8)) (crashes : List Interruption) : Option (List UInt8) :=
  let disk : Disk (PersistentExecutor (List UInt8) UInt8) Files :=
    ⟨⟨[], fun log block => .ok (log ++ [block])⟩, ⟨[]⟩⟩
  (survive UInt8 () noop "checkpoint" (queueOf groups).batches disk crashes).toOption.map
    (·.executor.state)

/-- The crash comes between the last block of the first batch and its save: block 5 is
executed again on top of itself. -/
theorem crash_repeats_block :
    logged [[5], [6]] [⟨0, 1⟩] = some [5, 5, 6] ∧
      exactlyOnce (fun log block => .ok (log ++ [block])) [] [[5], [6]].flatten = ([5, 6] : List UInt8) := by
  decide

theorem crash_between_batches :
    logged [[5], [6]] [⟨1, 0⟩] = some [5, 6] := by
  have contiguous : Contiguous noop 0 (queueOf [[5], [6]]).batches [[(5 : UInt8)], [6]] :=
    .cons rfl rfl (.cons rfl rfl (.nil _))
  have saved : OnFile "checkpoint" 0 (Files.mk []) := ⟨.fresh, rfl, rfl⟩
  have untorn : Replay.Untorn [[(5 : UInt8)], [6]] [⟨1, 0⟩] := ⟨rfl, trivial⟩
  obtain ⟨final, survived, state⟩ :=
    (exactly_once_iff_untorn () contiguous saved (fun _ _ => rfl) [⟨1, 0⟩]).mpr untorn (List UInt8)
      (fun log block => .ok (log ++ [block])) []
  simp only [logged, survived]
  exact congrArg some state

end Examples

end Validator

end Montana.Roles
