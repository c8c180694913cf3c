import Montana.Node.Reference
import Montana.Node.SharedCheckpoint

/-! Which saves of a dual node put back a batch number that was saved before. -/

namespace Montana.Lifecycle

open Relation (ReflTransGen)
open Roles Vm

variable {Producer Fetched Block Sink Source Exec Result Store Tx : Type}

/-- A dual node, and who made each save of its history. -/
structure SharedNode (Producer Block Sink Source Exec Result Store : Type) where
  node : DualNode Producer Block Sink Source Exec Result Store
  writers : List Writer

/-- At most one of the roles saves, and the sync stage does not complete behind a save of its
own while there are batch numbers. -/
structure OneWriter (loaded : Checkpoint) (writers : List Writer) : Prop where
  roles : ¬ (.sequencer ∈ writers ∧ .validator ∈ writers)
  synced : .sync ∈ writers → .synced ∈ writers → batchNumbers loaded = (0, 0)

namespace SharedNode

section Turns

variable [BlockProducer Producer Fetched] [BlockResponse Block Tx] [BlockJson Block]
variable [BatchSink Sink] [L1BatchSource Source] [Executor Exec Block Result] [CheckpointStore Store]

def turn (self : SharedNode Producer Block Sink Source Exec Result Store)
    (next : Turn (SequencerMeanwhile Block) ValidatorMeanwhile) :
    SharedNode Producer Block Sink Source Exec Result Store :=
  let node := self.node.turn next
  let saves := node.store.history.length - self.node.store.history.length
  { node, writers := self.writers ++ List.replicate saves (self.node.writer next) }

def run (self : SharedNode Producer Block Sink Source Exec Result Store)
    (turns : List (Turn (SequencerMeanwhile Block) ValidatorMeanwhile)) :
    SharedNode Producer Block Sink Source Exec Result Store :=
  turns.foldl turn self

/-- How many saves a turn made is seen in the numbers as well. -/
theorem turn_writers (self : SharedNode Producer Block Sink Source Exec Result Store)
    (next : Turn (SequencerMeanwhile Block) ValidatorMeanwhile) {added : List (Nat × Nat)}
    (grows : RecordedStore.Grows added self.node.store (self.node.turn next).store) :
    (self.turn next).writers = self.writers ++ List.replicate added.length (self.node.writer next) := by
  have lengths := congrArg List.length grows.numbers
  simp only [RecordedStore.numbers, List.length_append, List.length_map] at lengths
  have saves : (self.node.turn next).store.history.length - self.node.store.history.length = added.length := by
    omega
  exact congrArg (fun count => self.writers ++ List.replicate count (self.node.writer next)) saves

end Turns

/-- Up to the end of the sync stage the node alone saves, and always what it loaded. -/
structure Opening (loaded : Checkpoint) (dual : SharedNode Producer Block Sink Source Exec Result Store) :
    Prop where
  phase : dual.node.phase = .launched ∨ dual.node.phase = .syncing
  sharing : Sharing dual.node.store.path dual.node
  numbers : batchNumbers dual.node.checkpoint = batchNumbers loaded
  saved : ∃ saves, dual.node.store.numbers = List.replicate saves (batchNumbers loaded) ∧
    dual.writers = List.replicate saves .sync
  legible : dual.node.store.Legible

/-- Behind it, the saves are those of three writers that started from one checkpoint. -/
structure Running (loaded : Checkpoint) (dual : SharedNode Producer Block Sink Source Exec Result Store)
    (start finish : Copies.State Nat Nat) : Prop where
  phase : dual.node.Behind
  fresh : Copies.Fresh start
  ordered : Copies.Ascending start.history ↔
    (.sync ∈ dual.writers → .synced ∈ dual.writers → batchNumbers loaded = (0, 0))
  writes : ReflTransGen Copies.Write start finish
  numbers : dual.node.store.numbers = finish.history
  sequencer : finish.firstWrote = true ↔ .sequencer ∈ dual.writers
  validator : finish.secondWrote = true ↔ .validator ∈ dual.writers
  legible : dual.node.store.Legible
  holds : dual.node.phase = .active → Holds finish dual.node

def Invariant (loaded : Checkpoint) (dual : SharedNode Producer Block Sink Source Exec Result Store) : Prop :=
  dual.Opening loaded ∨ ∃ start finish, dual.Running loaded start finish

theorem Invariant.noLostUpdate_iff {loaded : Checkpoint}
    {dual : SharedNode Producer Block Sink Source Exec Result Store} (invariant : dual.Invariant loaded) :
    NoLostUpdate dual.node.store.history ↔ OneWriter loaded dual.writers := by
  rcases invariant with opening | ⟨start, finish, running⟩
  · obtain ⟨saves, numbers, writers⟩ := opening.saved
    rw [RecordedStore.noLostUpdate_iff opening.legible, numbers, writers]
    refine ⟨fun _ => ⟨fun both => ?_, fun _ synced => ?_⟩, fun _ => ?_⟩
    · cases List.eq_of_mem_replicate both.1
    · cases List.eq_of_mem_replicate synced
    · exact List.pairwise_replicate.mpr (.inr (le_refl _))
  · rw [RecordedStore.noLostUpdate_iff running.legible, running.numbers,
      Copies.ascending_iff running.fresh running.writes, running.ordered, running.sequencer,
      running.validator]
    exact ⟨fun ⟨synced, roles⟩ => ⟨roles, synced⟩, fun one => ⟨one.synced, one.roles⟩⟩

/-- A state behind the sync stage in which no role saved yet. -/
theorem Invariant.of_start {loaded : Checkpoint} {base : Nat × Nat}
    {dual : SharedNode Producer Block Sink Source Exec Result Store}
    (phase : dual.node.Behind)
    (behind : Copies.Ascending dual.node.store.numbers → ∀ record ∈ dual.node.store.numbers, record ≤ base)
    (ordered : Copies.Ascending dual.node.store.numbers ↔
      (.sync ∈ dual.writers → .synced ∈ dual.writers → batchNumbers loaded = (0, 0)))
    (opening : ∀ writer ∈ dual.writers, writer = .sync ∨ writer = .synced)
    (legible : dual.node.store.Legible)
    (holds : dual.node.phase = .active → Holds (.starting base dual.node.store.numbers) dual.node) :
    dual.Invariant loaded := by
  refine .inr ⟨.starting base dual.node.store.numbers, _, phase, Copies.State.starting_fresh behind, ordered,
    .refl, rfl, ⟨nofun, fun member => ?_⟩, ⟨nofun, fun member => ?_⟩, legible, holds⟩
  · cases opening _ member <;> contradiction
  · cases opening _ member <;> contradiction

/-- Such a state without a completed sync stage: all saves are of what was loaded. -/
theorem Invariant.of_loaded {loaded : Checkpoint}
    {dual : SharedNode Producer Block Sink Source Exec Result Store}
    (phase : dual.node.Behind) {saves : Nat}
    (saved : dual.node.store.numbers = List.replicate saves (batchNumbers loaded))
    (writers : dual.writers = List.replicate saves .sync) (legible : dual.node.store.Legible)
    (holds : dual.node.phase = .active →
      Holds (.starting (batchNumbers loaded) dual.node.store.numbers) dual.node) :
    dual.Invariant loaded := by
  refine .of_start phase (fun _ record member => ?_) ⟨fun _ _ synced => ?_, fun _ => ?_⟩
    (fun writer member => ?_) legible holds
  · rw [saved] at member
    rw [List.eq_of_mem_replicate member]
  · rw [writers] at synced
    cases List.eq_of_mem_replicate synced
  · rw [saved]
    exact List.pairwise_replicate.mpr (.inr (le_refl _))
  · rw [writers] at member
    exact .inl (List.eq_of_mem_replicate member)

/-- Such a state with a completed sync stage: its last save has no batch numbers. -/
theorem Invariant.of_synced {loaded : Checkpoint}
    {dual : SharedNode Producer Block Sink Source Exec Result Store}
    (phase : dual.node.Behind) {saves : Nat}
    (saved : dual.node.store.numbers = List.replicate saves (batchNumbers loaded) ++ [(0, 0)])
    (writers : dual.writers = List.replicate saves .sync ++ [.synced]) (legible : dual.node.store.Legible)
    (holds : Holds (.starting (0, 0) dual.node.store.numbers) dual.node) : dual.Invariant loaded := by
  have last : Copies.Ascending dual.node.store.numbers → ∀ record ∈ dual.node.store.numbers, record ≤ (0, 0) := by
    intro ordered record member
    rw [saved] at ordered member
    rcases List.mem_append.mp member with before | same
    · exact (Copies.Ascending.append.mp ordered).2.2 record before _ List.mem_cons_self
    · rw [List.mem_singleton.mp same]
  refine .of_start phase last ⟨fun ordered sync _ => ?_, fun one => ?_⟩ (fun writer member => ?_) legible
    fun _ => holds
  · -- a save in the loop is one of the loaded numbers, which cannot be above the last ones
    rw [writers, List.mem_append] at sync
    have some : batchNumbers loaded ∈ dual.node.store.numbers := by
      rw [saved]
      rcases sync with before | same
      · exact List.mem_append_left _ (List.mem_replicate.mpr ⟨(List.mem_replicate.mp before).1, rfl⟩)
      · cases List.mem_singleton.mp same
    have bound := last ordered _ some
    exact Prod.ext (Nat.le_zero.mp bound.1) (Nat.le_zero.mp bound.2)
  · rw [saved]
    refine Copies.Ascending.append.mpr ⟨List.pairwise_replicate.mpr (.inr (le_refl _)),
      List.pairwise_singleton _ _, fun earlier before later same => ?_⟩
    rw [List.mem_singleton.mp same, List.eq_of_mem_replicate before]
    have sync : Writer.sync ∈ dual.writers := by
      rw [writers]
      exact List.mem_append_left _ (List.mem_replicate.mpr ⟨(List.mem_replicate.mp before).1, rfl⟩)
    have synced : Writer.synced ∈ dual.writers := by
      rw [writers]
      exact List.mem_append_right _ List.mem_cons_self
    exact (one sync synced).le
  · rw [writers] at member
    rcases List.mem_append.mp member with before | same
    · exact .inl (List.eq_of_mem_replicate before)
    · exact .inr (List.mem_singleton.mp same)

/-- One more turn behind the sync stage, seen as writes to the record. -/
theorem Running.extend {loaded : Checkpoint}
    {dual next : SharedNode Producer Block Sink Source Exec Result Store}
    {start before after : Copies.State Nat Nat} (running : dual.Running loaded start before)
    (behind : next.node.Behind) (writes : ReflTransGen Copies.Write before after)
    {added : List (Nat × Nat)} (grows : RecordedStore.Grows added dual.node.store next.node.store)
    {writer : Writer} (named : next.writers = dual.writers ++ List.replicate added.length writer)
    (synced : added ≠ [] → writer ≠ .sync ∧ writer ≠ .synced)
    (history : after.history = before.history ++ added)
    (first : after.firstWrote = true ↔ before.firstWrote = true ∨ added ≠ [] ∧ writer = .sequencer)
    (second : after.secondWrote = true ↔ before.secondWrote = true ∨ added ≠ [] ∧ writer = .validator)
    (held : next.node.phase = .active → Holds after next.node) : next.Running loaded start after := by
  have members (other : Writer) :
      other ∈ next.writers ↔ other ∈ dual.writers ∨ added ≠ [] ∧ writer = other := by
    rw [named, List.mem_append, List.mem_replicate, ne_eq, List.length_eq_zero_iff, @eq_comm _ other]
  have opening (other : Writer) (synchronising : other = .sync ∨ other = .synced) :
      other ∈ next.writers ↔ other ∈ dual.writers := by
    refine (members other).trans ⟨fun member => ?_, .inl⟩
    rcases member with before | ⟨some, rfl⟩
    · exact before
    · obtain ⟨not, neither⟩ := synced some
      exact synchronising.elim (absurd · not) (absurd · neither)
  refine ⟨behind, running.fresh, ?_, running.writes.trans writes, ?_, ?_, ?_, grows.legible running.legible,
    held⟩
  · rw [opening _ (.inl rfl), opening _ (.inr rfl)]
    exact running.ordered
  · rw [history, ← running.numbers]
    exact grows.numbers
  · rw [first, running.sequencer, members]
  · rw [second, running.validator, members]

section Steps

variable [BlockResponse Block Tx] [BlockJson Block] [BatchSink Sink] [L1BatchSource Source]
variable [Executor Exec Block Result] [CheckpointStore Store] [BlockProducer Producer Fetched]
variable [LawfulCheckpointStore Store]

theorem Opening.sync {loaded : Checkpoint} {dual : SharedNode Producer Block Sink Source Exec Result Store}
    (opening : dual.Opening loaded) (round : Round (SequencerMeanwhile Block) ValidatorMeanwhile) :
    (dual.turn (.sync round)).Invariant loaded := by
  obtain ⟨phase, sharing, numbers, ⟨saves, saved, writers⟩, legible⟩ := opening
  have turned := sync_turn sharing.own phase round
  rw [← Node.turn_sync phase round] at turned
  have counted {added : List (Nat × Nat)}
      (grows : RecordedStore.Grows added dual.node.store (dual.node.turn (.sync round)).store) :
      (dual.turn (.sync round)).writers = List.replicate saves .sync ++
        List.replicate added.length (if dual.node.syncCompletes round then .synced else .sync) := by
    rw [turn_writers dual _ grows, writers]
    rfl
  cases turned with
  | opening syncing kept not more grows =>
    have named := counted grows
    rw [if_neg not, List.length_replicate, List.replicate_append_replicate] at named
    refine .inl ⟨.inr syncing, sharing.kept kept, kept.numbers.trans numbers, ⟨saves + more, ?_, named⟩,
      grows.legible legible⟩
    rw [← List.replicate_append_replicate, ← saved, ← numbers]
    exact grows.numbers
  | ended returned more grows unsaved =>
    obtain ⟨result, returned⟩ := returned
    have named := counted grows
    have same : (dual.turn (.sync round)).writers = List.replicate (saves + more) .sync := by
      rw [named, List.length_replicate, ← List.replicate_append_replicate]
      split
      · rename_i completes
        rw [unsaved completes]
        rfl
      · rfl
    refine .of_loaded (.inr (.inr ⟨result, returned⟩)) ?_ same (grows.legible legible) ?_
    · rw [← List.replicate_append_replicate, ← saved, ← numbers]
      exact grows.numbers
    · intro active
      exact nomatch returned.symm.trans active
  | active middle kept grows resumed =>
    rw [← resumed.store] at grows
    have named := counted grows
    rw [List.length_nil, List.replicate_zero, List.append_nil] at named
    refine .of_loaded (.inl resumed.phase) ?_ named (grows.legible legible) fun _ => ?_
    · rw [← saved]
      exact grows.numbers.trans (List.append_nil _)
    · rw [← numbers]
      exact resumed.holds sharing kept _
  | completed holds stage middle kept grows resumed =>
    rw [← resumed.store] at grows
    have named := counted grows
    rw [if_pos holds] at named
    have assigned : Sharing (dual.node.assign stage.checkpoint).store.path (dual.node.assign stage.checkpoint) :=
      ⟨sharing.own, sharing.sequencer, sharing.validator⟩
    refine .of_synced (.inl resumed.phase) ?_ named (grows.legible legible) (resumed.holds assigned kept _)
    rw [← saved]
    exact grows.numbers

omit [LawfulCheckpointStore Store] in
/-- A turn that changes nothing. -/
theorem turn_idle {dual : SharedNode Producer Block Sink Source Exec Result Store}
    {next : Turn (SequencerMeanwhile Block) ValidatorMeanwhile} (same : dual.node.turn next = dual.node) :
    dual.turn next = dual := by
  have grows : RecordedStore.Grows [] dual.node.store (dual.node.turn next).store :=
    .of_same (congrArg (·.store.history) same)
  have writers := turn_writers dual next grows
  rw [List.length_nil, List.replicate_zero, List.append_nil] at writers
  cases dual with
  | mk node named => exact congrArg₂ SharedNode.mk same writers

theorem Running.turn {loaded : Checkpoint} {dual : SharedNode Producer Block Sink Source Exec Result Store}
    {start finish : Copies.State Nat Nat} (running : dual.Running loaded start finish)
    (next : Turn (SequencerMeanwhile Block) ValidatorMeanwhile) : (dual.turn next).Invariant loaded := by
  rcases running.phase with active | idle
  · have behind := Node.activeTurn_behind active next
    have turned := active_turn (running.holds active) next
    rw [← Node.turn_active active] at behind turned
    have named {added : List (Nat × Nat)}
        (grows : RecordedStore.Grows added dual.node.store (dual.node.turn next).store) :=
      turn_writers dual next grows
    generalize dual.node.writer next = writer at turned named
    cases turned with
    | silent grows held =>
      refine .inr ⟨start, finish, running.extend behind .refl grows (named grows) ?_ ?_ ?_ ?_ held⟩ <;> simp
    | first values rising grows held =>
      refine .inr ⟨start, _, running.extend behind (.single (.first finish values rising)) grows (named grows)
        ?_ rfl ?_ ?_ held⟩ <;> simp [Copies.State.writeFirst]
    | second values rising grows held =>
      refine .inr ⟨start, _, running.extend behind (.single (.second finish values rising)) grows (named grows)
        ?_ rfl ?_ ?_ held⟩ <;> simp [Copies.State.writeSecond]
    | both grows held =>
      refine .inr ⟨start, _, running.extend behind (.single (.both finish)) grows (named grows)
        ?_ rfl ?_ ?_ held⟩ <;> simp [Copies.State.writeBoth]
  · have same : dual.node.turn next = dual.node := by
      unfold Node.turn
      rcases idle with awaiting | ⟨_, returned⟩
      · rw [awaiting]
      · rw [returned]
    rw [turn_idle same]
    exact .inr ⟨start, finish, running⟩

theorem Invariant.turn {loaded : Checkpoint} {dual : SharedNode Producer Block Sink Source Exec Result Store}
    (invariant : dual.Invariant loaded) (next : Turn (SequencerMeanwhile Block) ValidatorMeanwhile) :
    (dual.turn next).Invariant loaded := by
  rcases invariant with opening | ⟨start, finish, running⟩
  · cases next with
    | sync round => exact opening.sync round
    | _ =>
      rw [turn_idle]
      · exact .inl opening
      · unfold Node.turn
        rcases opening.phase with launched | syncing
        · rw [launched]
        · rw [syncing]
  · exact running.turn next

/-- No update is lost in a run of a node that was built with one path for all three exactly
when only one of the roles saves and the synced checkpoint replaces nothing that was saved. -/
theorem noLostUpdate_iff_oneWriter {cli : MontanaCli} (dual : cli.mode = .dual)
    (live : cli.withHarness = false) {tui : Bool} {blockProducer : Producer} {batchSink : Sink}
    {batchSource : Source} {compressor : Compressor} {blockRx : Receiver Block} {executor : Exec}
    {files : Store} {now : Nat} {node : DualNode Producer Block Sink Source Exec Result Store}
    (built : buildNodeCommon cli tui blockProducer batchSink batchSource compressor blockRx executor
      (⟨files, cli.checkpointPath, []⟩ : RecordedStore Store) now = .ok node)
    (turns : List (Turn (SequencerMeanwhile Block) ValidatorMeanwhile)) :
    NoLostUpdate (run ⟨node, []⟩ turns).node.store.history ↔
      OneWriter node.checkpoint (run ⟨node, []⟩ turns).writers := by
  obtain ⟨launched, store, sharing⟩ := buildNodeCommon_sharing dual live built
  have opening : Opening node.checkpoint ⟨node, []⟩ := by
    refine ⟨.inl launched.phase, ?_, rfl, ⟨0, ?_, rfl⟩, ?_⟩
    · rw [store]
      exact sharing
    · rw [store]
      rfl
    · rw [store]
      nofun
  exact (Runs.invariant_run (Invariant node.checkpoint) turns
    (fun _ next _ invariant => invariant.turn next) (.inl opening)).noLostUpdate_iff

end Steps

section Examples

open Reference

/-- A dual node without a sync stage, with one block to batch and one batch to derive. -/
def startDual : Except Report
    (DualNode FixedTip UInt8 InMemoryBatchQueue InMemoryBatchQueue (PersistentExecutor Nat UInt8) Unit Files) :=
  buildNodeCommon { skipSync := true, checkpointPath := "cp" } false (FixedTip.mk 0) InMemoryBatchQueue.empty
    (queueOf [[5]]) noop { queue := [7] } (refusing 0) ⟨⟨[]⟩, "cp", []⟩ 0

/-- The sequencer cuts its block into a batch and submits it, behind the launch of the node. -/
def submitsBatch : List (Turn (SequencerMeanwhile UInt8) ValidatorMeanwhile) :=
  [.sync { sequencer := {}, validator := {} }, .sequencer { schedule := [[.clockAdvanced 12000]] },
    .sequencer { schedule := [[.workerDone 0 none]] }]

theorem sequencerAlone_noLostUpdate : ∃ node, startDual = .ok node ∧
    NoLostUpdate (run ⟨node, []⟩ (submitsBatch ++ [.save])).node.store.history := by
  obtain ⟨node, built⟩ : ∃ node, startDual = .ok node := ⟨_, rfl⟩
  have named : startDual.toOption.map (fun node => (run ⟨node, []⟩ (submitsBatch ++ [.save])).writers) =
      some [.sequencer, .node] := by decide
  rw [built] at named
  have writers : (run ⟨node, []⟩ (submitsBatch ++ [.save])).writers = [.sequencer, .node] :=
    Option.some.inj named
  have one : OneWriter node.checkpoint (run ⟨node, []⟩ (submitsBatch ++ [.save])).writers := by
    rw [writers]
    exact ⟨by decide, nofun⟩
  exact ⟨node, built, (noLostUpdate_iff_oneWriter (by rfl) (by rfl) built _).mpr one⟩

/-- The validator has not seen the submission, and saves a checkpoint without it. -/
theorem bothRoles_loseUpdate : ∃ node, startDual = .ok node ∧
    ¬ NoLostUpdate (run ⟨node, []⟩ (submitsBatch ++ [.validator {}])).node.store.history := by
  refine ⟨_, rfl, ?_⟩
  decide

end Examples

end SharedNode

end Montana.Lifecycle
