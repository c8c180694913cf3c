import Montana.Common.BatchContext
import Montana.Derivation.NoGap
import Montana.Lib.Attempts
import Mathlib.Data.List.Nodup

/-! Restarts of the derivation runner: what was executed before a stop, and what the
checkpoint file lets the next life execute again. -/

namespace Montana.Derivation

open Vm (Execution Executor)

/-- One attempt at a batch in some life: the blocks executed, and whether
`record_batch_derived` returned `Ok`. -/
structure Entry (Block Result : Type) where
  batch : CompressedBatch
  executions : List (Execution Block Result)
  recorded : Bool

namespace Entry

variable {Block Result : Type}

def number (entry : Entry Block Result) : Nat := entry.batch.batchNumber

def executes (entry : Entry Block Result) : Bool := !entry.executions.isEmpty

end Entry

namespace DerivationRunner

variable {Block Source Exec Result Store Tx : Type}
variable [BlockResponse Block Tx] [BlockJson Block] [L1BatchSource Source]
variable [Executor Exec Block Result] [CheckpointStore Store]

/-- The batch that a tick takes on: delivered and not skipped. -/
def takesOn (self : DerivationRunner Block Source Exec Result Store) : Option CompressedBatch :=
  if self.paused then none
  else
    match L1BatchSource.nextBatch self.source with
    | (.ok (some batch), _) => if self.shouldSkipBatch batch.batchNumber then none else some batch
    | _ => none

/-- What a tick adds to the log. -/
def entries (self : DerivationRunner Block Source Exec Result Store) : List (Entry Block Result) :=
  let (answer, after) := self.tick
  (after.attempts.drop self.attempts.length).map fun attempt =>
    ⟨attempt.batch, attempt.executions, answer.toOption.join.isSome⟩

/-- What is left of a tick when the process stops inside `derive_batch`, after this many
blocks and before the checkpoint is saved. -/
def entriesUntil (self : DerivationRunner Block Source Exec Result Store) (reached : Nat) :
    List (Entry Block Result) :=
  match self.takesOn with
  | none => []
  | some batch =>
    let blocks : List Block := (payload self.compressor batch).getD []
    [⟨batch, (executeBlocks self.executor batch.batchNumber (blocks.take reached)).1, false⟩]

/-- The batch can be decoded, all its blocks are accepted, and the checkpoint is saved. -/
def Completes (self : DerivationRunner Block Source Exec Result Store) (batch : CompressedBatch) : Prop :=
  (tryBatch Block self.compressor self.executor batch).1 = true ∧
    (Checkpoint.saveIfEnabled self.store self.checkpointPath
      (self.checkpointAfter batch.batchNumber)).1 = .ok ()

end DerivationRunner

/-- A process is running, or stopped with nothing left but its files. -/
inductive Process (Block Source Exec Result Store : Type) where
  | stopped (store : Store)
  | running (runner : DerivationRunner Block Source Exec Result Store)

def Process.store : Process Block Source Exec Result Store → Store
  | .stopped store => store
  | .running runner => runner.store

/-- What all lives of the process share. -/
structure Setup where
  compressor : Compressor
  config : DerivationConfig
  path : String

/-- The process and the log of all its lives. -/
structure Lives (Block Source Exec Result Store : Type) where
  process : Process Block Source Exec Result Store
  log : List (Entry Block Result)


section Ticks

variable {Block Source Exec Result Store Tx : Type}
variable [BlockResponse Block Tx] [BlockJson Block] [L1BatchSource Source]
variable [Executor Exec Block Result] [CheckpointStore Store]

omit [BlockJson Block] in
private theorem DerivationRunner.executeBlocks_eq_nil_iff (executor : Exec) (batchNumber : Nat)
    (blocks : List Block) : (executeBlocks executor batchNumber blocks).1 = [] ↔ blocks = [] := by
  cases blocks with
  | nil => simp [executeBlocks]
  | cons block rest =>
    unfold executeBlocks
    split <;> simp

namespace DerivationRunner

/-- What an attempt of a runner leaves in the log, and what it does to the checkpoint. -/
structure Logged (runner next : DerivationRunner Block Source Exec Result Store)
    (entry : Entry Block Result) : Prop where
  executions : entry.executions = (executeBlocks runner.executor entry.batch.batchNumber
    ((payload runner.compressor entry.batch).getD [])).1
  completes : entry.recorded = true ↔ runner.Completes entry.batch
  moves : (entry.recorded = false ∧ next.checkpoint = runner.checkpoint ∧ next.store = runner.store) ∨
    next.checkpoint = runner.checkpointAfter entry.number ∧
      next.store = (Checkpoint.saveIfEnabled runner.store runner.checkpointPath
        (runner.checkpointAfter entry.number)).2

/-- A tick takes nothing on and keeps the checkpoint, or it makes one attempt. -/
theorem tick_cases (self : DerivationRunner Block Source Exec Result Store) :
    self.tick.2.compressor = self.compressor ∧ self.tick.2.checkpointPath = self.checkpointPath ∧
      (self.tick.2.source = self.source ∨
        self.tick.2.source = (L1BatchSource.nextBatch self.source).2) ∧
      ((self.takesOn = none ∧ self.entries = [] ∧ self.tick.2.checkpoint = self.checkpoint ∧
          self.tick.2.store = self.store) ∨
        ∃ entry, self.takesOn = some entry.batch ∧ self.entries = [entry] ∧
          Logged self self.tick.2 entry) := by
  by_cases paused : self.paused = true
  · simp [tick, takesOn, entries, paused]
  · cases taken : L1BatchSource.nextBatch self.source with
    | mk answer source =>
      rcases answer with e | _ | batch
      · simp [tick, takesOn, entries, paused, taken]
      · simp [tick, takesOn, entries, paused, taken]
      · have ticked : self.tick = deriveBatch
            { self with source, delivered := self.delivered ++ [batch] } batch self.clock := by
          simp [tick, paused, taken]
        rcases deriveBatch_ends { self with source, delivered := self.delivered ++ [batch] } batch
            self.clock with ⟨skips, same⟩ |
          ⟨takes, attempt, executor, rfl, tried, shaped, executions, ⟨failed, e, same⟩ |
            ⟨derived, saved, store, answer, metrics, times, counts, finalized, saves, answered, same⟩⟩
        · have skips : self.shouldSkipBatch batch.batchNumber = true := skips
          rw [same] at ticked
          simp [takesOn, entries, paused, taken, ticked, skips]
        · have takes : self.shouldSkipBatch attempt.batch.batchNumber = false := takes
          rw [same] at ticked
          refine ⟨by rw [ticked], by rw [ticked], .inr (by rw [ticked]), .inr
            ⟨⟨attempt.batch, attempt.executions, false⟩, by simp [takesOn, paused, taken, takes], ?_, ?_⟩⟩
          · simp [entries, ticked, Except.toOption]
          · refine ⟨executions, ?_, .inl ⟨rfl, by rw [ticked], by rw [ticked]⟩⟩
            have tried := congrArg Prod.fst tried
            have refused : (tryBatch Block self.compressor self.executor attempt.batch).1 = false := by
              rw [tried]
              simpa [Option.isSome_iff_ne_none] using failed
            simp [Completes, refused]
        · have takes : self.shouldSkipBatch attempt.batch.batchNumber = false := takes
          have accepted : (tryBatch Block self.compressor self.executor attempt.batch).1 = true := by
            rw [congrArg Prod.fst tried, derived]
            rfl
          have saves : Checkpoint.saveIfEnabled self.store self.checkpointPath
              (self.checkpointAfter attempt.batch.batchNumber) = (saved, store) := saves
          rw [same] at ticked
          refine ⟨by rw [ticked], by rw [ticked], .inr (by rw [ticked]), .inr
            ⟨⟨attempt.batch, attempt.executions, answer.toOption.join.isSome⟩,
              by simp [takesOn, paused, taken, takes], by simp [entries, ticked], executions, ?_,
              .inr ⟨by rw [ticked]; rfl, ?_⟩⟩⟩
          · rw [Completes, accepted, saves, answered]
            rcases answer with e | _ | metrics <;> simp [Except.toOption]
          · rw [ticked, Entry.number, saves]

end DerivationRunner

end Ticks

namespace Lives

/-- A stop falls between two calls or inside `derive_batch`. -/
inductive Input (Source Exec : Type) where
  | start (source : Source) (executor : Exec)
  | call (input : DerivationRunner.Input)
  | stop
  | stopInside (reached : Nat)

variable {Block Source Exec Result Store Tx : Type}
variable [BlockResponse Block Tx] [BlockJson Block] [L1BatchSource Source]
variable [Executor Exec Block Result] [CheckpointStore Store]

/-- A process does not start when its checkpoint file cannot be loaded. -/
def launch (setup : Setup) (source : Source) (executor : Exec) (store : Store) :
    Process Block Source Exec Result Store :=
  let runner : DerivationRunner Block Source Exec Result Store :=
    .new source setup.compressor setup.config executor store
  match runner.withCheckpoint setup.path with
  | .ok runner => .running runner
  | .error _ => .stopped store

def step (setup : Setup) (self : Lives Block Source Exec Result Store) :
    Input Source Exec → Lives Block Source Exec Result Store
  | .start source executor =>
    match self.process with
    | .stopped store => { self with process := launch setup source executor store }
    | .running _ => self
  | .call input =>
    match self.process with
    | .stopped _ => self
    | .running runner =>
      ⟨.running (runner.step input), if input = .tick then self.log ++ runner.entries else self.log⟩
  | .stop => { self with process := .stopped self.process.store }
  | .stopInside reached =>
    match self.process with
    | .stopped _ => self
    | .running runner => ⟨.stopped runner.store, self.log ++ runner.entriesUntil reached⟩

def run (setup : Setup) (self : Lives Block Source Exec Result Store) (inputs : List (Input Source Exec)) :
    Lives Block Source Exec Result Store :=
  inputs.foldl (step setup) self

def Recorded (log : List (Entry Block Result)) (number : Nat) : Prop :=
  Attempts.Finished Entry.number Entry.recorded log number

/-- The blocks of each batch number that was recorded are executed once over all lives. -/
def AtMostOnce (log : List (Entry Block Result)) : Prop :=
  Attempts.AtMostOnce Entry.number Entry.executes Entry.recorded log

/-- An earlier attempt at the batch executed a block. -/
def Begun (log : List (Entry Block Result)) (number : Nat) : Prop :=
  ∃ entry ∈ log, entry.number = number ∧ entry.executes = true

/-- Batch 0 was recorded and comes again, while the checkpoint still says 0. -/
def RepeatsZero (log : List (Entry Block Result))
    (runner : DerivationRunner Block Source Exec Result Store) (batch : CompressedBatch) : Prop :=
  batch.batchNumber = 0 ∧ runner.checkpoint.lastBatchDerived = 0 ∧ Recorded log 0

/-- A batch of which an earlier attempt executed a block without recording it is completed. -/
def FinishesTorn (log : List (Entry Block Result))
    (runner : DerivationRunner Block Source Exec Result Store) (batch : CompressedBatch) : Prop :=
  Begun log batch.batchNumber ∧ ¬Recorded log batch.batchNumber ∧ runner.Completes batch

/-- The runner of the process and the batch that its next tick takes on. -/
def takes (self : Lives Block Source Exec Result Store) :
    Option (DerivationRunner Block Source Exec Result Store × CompressedBatch) :=
  match self.process with
  | .stopped _ => none
  | .running runner => runner.takesOn.map fun batch => (runner, batch)

omit [BlockResponse Block Tx] [BlockJson Block] [Executor Exec Block Result] [CheckpointStore Store] in
private theorem takes_running {self : Lives Block Source Exec Result Store}
    {runner : DerivationRunner Block Source Exec Result Store} (running : self.process = .running runner) :
    self.takes = runner.takesOn.map fun batch => (runner, batch) := by
  rw [takes, running]

/-- Only a tick, and a stop inside it that is late enough, executes blocks. -/
def Input.executes : Input Source Exec → Bool
  | .call input => input = .tick
  | .stopInside reached => reached ≠ 0
  | _ => false

/-- Only a tick that is not cut off records a batch. -/
def Input.records : Input Source Exec → Bool
  | .call input => input = .tick
  | _ => false

/-- No batch with a block is executed in one of these two ways. -/
def Clean (self : Lives Block Source Exec Result Store) (input : Input Source Exec) : Prop :=
  ∀ taken ∈ self.takes, input.executes = true →
    (payload taken.1.compressor taken.2 : Option (List Block)).getD [] ≠ [] →
      ¬RepeatsZero self.log taken.1 taken.2 ∧
        (input.records = true → ¬FinishesTorn self.log taken.1 taken.2)

/-- Each life is given the stream from its beginning. -/
def Redelivers [OrderedSource Source] (stream : List CompressedBatch) :
    Lives Block Source Exec Result Store → Input Source Exec → Prop
  | _, .start source _ => OrderedSource.remaining source = stream
  | _, _ => True

section Invariant

variable {Block Source Exec Result Store Tx : Type}
variable [BlockResponse Block Tx] [BlockJson Block] [L1BatchSource Source] [OrderedSource Source]
variable [Executor Exec Block Result] [CheckpointStore Store]

/-- What is known of a running process. -/
structure Alive (setup : Setup) (stream : List CompressedBatch) (log : List (Entry Block Result))
    (runner : DerivationRunner Block Source Exec Result Store) : Prop where
  compressor : runner.compressor = setup.compressor
  path : runner.checkpointPath = some setup.path
  source : OrderedSource.remaining runner.source ⊆ stream
  derived : ∀ number, Recorded log number → number ≤ runner.checkpoint.lastBatchDerived

/-- What an entry for a batch of the stream has to be. -/
structure Fits (Block : Type) {Result : Type} [BlockJson Block] (setup : Setup)
    (stream : List CompressedBatch) (entry : Entry Block Result) : Prop where
  listed : entry.batch ∈ stream
  nonempty : entry.executes = true →
    (payload setup.compressor entry.batch : Option (List Block)).getD [] ≠ []
  whole : entry.recorded = true →
    (payload setup.compressor entry.batch : Option (List Block)).getD [] ≠ [] → entry.executes = true

/-- What every log and every checkpoint file of the process have in common. -/
structure Known (setup : Setup) (stream : List CompressedBatch)
    (lives : Lives Block Source Exec Result Store) : Prop where
  fits : ∀ entry ∈ lives.log, Fits Block setup stream entry
  onFile : ∀ number, Recorded lives.log number → ∀ loaded,
    CheckpointStore.load lives.process.store setup.path = .ok loaded →
      number ≤ (loaded.getD .fresh).lastBatchDerived
  alive : ∀ runner, lives.process = .running runner → Alive setup stream lives.log runner

omit [BlockResponse Block Tx] [BlockJson Block] [Executor Exec Block Result] [CheckpointStore Store] in
private theorem takesOn_mem {setup : Setup} {stream : List CompressedBatch}
    {log : List (Entry Block Result)}
    {runner : DerivationRunner Block Source Exec Result Store} (alive : Alive setup stream log runner)
    {batch : CompressedBatch} (taken : runner.takesOn = some batch) :
    batch ∈ stream ∧ runner.shouldSkipBatch batch.batchNumber = false := by
  unfold DerivationRunner.takesOn at taken
  cases answered : L1BatchSource.nextBatch runner.source with
  | mk answer source =>
    by_cases paused : runner.paused = true
    · simp [paused] at taken
    · rcases answer with e | _ | delivered
      · simp [paused, answered] at taken
      · simp [paused, answered] at taken
      · by_cases skips : runner.shouldSkipBatch delivered.batchNumber = true
        · simp [paused, answered, skips] at taken
        · simp [paused, answered, skips] at taken
          subst taken
          have delivers := OrderedSource.delivers _ _ _ answered
          exact ⟨alive.source (delivers ▸ List.mem_cons_self), by simpa using skips⟩

/-- One more attempt repeats nothing exactly if it executes no block, or its number was
neither recorded before nor begun before and recorded now. -/
theorem atMostOnce_concat {setup : Setup} {stream : List CompressedBatch}
    (increasing : stream.Pairwise (·.batchNumber < ·.batchNumber)) {log : List (Entry Block Result)}
    (known : ∀ entry ∈ log, Fits Block setup stream entry) (once : AtMostOnce log)
    {entry : Entry Block Result} (fits : Fits Block setup stream entry) :
    AtMostOnce (log ++ [entry]) ↔ (entry.executes = true →
      ¬Recorded log entry.number ∧ (entry.recorded = true → ¬Begun log entry.number)) := by
  have same (other : Entry Block Result) (member : other ∈ log) (number : other.number = entry.number) :
      other.batch = entry.batch := by
    have distinct : (stream.map (·.batchNumber)).Nodup :=
      List.pairwise_map.mpr (increasing.imp Nat.ne_of_lt)
    exact List.inj_on_of_nodup_map distinct (known other member).listed fits.listed number
  have begun : 0 < Attempts.times Entry.number Entry.executes log entry.number ↔ Begun log entry.number :=
    Attempts.times_pos_iff _ _ _ _
  rw [AtMostOnce, Attempts.atMostOnce_concat_iff _ _ _ once]
  by_cases executes : entry.executes = true
  · have recorded : Recorded log entry.number → Begun log entry.number := by
      rintro ⟨other, member, number, done⟩
      refine ⟨other, member, number, (known other member).whole done ?_⟩
      rw [same other member number]
      exact fits.nonempty executes
    simp only [executes, if_true, forall_const]
    constructor
    · intro bound
      refine ⟨fun done => ?_, fun done before => ?_⟩
      · have := begun.mpr (recorded done)
        have := bound (.inl done)
        omega
      · have := begun.mpr before
        have := bound (.inr done)
        omega
    · rintro ⟨unrecorded, fresh⟩ (done | done)
      · exact absurd done unrecorded
      · have := mt begun.mp (fresh done)
        omega
  · rw [if_neg executes, Nat.add_zero, iff_true_right fun acts => absurd acts executes]
    rintro (done | done)
    · exact once _ done
    · have unbegun : ¬Begun log entry.number := by
        rintro ⟨other, member, number, before⟩
        have held := (known other member).nonempty before
        rw [same other member number] at held
        exact executes (fits.whole done held)
      have := mt begun.mp unbegun
      omega

omit [BlockJson Block] [Executor Exec Block Result] [CheckpointStore Store] in
/-- What is recorded and not skipped can only be batch 0. -/
theorem Alive.recorded_iff {setup : Setup} {stream : List CompressedBatch}
    {log : List (Entry Block Result)} {runner : DerivationRunner Block Source Exec Result Store}
    (alive : Alive setup stream log runner) {batch : CompressedBatch}
    (taken : runner.shouldSkipBatch batch.batchNumber = false) :
    Recorded log batch.batchNumber ↔ RepeatsZero log runner batch := by
  constructor
  · intro recorded
    have derived := alive.derived _ recorded
    have stays := mt (DerivationRunner.shouldSkipBatch_iff runner batch.batchNumber).mpr (by simp [taken])
    have zero : batch.batchNumber = 0 := by omega
    exact ⟨zero, by omega, zero ▸ recorded⟩
  · rintro ⟨zero, _, recorded⟩
    exact zero ▸ recorded

variable [LawfulCheckpointStore Store] [AtomicCheckpointStore Store]

/-- After an attempt the checkpoint and its file cover what is recorded. -/
theorem Known.attempt {setup : Setup} {stream : List CompressedBatch}
    {lives : Lives Block Source Exec Result Store} (known : Known setup stream lives)
    {runner next : DerivationRunner Block Source Exec Result Store}
    (running : lives.process = .running runner) {entry : Entry Block Result}
    (logged : runner.Logged next entry) :
    (∀ number, Recorded (lives.log ++ [entry]) number → number ≤ next.checkpoint.lastBatchDerived) ∧
      ∀ number, Recorded (lives.log ++ [entry]) number → ∀ loaded,
        CheckpointStore.load next.store setup.path = .ok loaded →
          number ≤ (loaded.getD .fresh).lastBatchDerived := by
  have alive := known.alive runner running
  have onFile (number : Nat) (recorded : Recorded lives.log number) := known.onFile number recorded
  rw [running, Process.store] at onFile
  have split (number : Nat) := Attempts.finished_concat Entry.number Entry.recorded lives.log entry number
  rcases logged.moves with ⟨unrecorded, checkpoint, store⟩ | ⟨checkpoint, store⟩
  · have before (number : Nat) (recorded : Recorded (lives.log ++ [entry]) number) :
        Recorded lives.log number := by
      rcases (split number).mp recorded with before | ⟨_, now⟩
      · exact before
      · rw [unrecorded] at now
        cases now
    rw [checkpoint, store]
    exact ⟨fun number recorded => alive.derived number (before number recorded),
      fun number recorded => onFile number (before number recorded)⟩
  · have moved (number : Nat) (recorded : Recorded (lives.log ++ [entry]) number) :
        number ≤ (runner.checkpointAfter entry.number).lastBatchDerived := by
      rw [DerivationRunner.checkpointAfter, Checkpoint.touch_lastBatchDerived,
        Checkpoint.recordBatchDerived_lastBatchDerived]
      rcases (split number).mp recorded with before | ⟨rfl, _⟩
      · have := alive.derived number before
        omega
      · omega
    rw [checkpoint]
    refine ⟨moved, fun number recorded loaded read => ?_⟩
    rw [store, alive.path, Checkpoint.saveIfEnabled] at read
    rcases AtomicCheckpointStore.load_save_cases runner.store setup.path
      (runner.checkpointAfter entry.number) with kept | written
    · rcases (split number).mp recorded with before | ⟨rfl, now⟩
      · exact onFile number before loaded (kept ▸ read)
      · have saved := (logged.completes.mp now).2
        rw [alive.path, Checkpoint.saveIfEnabled] at saved
        have written := LawfulCheckpointStore.load_save _ _ _ _ (Prod.ext saved rfl)
        cases written.symm.trans read
        exact moved _ recorded
    · cases written.symm.trans read
      exact moved number recorded

omit [BlockResponse Block Tx] [BlockJson Block] [Executor Exec Block Result] [CheckpointStore Store]
  [LawfulCheckpointStore Store] [AtomicCheckpointStore Store] in
private theorem remaining_subset (source : Source) :
    OrderedSource.remaining (L1BatchSource.nextBatch source).2 ⊆ OrderedSource.remaining source := by
  cases answered : L1BatchSource.nextBatch source with
  | mk answer next =>
    rcases answer with e | _ | batch
    · rw [OrderedSource.waits _ _ _ answered fun _ same => by cases same]
      exact List.Subset.refl _
    · rw [OrderedSource.waits _ _ _ answered fun _ same => by cases same]
      exact List.Subset.refl _
    · rw [OrderedSource.delivers _ _ _ answered]
      exact List.subset_cons_self _ _

omit [LawfulCheckpointStore Store] [AtomicCheckpointStore Store] in
/-- The entry of a tick fits the stream. -/
theorem Alive.fits_tick {setup : Setup} {stream : List CompressedBatch}
    {log : List (Entry Block Result)} {runner next : DerivationRunner Block Source Exec Result Store}
    (alive : Alive setup stream log runner) {entry : Entry Block Result}
    (taken : runner.takesOn = some entry.batch) (logged : runner.Logged next entry) :
    Fits Block setup stream entry ∧ (entry.executes = true ↔
      (payload runner.compressor entry.batch : Option (List Block)).getD [] ≠ []) := by
  have acts : entry.executes = true ↔
      (payload runner.compressor entry.batch : Option (List Block)).getD [] ≠ [] := by
    rw [Entry.executes, logged.executions, Bool.not_eq_true', List.isEmpty_eq_false_iff, ne_eq,
      DerivationRunner.executeBlocks_eq_nil_iff]
  have fits := alive.compressor ▸ acts
  exact ⟨⟨(takesOn_mem alive taken).1, fits.mp, fun _ => fits.mpr⟩, acts⟩

omit [CheckpointStore Store] [LawfulCheckpointStore Store] [AtomicCheckpointStore Store] in
/-- What a stop inside `derive_batch` leaves is nothing, or an entry that fits the stream. -/
theorem Alive.entriesUntil_cases {setup : Setup} {stream : List CompressedBatch}
    {log : List (Entry Block Result)} {runner : DerivationRunner Block Source Exec Result Store}
    (alive : Alive setup stream log runner) (reached : Nat) :
    (runner.takesOn = none ∧ runner.entriesUntil reached = []) ∨
      ∃ entry, runner.takesOn = some entry.batch ∧ runner.entriesUntil reached = [entry] ∧
        Fits Block setup stream entry ∧ entry.recorded = false ∧ (entry.executes = true ↔
          reached ≠ 0 ∧ (payload runner.compressor entry.batch : Option (List Block)).getD [] ≠ []) := by
  unfold DerivationRunner.entriesUntil
  cases taken : runner.takesOn with
  | none => exact .inl ⟨rfl, rfl⟩
  | some batch =>
    refine .inr ⟨_, rfl, rfl, ?_⟩
    generalize made : (Entry.mk batch _ false : Entry Block Result) = entry
    have acts : entry.executes = true ↔ reached ≠ 0 ∧
        (payload runner.compressor batch : Option (List Block)).getD [] ≠ [] := by
      rw [← made, Entry.executes, Bool.not_eq_true', List.isEmpty_eq_false_iff, ne_eq,
        DerivationRunner.executeBlocks_eq_nil_iff, List.take_eq_nil_iff, not_or]
    subst made
    refine ⟨⟨(takesOn_mem alive taken).1, fun executes => ?_, fun recorded => by cases recorded⟩, rfl, acts⟩
    rw [← alive.compressor]
    exact (acts.mp executes).2

omit [BlockResponse Block Tx] [Executor Exec Block Result] [LawfulCheckpointStore Store]
  [AtomicCheckpointStore Store] in
/-- A new life begins with what is on the file. -/
theorem Known.launch {setup : Setup} {stream : List CompressedBatch}
    {lives : Lives Block Source Exec Result Store} (known : Known setup stream lives)
    {source : Source} (delivers : OrderedSource.remaining source = stream) (executor : Exec) :
    Known setup stream
      { lives with process := Lives.launch setup source executor lives.process.store } := by
  unfold Lives.launch DerivationRunner.withCheckpoint
  have onFile := known.onFile
  cases read : CheckpointStore.load lives.process.store setup.path with
  | error e =>
    simp only [DerivationRunner.new, DerivationRunner.withStartBlock, read]
    exact ⟨known.fits, onFile, fun runner running => by cases running⟩
  | ok loaded =>
    simp only [DerivationRunner.new, DerivationRunner.withStartBlock, read]
    refine ⟨known.fits, onFile, fun runner running => ?_⟩
    cases running
    exact ⟨rfl, rfl, delivers ▸ List.Subset.refl _, fun number recorded => onFile number recorded loaded read⟩

omit [LawfulCheckpointStore Store] [AtomicCheckpointStore Store] in
/-- The other calls change nothing that matters here. -/
theorem Alive.call {setup : Setup} {stream : List CompressedBatch} {log : List (Entry Block Result)}
    {runner : DerivationRunner Block Source Exec Result Store} (alive : Alive setup stream log runner)
    {input : DerivationRunner.Input} (other : input ≠ .tick) :
    Alive setup stream log (runner.step input) ∧ (runner.step input).store = runner.store := by
  cases input with
  | tick => exact absurd rfl other
  | pause => exact ⟨{ alive with }, rfl⟩
  | resume => exact ⟨{ alive with }, rfl⟩
  | togglePause => exact ⟨{ alive with }, rfl⟩
  | recordSubmission batchNumber submitTime => exact ⟨{ alive with }, rfl⟩
  | recordBatchBlockCount batchNumber blockCount => exact ⟨{ alive with }, rfl⟩
  | clockAdvanced elapsed => exact ⟨{ alive with }, rfl⟩
  | wallClockSet unixSeconds => exact ⟨{ alive with }, rfl⟩

/-- A tick keeps what is known, and repeats nothing exactly if it is clean. -/
theorem Known.tick {setup : Setup} {stream : List CompressedBatch}
    (increasing : stream.Pairwise (·.batchNumber < ·.batchNumber))
    {lives : Lives Block Source Exec Result Store} (known : Known setup stream lives)
    {runner : DerivationRunner Block Source Exec Result Store} (running : lives.process = .running runner) :
    Known setup stream ⟨.running runner.tick.2, lives.log ++ runner.entries⟩ ∧
      (AtMostOnce lives.log →
        (AtMostOnce (lives.log ++ runner.entries) ↔ Clean lives (.call .tick : Input Source Exec))) := by
  have alive := known.alive runner running
  have onFile := known.onFile
  rw [running, Process.store] at onFile
  obtain ⟨compressor, path, source, ticked⟩ := DerivationRunner.tick_cases runner
  have source : OrderedSource.remaining runner.tick.2.source ⊆ stream := by
    rcases source with same | next
    · exact same ▸ alive.source
    · exact next ▸ List.Subset.trans (remaining_subset _) alive.source
  rcases ticked with ⟨nothing, entries, checkpoint, store⟩ | ⟨entry, taken, entries, logged⟩
  · rw [entries, List.append_nil]
    refine ⟨⟨known.fits, ?_, fun next same => ?_⟩, fun once => ?_⟩
    · rw [Process.store, store]
      exact onFile
    · cases same
      exact ⟨compressor.trans alive.compressor, path.trans alive.path, source,
        checkpoint ▸ alive.derived⟩
    · refine iff_of_true once fun taken member => ?_
      rw [takes_running running, nothing] at member
      cases member
  · rw [entries]
    obtain ⟨fits, acts⟩ := alive.fits_tick taken logged
    obtain ⟨derived, saved⟩ := known.attempt running logged
    refine ⟨⟨fun other member => ?_, saved, fun next same => ?_⟩, fun once => ?_⟩
    · rcases List.mem_append.mp member with old | new
      · exact known.fits other old
      · rw [List.mem_singleton.mp new]
        exact fits
    · cases same
      exact ⟨compressor.trans alive.compressor, path.trans alive.path, source, derived⟩
    · have recorded := alive.recorded_iff (takesOn_mem alive taken).2
      rw [atMostOnce_concat increasing known.fits once fits, acts, Entry.number, recorded,
        logged.completes]
      constructor
      · intro fresh other member _ holds
        rw [takes_running running, taken] at member
        cases member
        obtain ⟨unrepeated, unbegun⟩ := fresh holds
        exact ⟨unrepeated, fun _ torn => unbegun torn.2.2 torn.1⟩
      · intro clean holds
        have member : (runner, entry.batch) ∈ lives.takes := by
          rw [takes_running running, taken]
          rfl
        obtain ⟨unrepeated, unfinished⟩ := clean _ member rfl holds
        exact ⟨unrepeated, fun completes begun =>
          unfinished rfl ⟨begun, mt recorded.mp unrepeated, completes⟩⟩

omit [LawfulCheckpointStore Store] [AtomicCheckpointStore Store] in
/-- A stop inside `derive_batch` keeps what is known as well. -/
theorem Known.stopInside {setup : Setup} {stream : List CompressedBatch}
    (increasing : stream.Pairwise (·.batchNumber < ·.batchNumber))
    {lives : Lives Block Source Exec Result Store} (known : Known setup stream lives)
    {runner : DerivationRunner Block Source Exec Result Store} (running : lives.process = .running runner)
    (reached : Nat) :
    Known setup stream (⟨.stopped runner.store, lives.log ++ runner.entriesUntil reached⟩ :
        Lives Block Source Exec Result Store) ∧
      (AtMostOnce lives.log → (AtMostOnce (lives.log ++ runner.entriesUntil reached) ↔
        Clean lives (.stopInside reached : Input Source Exec))) := by
  have alive := known.alive runner running
  have onFile := known.onFile
  rw [running, Process.store] at onFile
  rcases alive.entriesUntil_cases reached with
    ⟨nothing, entries⟩ | ⟨entry, taken, entries, fits, unrecorded, acts⟩
  · rw [entries, List.append_nil]
    refine ⟨⟨known.fits, onFile, fun next same => by cases same⟩, fun once => ?_⟩
    refine iff_of_true once fun taken member => ?_
    rw [takes_running running, nothing] at member
    cases member
  · rw [entries]
    refine ⟨⟨fun other member => ?_, fun number recorded => onFile number ?_, fun next same => by cases same⟩,
      fun once => ?_⟩
    · rcases List.mem_append.mp member with old | new
      · exact known.fits other old
      · rw [List.mem_singleton.mp new]
        exact fits
    · rcases (Attempts.finished_concat _ _ _ _ _).mp recorded with before | ⟨_, now⟩
      · exact before
      · rw [unrecorded] at now
        cases now
    · have recorded := alive.recorded_iff (takesOn_mem alive taken).2
      rw [atMostOnce_concat increasing known.fits once fits, acts, Entry.number, recorded, unrecorded]
      constructor
      · intro fresh other member some holds
        rw [takes_running running, taken] at member
        cases member
        exact ⟨(fresh ⟨of_decide_eq_true some, holds⟩).1, fun never => by cases never⟩
      · rintro clean ⟨some, holds⟩
        have member : (runner, entry.batch) ∈ lives.takes := by
          rw [takes_running running, taken]
          rfl
        exact ⟨(clean _ member (decide_eq_true some) holds).1, fun done => by cases done⟩

omit [BlockResponse Block Tx] [OrderedSource Source] [LawfulCheckpointStore Store]
  [AtomicCheckpointStore Store] in
private theorem clean_of_idle {lives : Lives Block Source Exec Result Store} {input : Input Source Exec}
    (idle : input.executes = false) : Clean lives input := by
  intro taken _ executes
  rw [idle] at executes
  cases executes

theorem Known.step {setup : Setup} {stream : List CompressedBatch}
    (increasing : stream.Pairwise (·.batchNumber < ·.batchNumber))
    {lives : Lives Block Source Exec Result Store} (known : Known setup stream lives)
    {input : Input Source Exec} (admitted : Redelivers stream lives input) :
    Known setup stream (lives.step setup input) ∧
      (AtMostOnce lives.log → (AtMostOnce (lives.step setup input).log ↔ Clean lives input)) := by
  obtain ⟨process, log⟩ := lives
  cases input with
  | start source executor =>
    cases process with
    | stopped store => exact ⟨known.launch admitted executor, fun once => iff_of_true once (clean_of_idle rfl)⟩
    | running runner => exact ⟨known, fun once => iff_of_true once (clean_of_idle rfl)⟩
  | call input =>
    cases process with
    | stopped store =>
      exact ⟨known, fun once => iff_of_true once fun taken member => by cases member⟩
    | running runner =>
      by_cases ticks : input = .tick
      · subst ticks
        exact known.tick increasing rfl
      · obtain ⟨alive, store⟩ := (known.alive runner rfl).call ticks
        have onFile : ∀ number, Recorded log number → ∀ loaded,
            CheckpointStore.load (runner.step input).store setup.path = .ok loaded →
              number ≤ (loaded.getD .fresh).lastBatchDerived := store ▸ known.onFile
        simp only [Lives.step, if_neg ticks]
        exact ⟨⟨known.fits, onFile, fun next same => by cases same; exact alive⟩,
          fun once => iff_of_true once (clean_of_idle (decide_eq_false ticks))⟩
  | stop =>
    exact ⟨⟨known.fits, known.onFile, fun runner same => by cases same⟩,
      fun once => iff_of_true once (clean_of_idle rfl)⟩
  | stopInside reached =>
    cases process with
    | stopped store => exact ⟨known, fun once => iff_of_true once fun taken member => by cases member⟩
    | running runner => exact known.stopInside increasing rfl reached

/-- Over all lives the blocks of a recorded batch are executed once, exactly as long as no
tick takes on batch 0 again under a checkpoint that says 0, and none completes a batch
that an earlier attempt left half done. -/
theorem atMostOnce_iff_clean {setup : Setup} {stream : List CompressedBatch}
    (increasing : stream.Pairwise (·.batchNumber < ·.batchNumber)) (store : Store)
    (inputs : List (Input Source Exec))
    (redelivered : Runs.Guarded (step setup) (Redelivers stream)
      (⟨.stopped store, []⟩ : Lives Block Source Exec Result Store) inputs) :
    (∀ count, AtMostOnce (run setup (⟨.stopped store, []⟩ : Lives Block Source Exec Result Store)
        (inputs.take count)).log) ↔
      Runs.Guarded (step setup) Clean
        (⟨.stopped store, []⟩ : Lives Block Source Exec Result Store) inputs := by
  have unrecorded (number : Nat) : ¬Recorded ([] : List (Entry Block Result)) number := by
    rintro ⟨entry, member, _⟩
    cases member
  refine Runs.guarded_iff_invariant_known (Known setup stream) (AtMostOnce ·.log)
    (fun lives input admitted known => (known.step increasing admitted).1)
    (fun lives input admitted known => (known.step increasing admitted).2) inputs redelivered ?_ ?_
  · exact ⟨fun entry member => (List.not_mem_nil member).elim,
      fun number recorded => absurd recorded (unrecorded number), fun runner same => by cases same⟩
  · exact fun number recorded => absurd recorded (unrecorded number)

end Invariant

section Examples

open Reference

instance (log : List (Entry Block Result)) (number : Nat) : Decidable (Recorded log number) :=
  inferInstanceAs (Decidable (∃ entry ∈ log, entry.number = number ∧ entry.recorded = true))

instance (log : List (Entry Block Result)) (number : Nat) : Decidable (Begun log number) :=
  inferInstanceAs (Decidable (∃ entry ∈ log, entry.number = number ∧ entry.executes = true))

instance [OrderedSource Source] (stream : List CompressedBatch)
    (lives : Lives Block Source Exec Result Store) :
    ∀ input : Input Source Exec, Decidable (Redelivers stream lives input)
  | .start source _ => inferInstanceAs (Decidable (OrderedSource.remaining source = stream))
  | .call _ => .isTrue trivial
  | .stop => .isTrue trivial
  | .stopInside _ => .isTrue trivial

/-- Lives on an empty disk, over a stream of batches and an executor that refuses nothing. -/
abbrev TestLives : Type :=
  Lives UInt8 InMemoryBatchQueue (Vm.PersistentExecutor Nat UInt8) Unit Files

abbrev TestInput : Type := Input InMemoryBatchQueue (Vm.PersistentExecutor Nat UInt8)

def setup : Setup := ⟨noop, {}, "checkpoint"⟩

def bare : TestLives := ⟨.stopped ⟨[]⟩, []⟩

def start (queue : InMemoryBatchQueue) : TestInput := .start queue (refusing 0)

/-- The process stops after it recorded the first of two batches. -/
def twoLives : List TestInput := [start (queueOf [[5], [6]]), .call .tick, .stop,
  start (queueOf [[5], [6]]), .call .tick, .call .tick]

theorem twoLives_atMostOnce : AtMostOnce (run setup bare (twoLives.take 6)).log := by
  have redelivered : Runs.Guarded (step setup) (Redelivers (queueOf [[5], [6]]).batches) bare twoLives := by
    decide
  have clean : Runs.Guarded (step setup) Clean bare twoLives := by
    unfold Clean RepeatsZero FinishesTorn DerivationRunner.Completes
    decide
  have increasing : (queueOf [[5], [6]]).batches.Pairwise (·.batchNumber < ·.batchNumber) := by decide
  have all := (atMostOnce_iff_clean increasing (Files.mk []) twoLives redelivered).mpr clean
  exact all 6

/-- A stream that begins with batch 0. -/
def fromZero : InMemoryBatchQueue := ⟨[⟨0, [5], 1, 5, 5⟩]⟩

/-- Batch 0 is recorded, and executed again after a restart. -/
theorem batch_zero_repeated :
    fromZero.batches.Pairwise (·.batchNumber < ·.batchNumber) ∧
      Runs.Guarded (step setup) (Redelivers fromZero.batches) bare
        [start fromZero, .call .tick, .stop, start fromZero, .call .tick] ∧
      ¬AtMostOnce (run setup bare [start fromZero, .call .tick, .stop, start fromZero, .call .tick]).log := by
  refine ⟨by decide, by decide, fun once => ?_⟩
  have recorded : Recorded (run setup bare
      [start fromZero, .call .tick, .stop, start fromZero, .call .tick]).log 0 := by decide
  exact absurd (once 0 recorded) (by decide)

end Examples

end Lives

end Montana.Derivation
