import Montana.Common.Reference
import Montana.Derivation.Runner
import Montana.Lib.Runs

/-! Gaps in derivation: a batch that failed is not taken from the source again. -/

namespace Montana.Derivation

open Vm (Execution Executor)

/-- Every block contained in the batch was executed, and `execute_block` returned `Ok`. -/
def Attempt.FullyDerived [BlockJson Block] (compressor : Compressor) (attempt : Attempt Block Result) :
    Prop :=
  payload compressor attempt.batch = some (attempt.executions.map (·.block)) ∧
    ∀ execution ∈ attempt.executions, execution.outcome.isOk = true

/-- Whether the executor accepts all these blocks, and what it is afterwards: the
blocks after a refused one do not reach it. -/
def tryBlocks [Executor Exec Block Result] (executor : Exec) : List Block → Bool × Exec
  | [] => (true, executor)
  | block :: rest =>
    match Executor.executeBlock executor block with
    | (.error _, executor) => (false, executor)
    | (.ok _, executor) => tryBlocks executor rest

/-- Whether a batch can be decoded and all its blocks are accepted. -/
def tryBatch (Block : Type) [BlockJson Block] [Executor Exec Block Result] (compressor : Compressor)
    (executor : Exec) (batch : CompressedBatch) : Bool × Exec :=
  match (payload compressor batch : Option (List Block)) with
  | none => (false, executor)
  | some blocks => tryBlocks executor blocks

/-- The same for each of these batches, one after the other. -/
def tryBatches (Block : Type) [BlockJson Block] [Executor Exec Block Result] (compressor : Compressor)
    (executor : Exec) (batches : List CompressedBatch) : List Bool × Exec :=
  batches.foldl (fun (tried, executor) batch =>
    match tryBatch Block compressor executor batch with
    | (accepted, executor) => (tried ++ [accepted], executor)) ([], executor)

private theorem tryBatches_concat [BlockJson Block] [Executor Exec Block Result] (compressor : Compressor)
    (executor : Exec) (batches : List CompressedBatch) (batch : CompressedBatch) :
    tryBatches Block compressor executor (batches ++ [batch]) =
      ((tryBatches Block compressor executor batches).1 ++
          [(tryBatch Block compressor (tryBatches Block compressor executor batches).2 batch).1],
        (tryBatch Block compressor (tryBatches Block compressor executor batches).2 batch).2) := by
  simp [tryBatches, List.foldl_append]

/-- Nothing is accepted after something that was not. -/
def FailuresLast (outcomes : List Bool) : Prop :=
  outcomes.Pairwise fun earlier later => later = true → earlier = true

namespace DerivationRunner

variable {Block Source Exec Result Store Tx : Type}

/-- The source gave out the batches 1, 2, 3, … -/
def Sequential (self : DerivationRunner Block Source Exec Result Store) : Prop :=
  self.delivered.map (·.batchNumber) = List.range' 1 self.delivered.length

/-- Every batch delivered up to the one in the checkpoint was fully derived. -/
def NoGap [BlockJson Block] (self : DerivationRunner Block Source Exec Result Store) : Prop :=
  ∀ batch ∈ self.delivered, batch.batchNumber ≤ self.checkpoint.lastBatchDerived →
    ∃ attempt ∈ self.attempts, attempt.batch = batch ∧ attempt.FullyDerived self.compressor

/-- How the checkpoint and the attempts of a runner hang together, since it was started. -/
structure Tracked [BlockJson Block] [Executor Exec Block Result]
    (runner start : DerivationRunner Block Source Exec Result Store) : Prop where
  compressor : runner.compressor = start.compressor
  tried : tryBatches Block start.compressor start.executor runner.delivered =
    (runner.attempts.map (·.failure.isNone), runner.executor)
  attempted : runner.attempts.map (·.batch) = runner.delivered
  shaped : ∀ attempt ∈ runner.attempts,
    attempt.failure = none ↔ attempt.FullyDerived runner.compressor
  reached : ∀ attempt ∈ runner.attempts, attempt.failure = none →
    attempt.batch.batchNumber ≤ runner.checkpoint.lastBatchDerived
  attained : runner.checkpoint.lastBatchDerived = 0 ∨ ∃ attempt ∈ runner.attempts,
    attempt.failure = none ∧ attempt.batch.batchNumber = runner.checkpoint.lastBatchDerived

section Invariant

variable [BlockJson Block] [Executor Exec Block Result]

theorem Tracked.number {self start : DerivationRunner Block Source Exec Result Store}
    (tracked : self.Tracked start) (sequential : self.Sequential) (index : Nat)
    (inside : index < self.attempts.length) :
    (self.attempts[index]).batch.batchNumber = index + 1 := by
  have numbers : self.attempts.map (·.batch.batchNumber) = List.range' 1 self.attempts.length := by
    have length := congrArg List.length tracked.attempted
    rw [List.length_map] at length
    have all := sequential
    rw [Sequential, ← tracked.attempted, List.map_map, List.length_map] at all
    exact all
  have here := congrArg (·[index]?) numbers
  simp [inside] at here
  omega

/-- The checkpoint is sound exactly when no failure was passed over. -/
theorem Tracked.noGap_iff {self start : DerivationRunner Block Source Exec Result Store}
    (tracked : self.Tracked start) (sequential : self.Sequential) : self.NoGap ↔
      FailuresLast (tryBatches Block start.compressor start.executor self.delivered).1 := by
  simp only [tracked.tried, FailuresLast, List.pairwise_map, Option.isNone_iff_eq_none]
  constructor
  · intro noGap
    refine List.pairwise_iff_getElem.mpr fun first second before inside ordered derived => ?_
    have later := tracked.reached _ (List.getElem_mem inside) derived
    rw [tracked.number sequential] at later
    have delivered : (self.attempts[first]).batch ∈ self.delivered := by
      rw [← tracked.attempted]
      exact List.mem_map_of_mem (List.getElem_mem before)
    obtain ⟨attempt, member, same, fully⟩ := noGap _ delivered
      (by rw [tracked.number sequential]; omega)
    obtain ⟨index, bound, found⟩ := List.getElem_of_mem member
    have number := congrArg CompressedBatch.batchNumber same
    rw [← found, tracked.number sequential, tracked.number sequential] at number
    have index : index = first := by omega
    subst index
    rw [found]
    exact (tracked.shaped attempt member).mpr fully
  · intro stopped batch delivered below
    rw [← tracked.attempted] at delivered
    obtain ⟨attempt, member, same⟩ := List.mem_map.mp delivered
    refine ⟨attempt, member, same, (tracked.shaped attempt member).mp ?_⟩
    obtain ⟨index, bound, found⟩ := List.getElem_of_mem member
    have number := tracked.number sequential index bound
    rw [found, same] at number
    rcases tracked.attained with none | ⟨last, listed, derived, latest⟩
    · omega
    · obtain ⟨other, inside, here⟩ := List.getElem_of_mem listed
      have top := tracked.number sequential other inside
      rw [here, latest] at top
      rcases Nat.lt_or_eq_of_le (show index ≤ other by omega) with before | rfl
      · have earlier := List.pairwise_iff_getElem.mp stopped index other bound inside before
        rw [found, here] at earlier
        exact earlier derived
      · rw [← found, here]
        exact derived

omit [BlockJson Block] [Executor Exec Block Result] in
theorem Sequential.before {self next : DerivationRunner Block Source Exec Result Store}
    {batch : CompressedBatch} (grown : next.delivered = self.delivered ++ [batch])
    (sequential : next.Sequential) :
    self.Sequential ∧ batch.batchNumber = self.delivered.length + 1 := by
  rw [Sequential, grown, List.map_append, List.length_append, List.length_singleton,
    List.range'_1_concat] at sequential
  obtain ⟨before, last⟩ := List.append_inj' sequential rfl
  exact ⟨before, by simpa [Nat.add_comm] using last⟩

/-- In a sequence the checkpoint lies before every new batch. -/
theorem Tracked.below {self start : DerivationRunner Block Source Exec Result Store}
    (tracked : self.Tracked start) (sequential : self.Sequential) :
    self.checkpoint.lastBatchDerived ≤ self.delivered.length := by
  rcases tracked.attained with none | ⟨attempt, member, _, latest⟩
  · omega
  · obtain ⟨index, inside, found⟩ := List.getElem_of_mem member
    have number := tracked.number sequential index inside
    have length := congrArg List.length tracked.attempted
    rw [List.length_map] at length
    rw [found, latest] at number
    omega

/-- `next` is reached from `runner` by this attempt at a new batch. -/
structure AttemptStep (runner next : DerivationRunner Block Source Exec Result Store)
    (attempt : Attempt Block Result) : Prop where
  tried : tryBatch Block runner.compressor runner.executor attempt.batch =
    (attempt.failure.isNone, next.executor)
  shaped : attempt.failure = none ↔ attempt.FullyDerived runner.compressor
  compressor : next.compressor = runner.compressor
  attempts : next.attempts = runner.attempts ++ [attempt]
  derived : next.checkpoint.lastBatchDerived =
    if attempt.failure = none then max runner.checkpoint.lastBatchDerived attempt.batch.batchNumber
    else runner.checkpoint.lastBatchDerived

theorem Tracked.attempt {self next start : DerivationRunner Block Source Exec Result Store}
    {attempt : Attempt Block Result} (tracked : self.Tracked start)
    (step : AttemptStep self next attempt)
    (delivered : next.delivered = self.delivered ++ [attempt.batch])
    (ahead : self.checkpoint.lastBatchDerived < attempt.batch.batchNumber) : next.Tracked start := by
  obtain ⟨compressor, tried, attempted, shaped, reached, attained⟩ := tracked
  refine ⟨step.compressor.trans compressor, ?_, ?_, ?_, ?_, ?_⟩
  · rw [delivered, tryBatches_concat, tried, ← compressor, step.tried, step.attempts]
    simp
  · simp [step.attempts, delivered, attempted]
  · rw [step.attempts, step.compressor]
    intro other member
    rcases List.mem_append.mp member with old | new
    · exact shaped other old
    · rw [List.mem_singleton.mp new]
      exact step.shaped
  · rw [step.attempts, step.derived]
    intro other member success
    rcases List.mem_append.mp member with old | new
    · have before := reached other old success
      split <;> omega
    · have same := List.mem_singleton.mp new
      subst same
      rw [if_pos success]
      exact Nat.le_max_right _ _
  · rw [step.attempts, step.derived]
    split
    · rename_i success
      exact .inr ⟨attempt, by simp, success, by omega⟩
    · rcases attained with none | ⟨other, member, success, latest⟩
      · exact .inl none
      · exact .inr ⟨other, List.mem_append_left _ member, success, latest⟩

omit [BlockJson Block] [Executor Exec Block Result] in
theorem shouldSkipBatch_iff (self : DerivationRunner Block Source Exec Result Store) (batchNumber : Nat) :
    self.shouldSkipBatch batchNumber = true ↔
      0 < self.checkpoint.lastBatchDerived ∧ batchNumber ≤ self.checkpoint.lastBatchDerived := by
  simp [shouldSkipBatch, Nat.pos_iff_ne_zero]

end Invariant

section Steps

variable [BlockResponse Block Tx] [BlockJson Block] [L1BatchSource Source]
variable [Executor Exec Block Result] [CheckpointStore Store]

omit [BlockJson Block] in
private theorem executeBlocks_tried (executor : Exec) (batchNumber : Nat) (blocks : List Block) :
    tryBlocks executor blocks = ((executeBlocks executor batchNumber blocks).2.1.isNone,
      (executeBlocks executor batchNumber blocks).2.2) := by
  induction blocks generalizing executor with
  | nil => rfl
  | cons block rest ih =>
    cases executed : Executor.executeBlock executor block with
    | mk outcome after =>
      cases outcome with
      | error e => simp [tryBlocks, executeBlocks, executed]
      | ok result => simp only [tryBlocks, executeBlocks, executed, ih]

omit [BlockJson Block] in
/-- The loop ends without a failure exactly when every block was executed successfully. -/
theorem executeBlocks_failure (executor : Exec) (batchNumber : Nat) (blocks : List Block) :
    (executeBlocks executor batchNumber blocks).2.1 = none ↔
      (executeBlocks executor batchNumber blocks).1.map (·.block) = blocks ∧
        ∀ execution ∈ (executeBlocks executor batchNumber blocks).1,
          execution.outcome.isOk = true := by
  induction blocks generalizing executor with
  | nil => simp [executeBlocks]
  | cons block rest ih =>
    unfold executeBlocks
    split
    · simp [Except.isOk, Except.toBool]
    · rename_i result after _
      simpa [Except.isOk, Except.toBool] using ih after

omit [L1BatchSource Source] [CheckpointStore Store] in
/-- An attempt is recorded in any case, and says whether the batch was fully derived. -/
theorem attemptBatch_cases (self : DerivationRunner Block Source Exec Result Store)
    (batch : CompressedBatch) :
    ∃ attempt executor, attempt.batch = batch ∧
      tryBatch Block self.compressor self.executor batch = (attempt.failure.isNone, executor) ∧
      (attempt.failure = none ↔ attempt.FullyDerived self.compressor) ∧
      (attempt.failure = none ↔ ∃ size, (self.attemptBatch batch).1 = .ok size) ∧
      attempt.executions = (executeBlocks self.executor batch.batchNumber
        ((payload self.compressor batch).getD [])).1 ∧
      (self.attemptBatch batch).2 = { self with executor, attempts := self.attempts ++ [attempt] } := by
  unfold attemptBatch Attempt.FullyDerived tryBatch payload
  cases unpacked : self.compressor.decompress batch.data with
  | error e =>
    simp only []
    exact ⟨_, self.executor, rfl, rfl, by simp [unpacked], by simp, rfl, rfl⟩
  | ok data =>
    cases read : (BlockJson.fromBytes data : Except String (OpBlockBatch Block)) with
    | error e =>
      simp only [read]
      exact ⟨_, self.executor, rfl, rfl, by simp [unpacked, read], by simp, rfl, rfl⟩
    | ok blockBatch =>
      have tried := executeBlocks_tried self.executor batch.batchNumber blockBatch.blocks
      have ended := executeBlocks_failure self.executor batch.batchNumber blockBatch.blocks
      cases looped : executeBlocks self.executor batch.batchNumber blockBatch.blocks with
      | mk executions rest =>
        obtain ⟨failure, executor⟩ := rest
        rw [looped] at tried ended
        refine ⟨⟨batch, executions, failure⟩, executor, rfl, ?_, ?_, ?_, ?_, ?_⟩
        · simpa only [read] using tried
        · refine ended.trans (and_congr_left' ?_)
          simp only [unpacked, read, Option.some.injEq]
          exact eq_comm
        · cases failure <;> simp [read, looped]
        · simp only [read, Option.getD_some, looped]
        · cases failure <;> simp [read, looped]

/-- The checkpoint after a batch was recorded. -/
def checkpointAfter (self : DerivationRunner Block Source Exec Result Store) (batchNumber : Nat) :
    Checkpoint :=
  (self.checkpoint.recordBatchDerived batchNumber).touch self.wallClock

omit [L1BatchSource Source] in
/-- The ends of `derive_batch`: the batch is skipped, or its attempt fails and nothing
is recorded, or the checkpoint moves, whether or not it can be saved. -/
theorem deriveBatch_ends (self : DerivationRunner Block Source Exec Result Store)
    (batch : CompressedBatch) (deriveTime : Nat) :
    (self.shouldSkipBatch batch.batchNumber = true ∧
      self.deriveBatch batch deriveTime = (.ok none, self)) ∨
    self.shouldSkipBatch batch.batchNumber = false ∧ ∃ attempt executor, attempt.batch = batch ∧
      tryBatch Block self.compressor self.executor batch = (attempt.failure.isNone, executor) ∧
      (attempt.failure = none ↔ attempt.FullyDerived self.compressor) ∧
      attempt.executions = (executeBlocks self.executor batch.batchNumber
        ((payload self.compressor batch).getD [])).1 ∧
      ((attempt.failure ≠ none ∧ ∃ e, self.deriveBatch batch deriveTime =
          (.error e, { self with executor, attempts := self.attempts ++ [attempt] })) ∨
        attempt.failure = none ∧ ∃ saved store answer metrics submissionTimes batchBlockCounts lastFinalizedBlock,
          Checkpoint.saveIfEnabled self.store self.checkpointPath (self.checkpointAfter batch.batchNumber) =
            (saved, store) ∧
          (saved = .ok () ↔ ∃ metrics, answer = .ok (some metrics)) ∧
          self.deriveBatch batch deriveTime = (answer, { self with
            executor, store, metrics, submissionTimes, batchBlockCounts, lastFinalizedBlock
            attempts := self.attempts ++ [attempt]
            checkpoint := self.checkpointAfter batch.batchNumber })) := by
  unfold deriveBatch
  by_cases skips : self.shouldSkipBatch batch.batchNumber = true
  · exact .inl ⟨skips, by rw [if_pos skips]⟩
  · refine .inr ⟨by simpa using skips, ?_⟩
    rw [if_neg skips]
    obtain ⟨attempt, executor, same, tried, shaped, outcome, executions, after⟩ :=
      attemptBatch_cases self batch
    refine ⟨attempt, executor, same, tried, shaped, executions, ?_⟩
    cases attempted : self.attemptBatch batch with
    | mk answer next =>
      rw [attempted] at outcome after
      simp only [] at after
      subst after
      cases answer with
      | error e => exact .inl ⟨by simp [outcome], e, rfl⟩
      | ok size =>
        refine .inr ⟨by simp [outcome], ?_⟩
        cases saved : Checkpoint.saveIfEnabled self.store self.checkpointPath
            (self.checkpointAfter batch.batchNumber) with
        | mk result store =>
          simp only [checkpointAfter] at saved
          simp only [recordBatchDerived, saved]
          cases result with
          | error e =>
            exact ⟨.error e, store, .error (.internalError s!"Checkpoint error: {e.display}"),
              self.metrics, self.submissionTimes, self.batchBlockCounts, self.lastFinalizedBlock, rfl,
              by simp, rfl⟩
          | ok done =>
            exact ⟨.ok (), store, .ok (some _), _, _, _, _, rfl, by simp, rfl⟩

omit [L1BatchSource Source] in
/-- What a delivered batch does: it is skipped, or attempted and counted if fully derived. -/
theorem deriveBatch_cases (self : DerivationRunner Block Source Exec Result Store)
    (batch : CompressedBatch) (deriveTime : Nat) :
    (self.deriveBatch batch deriveTime).2.delivered = self.delivered ∧
      (self.deriveBatch batch deriveTime).2.source = self.source ∧
      (self.shouldSkipBatch batch.batchNumber = true ∨
        ∃ attempt, attempt.batch = batch ∧
          AttemptStep self (self.deriveBatch batch deriveTime).2 attempt) := by
  rcases deriveBatch_ends self batch deriveTime with ⟨skips, same⟩ |
    ⟨_, attempt, executor, rfl, tried, shaped, _, ⟨failed, e, same⟩ |
      ⟨derived, saved, store, answer, metrics, submissionTimes, batchBlockCounts, lastFinalizedBlock,
        _, _, same⟩⟩ <;> rw [same]
  · exact ⟨rfl, rfl, .inl skips⟩
  · exact ⟨rfl, rfl, .inr ⟨attempt, rfl, tried, shaped, rfl, rfl, by simp [failed]⟩⟩
  · exact ⟨rfl, rfl, .inr ⟨attempt, rfl, tried, shaped, rfl, rfl, by simp [derived, checkpointAfter]⟩⟩

theorem Tracked.tick {self start : DerivationRunner Block Source Exec Result Store}
    (tracked : self.Sequential → self.Tracked start) :
    self.tick.2.Sequential → self.tick.2.Tracked start := by
  unfold DerivationRunner.tick
  split
  · exact tracked
  · split
    · rename_i batch source _
      intro sequential
      obtain ⟨delivered, _, derived⟩ := deriveBatch_cases
        { self with source, delivered := self.delivered ++ [batch] } batch self.clock
      obtain ⟨before, number⟩ := Sequential.before delivered sequential
      have tracked := tracked before
      have ahead : self.checkpoint.lastBatchDerived < batch.batchNumber := by
        rw [number]
        exact Nat.lt_succ_of_le (tracked.below before)
      rcases derived with skips | ⟨attempt, same, step⟩
      · exact absurd ((shouldSkipBatch_iff _ _).mp skips).2 (Nat.not_le.mpr ahead)
      · subst same
        have step : AttemptStep self _ attempt :=
          ⟨step.tried, step.shaped, step.compressor, step.attempts, step.derived⟩
        exact tracked.attempt step delivered ahead
    · exact fun sequential => { tracked sequential with }
    · exact fun sequential => { tracked sequential with }

theorem Tracked.input {self start : DerivationRunner Block Source Exec Result Store} (input : Input)
    (tracked : self.Sequential → self.Tracked start) :
    (self.step input).Sequential → (self.step input).Tracked start := by
  cases input with
  | tick => exact Tracked.tick tracked
  | pause => exact fun sequential => { tracked sequential with }
  | resume => exact fun sequential => { tracked sequential with }
  | togglePause => exact fun sequential => { tracked sequential with }
  | recordSubmission batchNumber submitTime => exact fun sequential => { tracked sequential with }
  | recordBatchBlockCount batchNumber blockCount => exact fun sequential => { tracked sequential with }
  | clockAdvanced elapsed => exact fun sequential => { tracked sequential with }
  | wallClockSet unixSeconds => exact fun sequential => { tracked sequential with }

omit [BlockResponse Block Tx] [BlockJson Block] [L1BatchSource Source] [Executor Exec Block Result] in
theorem withCheckpoint_frame {self next : DerivationRunner Block Source Exec Result Store} {path : String}
    (loaded : self.withCheckpoint path = .ok next) :
    ∃ checkpoint, next = { self with checkpoint, checkpointPath := some path } := by
  unfold DerivationRunner.withCheckpoint at loaded
  cases read : CheckpointStore.load self.store path with
  | error e =>
    rw [read] at loaded
    cases loaded
  | ok checkpoint =>
    rw [read] at loaded
    cases loaded
    exact ⟨_, rfl⟩

/-- What the constructors of the runner give out, with or without a checkpoint file. -/
inductive Launched : DerivationRunner Block Source Exec Result Store → Prop where
  | withStartBlock (source : Source) (compressor : Compressor) (config : DerivationConfig)
      (executor : Exec) (store : Store) (startBlock : Nat) :
      Launched (DerivationRunner.withStartBlock source compressor config executor store startBlock)
  | withCheckpoint {self next : DerivationRunner Block Source Exec Result Store} {path : String}
      (launched : Launched self) (loaded : self.withCheckpoint path = .ok next) : Launched next

omit [BlockResponse Block Tx] [BlockJson Block] [L1BatchSource Source] [Executor Exec Block Result] in
theorem Launched.start {self : DerivationRunner Block Source Exec Result Store}
    (launched : self.Launched) : self.delivered = [] ∧ self.attempts = [] := by
  induction launched with
  | withStartBlock => exact ⟨rfl, rfl⟩
  | @withCheckpoint self next path _ loaded ih =>
    obtain ⟨checkpoint, rfl⟩ := withCheckpoint_frame loaded
    exact ih

private theorem Launched.tracked_run {start : DerivationRunner Block Source Exec Result Store}
    (launched : start.Launched) (fresh : start.checkpoint.lastBatchDerived = 0)
    (inputs : List Input) (sequential : (start.run inputs).Sequential) :
    (start.run inputs).Tracked start := by
  obtain ⟨delivered, attempts⟩ := launched.start
  have initially : start.Tracked start :=
    ⟨rfl, by simp [tryBatches, delivered, attempts], by simp [delivered, attempts], by simp [attempts],
      by simp [attempts], .inl fresh⟩
  exact Runs.invariant_run
    (fun runner : DerivationRunner Block Source Exec Result Store =>
      runner.Sequential → runner.Tracked start)
    inputs (fun _ input _ => Tracked.input input) (fun _ => initially) sequential

/-- Over a source that yields 1, 2, 3, …, the checkpoint leaves no gap exactly as long
as no batch that can be derived comes after one that cannot. -/
theorem noGap_iff_failuresLast {start : DerivationRunner Block Source Exec Result Store}
    (launched : start.Launched) (fresh : start.checkpoint.lastBatchDerived = 0)
    (inputs : List Input) (sequential : (start.run inputs).Sequential) :
    (start.run inputs).NoGap ↔ FailuresLast
      (tryBatches Block start.compressor start.executor (start.run inputs).delivered).1 :=
  (launched.tracked_run fresh inputs sequential).noGap_iff sequential

end Steps

section Examples

open Reference

/-- A fresh runner that finds these batches on L1 and whose executor refuses block 7. -/
def runnerOn (batches : List (List UInt8)) :
    DerivationRunner UInt8 InMemoryBatchQueue (Vm.PersistentExecutor Nat UInt8) Unit Files :=
  new (queueOf batches) noop {} (refusing 7) ⟨[]⟩

theorem noGap_after_last_failure : ((runnerOn [[5], [6], [7]]).run [.tick, .tick, .tick]).NoGap :=
  (noGap_iff_failuresLast (.withStartBlock _ _ _ _ _ _) rfl [.tick, .tick, .tick]
    (by unfold Sequential; decide)).mpr (by unfold FailuresLast; decide)

/-- Batch 1 fails in execution, the caller ticks again, and batch 2 is recorded as derived. -/
theorem failed_batch_passed_over :
    (runnerOn [[7], [8]]).Launched ∧ ((runnerOn [[7], [8]]).run [.tick, .tick]).Sequential ∧
      ((runnerOn [[7], [8]]).run [.tick, .tick]).checkpoint.lastBatchDerived = 2 ∧
      ¬ ((runnerOn [[7], [8]]).run [.tick, .tick]).NoGap := by
  have launched : (runnerOn [[7], [8]]).Launched := .withStartBlock _ _ _ _ _ _
  have sequential : ((runnerOn [[7], [8]]).run [.tick, .tick]).Sequential := by
    unfold Sequential
    decide
  refine ⟨launched, sequential, by decide, fun noGap => ?_⟩
  have tracked := launched.tracked_run rfl [.tick, .tick] sequential
  have last := (tracked.noGap_iff sequential).mp noGap
  unfold FailuresLast at last
  exact absurd last (by decide)

end Examples

end DerivationRunner

end Montana.Derivation
