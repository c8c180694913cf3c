import Montana.Roles.SequencerCriteria
import Montana.Roles.SequencerRecovery

/-! How large a batch gets. The catch-up loop and normal mode bound the blocks they cut,
the flush of a closed channel takes all that is pending, and nothing looks at
`max_batch_size`. -/

namespace Montana.Roles

def BatcherConfig.maxBatchBlocks (config : BatcherConfig) : Nat :=
  max maxBlocksHeavyBacklog config.maxBlocksPerBatch

namespace Sequencer

variable {Block Sink Store Tx : Type}

/-- A batch for L1 has at least one block, not too many, and no more data than allowed. -/
def WithinLimits (self : Sequencer Block Sink Store) (batch : CompressedBatch) : Prop :=
  0 < (self.blocksOf batch.batchNumber).length ∧
    (self.blocksOf batch.batchNumber).length ≤ self.batcherConfig.maxBatchBlocks ∧
    batch.data.length ≤ self.batcherConfig.maxBatchSize

instance (self : Sequencer Block Sink Store) (batch : CompressedBatch) :
    Decidable (self.WithinLimits batch) :=
  inferInstanceAs (Decidable (_ ∧ _ ∧ _))

/-- Every batch that was handed to `BatchSink::submit` is within the limits. -/
def SubmitsWithinLimits (self : Sequencer Block Sink Store) : Prop :=
  ∀ entry ∈ self.submissions, self.WithinLimits entry.1

instance (self : Sequencer Block Sink Store) : Decidable self.SubmitsWithinLimits :=
  inferInstanceAs (Decidable (∀ entry ∈ self.submissions, self.WithinLimits entry.1))

/-- No worker was spawned without blocks, or with more than `bound`. -/
def Sized (bound : Nat) (self : Sequencer Block Sink Store) : Prop :=
  ∀ worker ∈ self.spawned, 0 < worker.blocks.length ∧ worker.blocks.length ≤ bound

theorem Sized.same {bound : Nat} {before after : Sequencer Block Sink Store} (sized : Sized bound before)
    (spawned : after.spawned = before.spawned) : Sized bound after := by
  rw [Sized, spawned]
  exact sized

theorem dynamicMaxBlocks_bounds {self : Sequencer Block Sink Store}
    (positive : 0 < self.batcherConfig.maxBlocksPerBatch) (backlogDepth : Nat) :
    0 < self.dynamicMaxBlocks backlogDepth ∧
      self.dynamicMaxBlocks backlogDepth ≤ self.batcherConfig.maxBatchBlocks := by
  have light : maxBlocksLightBacklog ≤ maxBlocksHeavyBacklog := by decide
  have moderate : maxBlocksModerateBacklog ≤ maxBlocksHeavyBacklog := by decide
  unfold dynamicMaxBlocks BatcherConfig.maxBatchBlocks
  split
  · exact ⟨by decide, le_max_left _ _⟩
  · split
    · exact ⟨by decide, moderate.trans (le_max_left _ _)⟩
    · split
      · exact ⟨by decide, light.trans (le_max_left _ _)⟩
      · exact ⟨positive, le_max_right _ _⟩

section Cuts

variable [BlockResponse Block Tx] [BlockJson Block] [BatchSink Sink] [CheckpointStore Store]

/-- The number of bytes that the compressor makes of these blocks, where it makes any. -/
def compressedLength (compressor : Compressor) (blocks : List Block) : Nat :=
  match BlockJson.toBytes (OpBlockBatch.mk blocks) with
  | .error _ => 0
  | .ok batchData =>
    match compressor.compress batchData with
    | .error _ => 0
    | .ok compressedData => compressedData.length

omit [BatchSink Sink] [CheckpointStore Store] in
private theorem prepareBatchSync_length {compressor : Compressor} {worker : PreparationWorker Block}
    {prepared : PreparedBatch} (success : prepareBatchSync compressor worker = .ok prepared) :
    prepared.compressedBatch.data.length = compressedLength compressor worker.blocks := by
  obtain ⟨batchData, compressedData, written, compressed, rfl⟩ := prepareBatchSync_ok success
  simp only [compressedLength, written, compressed]

/-- How many blocks the last cut of a closed channel takes, if the tick comes to it. -/
def lastPending (self : Sequencer Block Sink Store) : Nat :=
  match self.accumulated with
  | some (true, filled) => filled.spawnWorkers.2.pendingBlocks.length
  | _ => 0

/-- The guard on a tick: where it finds the channel closed, its last cut is not too large. -/
def flushesWithin (self : Sequencer Block Sink Store) : Input Block → Prop
  | .tick schedule _ => lastPending { self with schedule } ≤ self.batcherConfig.maxBatchBlocks
  | _ => True

instance (self : Sequencer Block Sink Store) (input : Input Block) :
    Decidable (self.flushesWithin input) :=
  match input with
  | .tick schedule _ =>
    inferInstanceAs (Decidable (lastPending { self with schedule } ≤ self.batcherConfig.maxBatchBlocks))
  | .environment _ => .isTrue trivial
  | .resume _ => .isTrue trivial

omit [BatchSink Sink] [CheckpointStore Store] in
theorem Sized.cutBatch {bound : Nat} {self : Sequencer Block Sink Store} (sized : Sized bound self)
    (pending : self.pendingBlocks ≠ []) {count : Nat} (positive : 0 < count)
    (within : min count self.pendingBlocks.length ≤ bound) : Sized bound (self.cutBatch count) := by
  have some := List.length_pos_iff.mpr pending
  intro worker member
  rcases List.mem_append.mp member with old | new
  · exact sized worker old
  · have taken : worker.blocks.length = min count self.pendingBlocks.length := by
      rw [List.mem_singleton.mp new, preparationWorker, List.length_take]
    omega

omit [BatchSink Sink] [CheckpointStore Store] in
private theorem spawnCatchUp_sized (slots : Nat) {self : Sequencer Block Sink Store}
    {config : BatcherConfig}
    (same : self.batcherConfig = config) (positive : 0 < config.maxBlocksPerBatch)
    (sized : Sized config.maxBatchBlocks self) :
    Sized config.maxBatchBlocks (spawnCatchUp slots self).2 := by
  induction slots generalizing self with
  | zero => exact sized
  | succ slots ih =>
    unfold spawnCatchUp
    split
    · exact sized
    · rename_i some
      have elapsed := interfere_elapsed self
      have waited := sized.same elapsed.spawned
      have kept : self.interfere.batcherConfig = config := elapsed.batcherConfig.trans same
      have filled : self.interfere.pendingBlocks ≠ [] := by
        rw [elapsed.pendingBlocks]
        simpa using some
      simp only []
      split
      · exact waited
      · obtain ⟨above, below⟩ := dynamicMaxBlocks_bounds (by rw [kept]; exact positive)
          (self.interfere.pendingBlocks.length + self.interfere.blockRx.queue.length)
        rw [kept] at below
        have least := List.length_pos_iff.mpr filled
        exact ih kept (waited.cutBatch filled (by omega) (by omega))

omit [BatchSink Sink] [CheckpointStore Store] in
/-- Both modes cut at least one block and at most the largest dynamic maximum. -/
theorem spawnWorkers_sized {self : Sequencer Block Sink Store} {config : BatcherConfig}
    (same : self.batcherConfig = config) (positive : 0 < config.maxBlocksPerBatch)
    (sized : Sized config.maxBatchBlocks self) : Sized config.maxBatchBlocks self.spawnWorkers.2 := by
  have elapsed := interfere_elapsed self
  have later := elapsed.trans (interfere_elapsed self.interfere)
  unfold spawnWorkers
  simp only []
  split
  · rename_i free
    split
    · exact spawnCatchUp_sized _ (elapsed.batcherConfig.trans same) positive (sized.same elapsed.spawned)
    · split
      · have filled : self.interfere.interfere.pendingBlocks ≠ [] := by
          rw [later.pendingBlocks]
          intro none
          simp [none] at free
        have least := List.length_pos_iff.mpr filled
        have allowed : config.maxBlocksPerBatch ≤ config.maxBatchBlocks := le_max_right _ _
        rw [← later.batcherConfig.trans same] at positive allowed
        have waited := sized.same later.spawned
        exact waited.cutBatch filled (by omega) (by rw [later.batcherConfig.trans same] at allowed ⊢; omega)
      · exact sized.same later.spawned
  · exact sized

/-- No action of the sequencer or around it changes the configuration or the compressor. -/
theorem step_fixed {self next : Sequencer Block Sink Store} (step : Step self next) :
    next.batcherConfig = self.batcherConfig ∧ next.compressor = self.compressor := by
  cases step with
  | environment event =>
    exact ⟨(apply_elapsed self event).batcherConfig, (apply_elapsed self event).compressor⟩
  | reschedule schedule => exact ⟨rfl, rfl⟩
  | @collect result rest _ => cases result <;> exact ⟨rfl, rfl⟩
  | @submit prepared _ _ =>
    have handed := submitPreparedBatch_handed { self with readyBatches := self.readyBatches.pop } prepared
    exact ⟨handed.batcherConfig, handed.compressor⟩
  | @accumulate block rest _ => exact ⟨rfl, rfl⟩
  | cut count => exact ⟨rfl, rfl⟩

theorem steps_fixed {self next : Sequencer Block Sink Store} (steps : Steps self next) :
    next.batcherConfig = self.batcherConfig ∧ next.compressor = self.compressor := by
  induction steps with
  | refl => exact ⟨rfl, rfl⟩
  | tail _ last ih => exact ⟨(step_fixed last).1.trans ih.1, (step_fixed last).2.trans ih.2⟩

private theorem tick_sized {self : Sequencer Block Sink Store} {config : BatcherConfig}
    (same : self.batcherConfig = config) (positive : 0 < config.maxBlocksPerBatch)
    (sized : Sized config.maxBatchBlocks self) (within : self.lastPending ≤ config.maxBatchBlocks)
    (rounds : Nat) : Sized config.maxBatchBlocks (tick self rounds).2 := by
  cases reached : self.accumulated with
  | none =>
    obtain ⟨error, after, failed, ended⟩ := tick_failed reached rounds
    have cuts := ((delivers_cut self).submitReadyBatches (Cuts.none rfl rfl)).2 error after failed
    rw [ended]
    exact sized.same (by rw [cuts.spawned, List.append_nil])
  | some result =>
    obtain ⟨disconnected, filled⟩ := result
    have kept : filled.batcherConfig = config := (steps_fixed (accumulated_steps reached)).1.trans same
    have worked := spawnWorkers_sized kept positive (sized.same (accumulated_spawned reached))
    cases disconnected with
    | false =>
      rw [(tick_open reached rounds).1]
      exact worked
    | true =>
      have last : filled.spawnWorkers.2.pendingBlocks.length ≤ config.maxBatchBlocks := by
        simpa only [lastPending, reached] using within
      have cut : Sized config.maxBatchBlocks filled.lastCut := by
        unfold lastCut cutRemaining
        split
        · exact worked
        · rename_i some
          have filled' : filled.spawnWorkers.2.pendingBlocks ≠ [] := by simpa using some
          have least := List.length_pos_iff.mpr filled'
          exact worked.cutBatch filled' least (by omega)
      rw [tick_closed reached]
      exact cut.same (by rw [(flush_cuts rounds filled.lastCut).spawned, List.append_nil])

/-- What a run keeps: the configuration it started with, and the size of its batches. -/
structure Limited (start reached : Sequencer Block Sink Store) : Prop where
  batcherConfig : reached.batcherConfig = start.batcherConfig
  compressor : reached.compressor = start.compressor
  sized : Sized start.batcherConfig.maxBatchBlocks reached

theorem Limited.input {start self : Sequencer Block Sink Store} (input : Input Block)
    (positive : 0 < start.batcherConfig.maxBlocksPerBatch) (within : self.flushesWithin input)
    (limited : Limited start self) : Limited start (self.step input) := by
  cases input with
  | environment event =>
    have elapsed := apply_elapsed self event
    exact ⟨elapsed.batcherConfig.trans limited.batcherConfig, elapsed.compressor.trans limited.compressor,
      limited.sized.same elapsed.spawned⟩
  | tick schedule rounds =>
    have fixed := steps_fixed (step_steps self (.tick schedule rounds) nofun)
    have scheduled : Sized start.batcherConfig.maxBatchBlocks { self with schedule } :=
      limited.sized.same rfl
    have same : Sequencer.batcherConfig { self with schedule } = start.batcherConfig :=
      limited.batcherConfig
    have small : lastPending { self with schedule } ≤ start.batcherConfig.maxBatchBlocks := by
      rw [← limited.batcherConfig]
      exact within
    exact ⟨fixed.1.trans limited.batcherConfig, fixed.2.trans limited.compressor,
      tick_sized same positive scheduled small rounds⟩
  | resume checkpoint => exact ⟨limited.batcherConfig, limited.compressor, limited.sized⟩

private theorem Launched.limited_run {start : Sequencer Block Sink Store} (launched : start.Launched)
    (positive : 0 < start.batcherConfig.maxBlocksPerBatch) {inputs : List (Input Block)}
    (within : Runs.Guarded step flushesWithin start inputs) : Limited start (start.run inputs) := by
  refine Runs.invariant_guarded (Limited start) (fun _ input => Limited.input input positive) within ?_
  obtain ⟨_, _, _, _, _, spawned, _, _, _, _, _, _⟩ := launched.start
  exact ⟨rfl, rfl, by simp [Sized, spawned]⟩

omit [BlockResponse Block Tx] [BlockJson Block] [BatchSink Sink] [CheckpointStore Store] in
/-- A batch is cut from blocks that were sent one after the other. -/
theorem CutInOrder.infix_sent {self : Sequencer Block Sink Store} (cut : CutInOrder self)
    {worker : PreparationWorker Block} (spawned : worker ∈ self.spawned) :
    worker.blocks <:+: self.sent := by
  have inside : worker.blocks <:+: (self.spawned.map (·.blocks)).flatten :=
    List.infix_of_mem_flatten (List.mem_map_of_mem spawned)
  rw [cut.arrived, cut.cut, List.append_assoc, List.flatMap_def]
  exact inside.trans (List.prefix_append _ _).isInfix

/-- Every batch handed to the sink is within the limits, in every run in which blocks may
be batched at all, no flush cuts too many of them, and as many blocks as a batch may have
compress to no more than it may have. -/
theorem submissions_within_limits {start : Sequencer Block Sink Store} (launched : start.Launched)
    (positive : 0 < start.batcherConfig.maxBlocksPerBatch) (inputs : List (Input Block))
    (within : Runs.Guarded step flushesWithin start inputs)
    (fits : ∀ blocks, blocks <:+: (start.run inputs).sent → 0 < blocks.length →
      blocks.length ≤ start.batcherConfig.maxBatchBlocks →
      compressedLength start.compressor blocks ≤ start.batcherConfig.maxBatchSize) :
    (start.run inputs).SubmitsWithinLimits := by
  have limited := launched.limited_run positive within
  have ledger := launched.ledger_run inputs
  intro entry member
  obtain ⟨prepared, ⟨worker, spawned, success⟩, same⟩ := ledger.encoded.submissions entry member
  have number : entry.1.batchNumber = worker.batchNumber := by
    rw [← same]
    exact (prepareBatchSync_number success).2
  obtain ⟨some, bounded⟩ := limited.sized worker spawned
  have data : entry.1.data.length ≤ start.batcherConfig.maxBatchSize := by
    rw [limited.compressor] at success
    rw [← same, prepareBatchSync_length success]
    exact fits worker.blocks (ledger.cut.infix_sent spawned) some bounded
  rw [WithinLimits, number, ledger.cut.blocksOf_worker spawned, limited.batcherConfig]
  exact ⟨some, bounded, data⟩

end Cuts

section Examples

open Reference

def configured (config : BatcherConfig) : Sequencer UInt8 InMemoryBatchQueue Files :=
  startingFrom .fresh InMemoryBatchQueue.empty noop config none { queue := [] } (Files.mk []) 0

/-- Four batches of one block keep all workers busy while `late` blocks arrive, first as
many as a tick takes and then the rest; the senders are gone before any worker ends. -/
def busyFlush (late : Nat) : List (Input UInt8) :=
  (List.replicate 4 [.environment (.blockSent 7), .tick [] 0]).flatten ++
    [.tick [[], [], List.replicate late (.blockSent 8)] 0, .tick [] 0, .environment .senderDropped,
     .tick [[], [], [], List.replicate 5 (.workerDone 0 none)] 2]

/-- The three ways past the limits: a flush of 101 blocks, an empty batch where the
configured maximum is zero, and a byte where no data is allowed. -/
theorem limits_missed :
    (∀ config, (configured config).Launched) ∧
      ¬ ((configured { minBatchSize := 0 }).run (busyFlush 101)).SubmitsWithinLimits ∧
      ¬ ((configured { maxBlocksPerBatch := 0 }).run (oneBatch none)).SubmitsWithinLimits ∧
      ¬ ((configured { maxBatchSize := 0, minBatchSize := 0 }).run (oneBatch none)).SubmitsWithinLimits :=
  ⟨fun _ => .startingFrom rfl, by decide +kernel, by decide, by decide⟩

theorem submissions_within_limits_flush :
    ((configured { minBatchSize := 0 }).run (busyFlush 60)).SubmitsWithinLimits :=
  submissions_within_limits (.startingFrom rfl) (by decide) (busyFlush 60) (by decide +kernel)
    fun _ _ _ few => Nat.le_trans few (by decide)

end Examples

end Sequencer

end Montana.Roles
