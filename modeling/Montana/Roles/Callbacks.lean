import Montana.Roles.SequencerLimits
import Montana.Roles.ValidatorSoundness

/-! What the callbacks of the two roles are told, against what the roles did. -/

namespace Montana.Roles

/-- What is said of a batch: its number, how many blocks it has, the first and the last. -/
structure BatchHeader where
  batchNumber : Nat
  blockCount : Nat
  firstBlock : Nat
  lastBlock : Nat
  deriving DecidableEq, Repr

def BatchHeader.ofBatch (batch : CompressedBatch) : BatchHeader :=
  ⟨batch.batchNumber, batch.blockCount, batch.firstBlock, batch.lastBlock⟩

def BatchHeader.ofCall (call : BatchSubmittedCall) : BatchHeader :=
  ⟨call.batchNumber, call.blockCount, call.firstBlock, call.lastBlock⟩

def derivedBlock : DerivationCall → Option (Nat × Nat)
  | .blockDerived blockNumber txCount _ => some (blockNumber, txCount)
  | _ => none

def derivedHeader : DerivationCall → Option BatchHeader
  | .batchDerived batchNumber blockCount firstBlock lastBlock =>
    some ⟨batchNumber, blockCount, firstBlock, lastBlock⟩
  | _ => none

/-- A block as the callbacks tell of it. -/
def telling [BlockResponse Block Tx] (block : Block) : Nat × Nat :=
  (BlockResponse.number block, (BlockResponse.transactions block).length)

namespace Sequencer

variable {Block Sink Store Tx : Type}

def batchCalls (self : Sequencer Block Sink Store) : List BatchSubmittedCall :=
  self.batchCallback.getD []

/-- The call that tells of a prepared batch, included in this L1 block. -/
def callOf (prepared : PreparedBatch) (l1BlockNumber : Nat) : BatchSubmittedCall where
  batchNumber := prepared.batchNumber
  blockCount := prepared.blockCount
  firstBlock := prepared.firstBlock
  lastBlock := prepared.lastBlock
  uncompressedSize := prepared.uncompressedSize
  compressedSize := prepared.compressedSize
  blockTxCounts := prepared.blockTxCounts
  l1BlockNumber := l1BlockNumber

variable [BlockJson Block]

/-- The call tells of the batch that was handed over. -/
def Announces (self : Sequencer Block Sink Store) (call : BatchSubmittedCall)
    (entry : CompressedBatch × Except SinkError SubmissionReceipt) : Prop :=
  ∃ prepared l1BlockNumber, self.Encodes prepared ∧ prepared.compressedBatch = entry.1 ∧
    call = callOf prepared l1BlockNumber

/-- The callback is there and was told of every submission, in their order. -/
structure Announced (sequencer : Sequencer Block Sink Store) : Prop where
  attached : sequencer.batchCallback.isSome = true
  calls : List.Forall₂ sequencer.Announces sequencer.batchCalls sequencer.submissions

theorem Announced.same {before after : Sequencer Block Sink Store} (announced : before.Announced)
    (callback : after.batchCallback = before.batchCallback) (submissions : after.submissions = before.submissions)
    (compressor : after.compressor = before.compressor) (spawned : before.spawned ⊆ after.spawned) :
    after.Announced := by
  obtain ⟨attached, calls⟩ := announced
  constructor
  · rw [callback]
    exact attached
  · rw [batchCalls, callback, submissions]
    refine calls.imp ?_
    intro call entry ⟨prepared, l1BlockNumber, ⟨worker, member, success⟩, same, told⟩
    exact ⟨prepared, l1BlockNumber, ⟨worker, spawned member, by rw [compressor]; exact success⟩, same, told⟩

section Steps

variable [BatchSink Sink] [CheckpointStore Store]

omit [BlockJson Block] in
/-- The callback is told of a batch that was submitted and saved, and of nothing else. -/
theorem submitPreparedBatch_told (self : Sequencer Block Sink Store) (prepared : PreparedBatch) :
    ((self.checkpoint.shouldSkipBatch prepared.batchNumber = true ∨
        (self.submitPreparedBatch prepared).2.faults ≠ []) ∧
      (self.submitPreparedBatch prepared).2.batchCallback = self.batchCallback) ∨
    ∃ receipt, (self.submitPreparedBatch prepared).2.submissions =
        self.submissions ++ [(prepared.compressedBatch, .ok receipt)] ∧
      (self.submitPreparedBatch prepared).2.batchCallback =
        self.batchCallback.map (· ++ [callOf prepared receipt.l1Block]) := by
  unfold submitPreparedBatch
  simp only []
  split
  · rename_i skips
    exact .inl ⟨.inl skips, rfl⟩
  · split
    · exact .inl ⟨.inr (by simp), rfl⟩
    · rename_i receipt batchSink taken
      split <;> rename_i saved <;> obtain ⟨store, same⟩ := saveCheckpoint_frame saved <;> subst same
      · exact .inl ⟨.inr (by simp), rfl⟩
      · exact .inr ⟨receipt, rfl, rfl⟩

variable [BlockResponse Block Tx]

theorem Announced.step {self next : Sequencer Block Sink Store} (step : Step self next) (encoded : self.Encoded)
    (ordered : self.Ordered) (clean : next.faults = []) (announced : self.Announced) : next.Announced := by
  cases step with
  | environment event =>
    rcases apply_cases self event with ⟨_, same⟩ | ⟨_, _, _, _, _, same⟩ | ⟨_, _, _, same⟩ <;> rw [same] <;>
      exact announced.same rfl rfl rfl (List.Subset.refl _)
  | reschedule schedule => exact announced.same rfl rfl rfl (List.Subset.refl _)
  | @collect result rest _ => cases result <;> exact announced.same rfl rfl rfl (List.Subset.refl _)
  | @submit prepared shown following =>
    have handed := submitPreparedBatch_handed { self with readyBatches := self.readyBatches.pop } prepared
    have told := submitPreparedBatch_told { self with readyBatches := self.readyBatches.pop } prepared
    obtain ⟨worker, member, success⟩ := encoded.ready prepared (PriorityQueue.peek_mem shown)
    obtain ⟨attached, calls⟩ := announced
    revert handed told clean
    generalize (submitPreparedBatch { self with readyBatches := self.readyBatches.pop } prepared).2 = after
    intro clean handed told
    rcases told with ⟨skips | faulty, _⟩ | ⟨receipt, submissions, callback⟩
    · exact absurd (following ▸ skips) ordered.next_not_skipped
    · exact absurd clean faulty
    · obtain ⟨earlier, present⟩ := Option.isSome_iff_exists.mp attached
      have told : after.batchCallback = some (earlier ++ [callOf prepared receipt.l1Block]) :=
        callback.trans (congrArg (Option.map _) present)
      have compressor : after.compressor = self.compressor := handed.compressor
      have spawned : after.spawned = self.spawned := handed.spawned
      constructor
      · rw [told]
        rfl
      · have before : self.batchCalls = earlier := by rw [batchCalls, present]; rfl
        have afterwards : after.batchCalls = earlier ++ [callOf prepared receipt.l1Block] := by
          rw [batchCalls, told]
          rfl
        have grown {call entry} (announces : self.Announces call entry) : after.Announces call entry := by
          obtain ⟨other, l1BlockNumber, ⟨cut, listed, made⟩, same⟩ := announces
          exact ⟨other, l1BlockNumber, ⟨cut, spawned ▸ listed, compressor ▸ made⟩, same⟩
        rw [afterwards, submissions, ← before]
        refine List.rel_append (calls.imp fun _ _ => grown) (.cons ?_ .nil)
        exact grown ⟨prepared, receipt.l1Block, ⟨worker, member, success⟩, rfl, rfl⟩
  | @accumulate block rest _ => exact announced.same rfl rfl rfl (List.Subset.refl _)
  | cut count => exact announced.same rfl rfl rfl (List.subset_append_left _ _)

private theorem step_batchCalls {self next : Sequencer Block Sink Store} (step : Step self next) :
    self.batchCalls <+: next.batchCalls := by
  cases step with
  | environment event =>
    rcases apply_cases self event with ⟨_, same⟩ | ⟨_, _, _, _, _, same⟩ | ⟨_, _, _, same⟩ <;> rw [same] <;>
      exact List.prefix_rfl
  | reschedule schedule => exact List.prefix_rfl
  | @collect result rest _ => cases result <;> exact List.prefix_rfl
  | @submit prepared shown following =>
    rcases submitPreparedBatch_told { self with readyBatches := self.readyBatches.pop } prepared with
      ⟨_, same⟩ | ⟨receipt, _, callback⟩
    · rewrite [batchCalls, batchCalls, same]
      exact List.prefix_rfl
    · rw [batchCalls, batchCalls, callback]
      cases self.batchCallback with
      | none => exact List.prefix_rfl
      | some earlier => exact List.prefix_append _ _
  | @accumulate block rest _ => exact List.prefix_rfl
  | cut count => exact List.prefix_rfl

private theorem step_sent {self next : Sequencer Block Sink Store} (step : Step self next) :
    self.sent <+: next.sent := by
  cases step with
  | environment event =>
    rcases apply_cases self event with ⟨_, same⟩ | ⟨_, _, _, _, _, same⟩ | ⟨_, _, _, same⟩ <;> rewrite [same]
    · exact List.prefix_append _ _
    · exact List.prefix_rfl
    · exact List.prefix_rfl
  | reschedule schedule => exact List.prefix_rfl
  | @collect result rest _ => cases result <;> exact List.prefix_rfl
  | @submit prepared shown following =>
    rcases submitPreparedBatch_cases { self with readyBatches := self.readyBatches.pop } prepared with
      ⟨_, same⟩ | ⟨_, _, _, _, _, same⟩ | ⟨_, _, _, _, _, _, same⟩ | ⟨_, _, _, _, _, _, _, same⟩ <;> rewrite [same] <;>
      exact List.prefix_rfl
  | @accumulate block rest _ => exact List.prefix_rfl
  | cut count => exact List.prefix_rfl

theorem steps_grow {self next : Sequencer Block Sink Store} (steps : Steps self next) :
    self.batchCalls <+: next.batchCalls ∧ self.sent <+: next.sent := by
  induction steps with
  | refl => exact ⟨List.prefix_rfl, List.prefix_rfl⟩
  | tail _ last ih => exact ⟨ih.1.trans (step_batchCalls last), ih.2.trans (step_sent last)⟩

end Steps

/-- No batch was cut without a block. -/
def HasBlocks (self : Sequencer Block Sink Store) : Prop := ∀ worker ∈ self.spawned, worker.blocks ≠ []

omit [BlockJson Block] in
theorem HasBlocks.same {before after : Sequencer Block Sink Store} (hasBlocks : before.HasBlocks)
    (spawned : after.spawned = before.spawned) : after.HasBlocks := by
  rw [HasBlocks, spawned]
  exact hasBlocks

section HasBlocks

variable [BlockResponse Block Tx]

theorem HasBlocks.cutBatch {self : Sequencer Block Sink Store} (hasBlocks : self.HasBlocks)
    (pending : self.pendingBlocks ≠ []) {count : Nat} (positive : 0 < count) :
    (self.cutBatch count).HasBlocks := by
  intro worker member
  rcases List.mem_append.mp member with old | new
  · exact hasBlocks worker old
  · intro none
    rw [List.mem_singleton.mp new] at none
    rcases List.take_eq_nil_iff.mp none with zero | empty
    · exact absurd zero (Nat.ne_of_gt positive)
    · exact pending empty

theorem HasBlocks.spawnCatchUp (slots : Nat) {self : Sequencer Block Sink Store}
    (positive : 0 < self.batcherConfig.maxBlocksPerBatch) (hasBlocks : self.HasBlocks) :
    (spawnCatchUp slots self).2.HasBlocks := by
  induction slots generalizing self with
  | zero => exact hasBlocks
  | succ slots ih =>
    unfold Sequencer.spawnCatchUp
    by_cases none : self.pendingBlocks.isEmpty
    · rw [if_pos none]
      exact hasBlocks
    · rw [if_neg none]
      have elapsed := interfere_elapsed self
      have waited := hasBlocks.same elapsed.spawned
      have pending : self.interfere.pendingBlocks ≠ [] := by
        rw [elapsed.pendingBlocks]
        simpa using none
      have allowed : 0 < self.interfere.batcherConfig.maxBlocksPerBatch := by
        rw [elapsed.batcherConfig]
        exact positive
      have above := (dynamicMaxBlocks_bounds allowed
        (self.interfere.pendingBlocks.length + self.interfere.blockRx.queue.length)).1
      have least := List.length_pos_iff.mpr pending
      simp only []
      split
      · exact waited
      · exact ih allowed (waited.cutBatch pending (by omega))

theorem HasBlocks.spawnWorkers {self : Sequencer Block Sink Store}
    (positive : 0 < self.batcherConfig.maxBlocksPerBatch) (hasBlocks : self.HasBlocks) :
    self.spawnWorkers.2.HasBlocks := by
  have elapsed := interfere_elapsed self
  have later := elapsed.trans (interfere_elapsed self.interfere)
  unfold Sequencer.spawnWorkers
  simp only []
  split
  · rename_i free
    split
    · apply HasBlocks.spawnCatchUp
      · rw [elapsed.batcherConfig]
        exact positive
      · exact hasBlocks.same elapsed.spawned
    · split
      · have pending : self.interfere.interfere.pendingBlocks ≠ [] := by
          rw [later.pendingBlocks]
          intro none
          simp [none] at free
        have least := List.length_pos_iff.mpr pending
        have allowed : 0 < self.interfere.interfere.batcherConfig.maxBlocksPerBatch := by
          rw [later.batcherConfig]
          exact positive
        exact (hasBlocks.same later.spawned).cutBatch pending (by omega)
      · exact hasBlocks.same later.spawned
  · exact hasBlocks

variable [BatchSink Sink] [CheckpointStore Store]

theorem HasBlocks.tick {self : Sequencer Block Sink Store} (positive : 0 < self.batcherConfig.maxBlocksPerBatch)
    (hasBlocks : self.HasBlocks) (rounds : Nat) : (tick self rounds).2.HasBlocks := by
  cases reached : self.accumulated with
  | none =>
    obtain ⟨error, after, failed, ended⟩ := tick_failed reached rounds
    have cuts := ((delivers_cut self).submitReadyBatches (Cuts.none rfl rfl)).2 error after failed
    rw [ended]
    exact hasBlocks.same (by rw [cuts.spawned, List.append_nil])
  | some result =>
    obtain ⟨disconnected, accumulated⟩ := result
    have kept : 0 < accumulated.batcherConfig.maxBlocksPerBatch := by
      rw [(steps_fixed (accumulated_steps reached)).1]
      exact positive
    have worked := (hasBlocks.same (accumulated_spawned reached)).spawnWorkers kept
    cases disconnected with
    | false =>
      rw [(tick_open reached rounds).1]
      exact worked
    | true =>
      have cut : accumulated.lastCut.HasBlocks := by
        unfold lastCut cutRemaining
        by_cases none : accumulated.spawnWorkers.2.pendingBlocks.isEmpty
        · rw [if_pos none]
          exact worked
        · rw [if_neg none]
          have pending : accumulated.spawnWorkers.2.pendingBlocks ≠ [] := by simpa using none
          exact worked.cutBatch pending (List.length_pos_iff.mpr pending)
      rw [tick_closed reached]
      exact cut.same (by rw [(flush_cuts rounds accumulated.lastCut).spawned, List.append_nil])

/-- Where a batch may have a block at all, every batch has one. -/
theorem HasBlocks.input {self : Sequencer Block Sink Store} (input : Input Block)
    (positive : 0 < self.batcherConfig.maxBlocksPerBatch) (hasBlocks : self.HasBlocks) :
    (self.step input).HasBlocks := by
  cases input with
  | environment event => exact hasBlocks.same (apply_elapsed self event).spawned
  | tick schedule rounds =>
    have scheduled : HasBlocks { self with schedule } := hasBlocks.same rfl
    have allowed : 0 < (Sequencer.batcherConfig { self with schedule }).maxBlocksPerBatch := positive
    exact scheduled.tick allowed rounds
  | resume checkpoint => exact hasBlocks.same rfl

end HasBlocks

end Sequencer

namespace Validator

open Vm (Execution Executor executeAll)

variable {Block Source Exec Result Store Tx : Type}

def derivationCalls (self : Validator Block Source Exec Result Store) : List DerivationCall :=
  self.derivationCallback.getD []

/-- The callback is there; it was told of every block executed and of batches that were recorded
as derived, in their order. -/
structure Reported [BlockResponse Block Tx] (validator : Validator Block Source Exec Result Store) :
    Prop where
  attached : validator.derivationCallback.isSome = true
  blocks : validator.derivationCalls.filterMap derivedBlock =
    validator.executions.map fun execution => telling execution.block
  batches : (validator.derivationCalls.filterMap derivedHeader).Sublist
    (validator.derivations.map fun derivation => BatchHeader.ofBatch derivation.batch)

variable [BlockResponse Block Tx] [BlockJson Block] [Executor Exec Block Result] [CheckpointStore Store]

def blockCall (block : Block) : DerivationCall :=
  .blockDerived (BlockResponse.number block) (BlockResponse.transactions block).length 0

omit [BlockJson Block] [Executor Exec Block Result] [CheckpointStore Store] in
private theorem blockCalls_blocks (blocks : List Block) :
    (blocks.map blockCall).filterMap derivedBlock = blocks.map telling ∧
      (blocks.map blockCall).filterMap derivedHeader = [] := by
  induction blocks with
  | nil => exact ⟨rfl, rfl⟩
  | cons block rest ih =>
    obtain ⟨blocks, headers⟩ := ih
    constructor
    · exact congrArg (telling block :: ·) blocks
    · exact headers

omit [BlockJson Block] [CheckpointStore Store] in
private theorem executeBlocks_told (self : Validator Block Source Exec Result Store) (blocks : List Block) :
    (self.executeBlocks blocks).derivationCallback =
      self.derivationCallback.map (· ++ blocks.map blockCall) := by
  induction blocks generalizing self with
  | nil => simp [executeBlocks]
  | cons block rest ih =>
    have first : (self.executeOne block).derivationCallback =
        self.derivationCallback.map (· ++ [blockCall block]) := rfl
    show ((self.executeOne block).executeBlocks rest).derivationCallback = _
    rw [ih, first, Option.map_map]
    congr 1
    funext calls
    simp

omit [BlockResponse Block Tx] [BlockJson Block] [Executor Exec Block Result] in
/-- The batch is reported where its checkpoint was saved. -/
theorem recordBatch_told (self : Validator Block Source Exec Result Store) (batch : CompressedBatch)
    (executions : List (Execution Block Result)) :
    ∃ calls, (self.recordBatch batch executions).2.derivationCallback =
        self.derivationCallback.map (· ++ calls) ∧
      calls.filterMap derivedBlock = [] ∧
      (calls.filterMap derivedHeader).Sublist [BatchHeader.ofBatch batch] := by
  unfold recordBatch
  simp only []
  split
  · exact ⟨[], by simp, rfl, List.nil_sublist _⟩
  · exact ⟨[.batchDerived batch.batchNumber batch.blockCount batch.firstBlock batch.lastBlock], rfl, rfl,
      List.Sublist.refl _⟩

/-- What a batch adds to the executions, to the batches recorded and to the calls. -/
theorem processBatch_told (self : Validator Block Source Exec Result Store) (batch : CompressedBatch) :
    (self.processBatch batch).2 = self ∨
    ∃ executed calls, (self.processBatch batch).2.executions = self.executions ++ executed ∧
      (self.processBatch batch).2.derivations = self.derivations ++ [⟨batch, executed⟩] ∧
      (self.processBatch batch).2.derivationCallback = self.derivationCallback.map (· ++ calls) ∧
      calls.filterMap derivedBlock = executed.map (fun execution => telling execution.block) ∧
      (calls.filterMap derivedHeader).Sublist [BatchHeader.ofBatch batch] := by
  unfold processBatch
  split
  · exact .inl rfl
  · exact .inl rfl
  · rename_i blockBatch decoded
    right
    let emitted := self.emit (.batchDerived batch.batchNumber batch.blockCount)
    obtain ⟨executed, _, same, after⟩ := executeBlocks_frame emitted blockBatch.blocks
    have told := executeBlocks_told emitted blockBatch.blocks
    obtain ⟨blocks, headers⟩ := blockCalls_blocks blockBatch.blocks
    have executions : (emitted.executeBlocks blockBatch.blocks).executions = self.executions ++ executed := by
      rw [after]
      rfl
    have derivations : (emitted.executeBlocks blockBatch.blocks).derivations = self.derivations := by
      rw [after]
      rfl
    obtain ⟨calls, reported, silent, header⟩ := recordBatch_told (emitted.executeBlocks blockBatch.blocks) batch
      executed
    obtain ⟨_, _, _, recorded⟩ := recordBatch_frame (emitted.executeBlocks blockBatch.blocks) batch executed
    have dropped : (emitted.executeBlocks blockBatch.blocks).executions.drop emitted.executions.length =
        executed := by
      rw [executions]
      exact List.drop_left
    simp only [emitted] at dropped executions derivations told reported recorded ⊢
    rw [dropped]
    refine ⟨executed, blockBatch.blocks.map blockCall ++ calls, ?_, ?_, ?_, ?_, ?_⟩
    · rw [recorded]
      exact executions
    · rw [recorded, derivations]
    · rw [reported, told, Option.map_map]
      congr 1
      funext earlier
      simp
    · rw [List.filterMap_append, blocks, silent, List.append_nil, ← same, List.map_map]
      rfl
    · rw [List.filterMap_append, headers]
      exact header

variable [L1BatchSource Source]

omit [BlockResponse Block Tx] [BlockJson Block] [Executor Exec Block Result] [CheckpointStore Store] in
/-- Looking at the head of L1 tells of L1 blocks only. -/
theorem watchL1Head_told (self : Validator Block Source Exec Result Store) :
    ∃ calls, self.watchL1Head.derivationCallback = self.derivationCallback.map (· ++ calls) ∧
      calls.filterMap derivedBlock = [] ∧ calls.filterMap derivedHeader = [] := by
  unfold watchL1Head
  split
  · rename_i l1Head attached found
    split
    · let fresh := List.range' (self.lastL1Head + 1) (l1Head - self.lastL1Head)
      refine ⟨fresh.map .l1BlockProduced, rfl, ?_, ?_⟩
      · rw [List.filterMap_map]
        exact List.filterMap_eq_nil_iff.mpr fun _ _ => rfl
      · rw [List.filterMap_map]
        exact List.filterMap_eq_nil_iff.mpr fun _ _ => rfl
    · exact ⟨[], by simp, rfl, rfl⟩
  · exact ⟨[], by simp, rfl, rfl⟩

/-- What a step adds to the calls, the executions and the batches recorded. -/
theorem step_told {self next : Validator Block Source Exec Result Store} (step : Step self next) :
    ∃ calls executed recorded, next.derivationCallback = self.derivationCallback.map (· ++ calls) ∧
      next.executions = self.executions ++ executed ∧ next.derivations = self.derivations ++ recorded ∧
      calls.filterMap derivedBlock = executed.map (fun execution => telling execution.block) ∧
      (calls.filterMap derivedHeader).Sublist
        (recorded.map fun derivation => BatchHeader.ofBatch derivation.batch) := by
  cases step with
  | watch =>
    obtain ⟨calls, told, blocks, headers⟩ := self.watchL1Head_told
    obtain ⟨callback, lastL1Head, same⟩ := self.watchL1Head_frame
    refine ⟨calls, [], [], told, ?_, ?_, blocks, by simp [headers]⟩ <;> simp [same]
  | idle fetched nothing => exact ⟨[], [], [], by simp, by simp, by simp, rfl, List.nil_sublist _⟩
  | @process batch batchSource fetched =>
    rcases processBatch_told { self with batchSource } batch with
      same | ⟨executed, calls, executions, derivations, told, blocks, header⟩
    · rw [same]
      exact ⟨[], [], [], by simp, by simp, by simp, rfl, List.nil_sublist _⟩
    · exact ⟨calls, executed, [⟨batch, executed⟩], told, executions, derivations, blocks, header⟩
  | clock unixSeconds => exact ⟨[], [], [], by simp, by simp, by simp, rfl, List.nil_sublist _⟩

theorem Reported.step {self next : Validator Block Source Exec Result Store} (step : Step self next)
    (reported : self.Reported) : next.Reported := by
  obtain ⟨attached, blocks, batches⟩ := reported
  obtain ⟨calls, executed, recorded, told, executions, derivations, moreBlocks, moreBatches⟩ := step_told step
  obtain ⟨earlier, present⟩ := Option.isSome_iff_exists.mp attached
  have before : self.derivationCalls = earlier := by
    rw [derivationCalls, present]
    rfl
  have after : next.derivationCalls = earlier ++ calls := by
    rw [derivationCalls, told, present]
    rfl
  rw [before] at blocks batches
  constructor
  · rw [told, present]
    rfl
  · rw [after, List.filterMap_append, blocks, moreBlocks, executions, List.map_append]
  · rw [after, List.filterMap_append, derivations, List.map_append]
    exact batches.append moreBatches

theorem step_derivationCalls {self next : Validator Block Source Exec Result Store} (step : Step self next) :
    self.derivationCalls <+: next.derivationCalls := by
  obtain ⟨calls, _, _, told, _⟩ := step_told step
  rw [derivationCalls, derivationCalls, told]
  cases self.derivationCallback with
  | none => exact List.prefix_rfl
  | some earlier => exact List.prefix_append _ _

end Validator

end Montana.Roles
