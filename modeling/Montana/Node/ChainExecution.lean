import Montana.BlockSource.Agreement
import Montana.Node.L1Pipeline

/-! From the L2 chain to the state of the validator: the block feeder, the sequencer, the
inbox on L1 and the validator in a row. -/

namespace Montana.BlockSource.BlockFeeder

open Polling (Turn Outcome)

variable {Block : Type}

/-- The blocks that an endpoint has are those of one chain. -/
def Consistent (endpoint : Endpoint Block) (chain : Nat → Block) : Prop :=
  ∀ number block, endpoint.getBlockByNumber number = .ok (some block) → block = chain number

/-- The blocks of a chain from this number on, as many as this. -/
def stretch (chain : Nat → Block) (startBlock count : Nat) : List Block :=
  (List.range' startBlock count).map chain

private theorem stretch_isPrefix (chain : Nat → Block) (startBlock : Nat) {fewer count : Nat}
    (le : fewer ≤ count) :
    stretch chain startBlock fewer <+: stretch chain startBlock count := by
  obtain ⟨rest, rfl⟩ := Nat.exists_eq_add_of_le le
  refine ⟨stretch chain (startBlock + fewer) rest, ?_⟩
  rw [stretch, stretch, stretch, ← List.map_append, List.range'_append_1]

/-- A part of a stretch from its start on is a stretch. -/
theorem prefix_stretch {chain : Nat → Block} {startBlock count : Nat} {blocks : List Block}
    (initial : blocks <+: stretch chain startBlock count) :
    blocks = stretch chain startBlock blocks.length := by
  have short : blocks.length ≤ count := by
    have short := initial.length_le
    rwa [stretch, List.length_map, List.length_range'] at short
  have length : (stretch chain startBlock blocks.length).length = blocks.length := by
    rw [stretch, List.length_map, List.length_range']
  have nested := List.prefix_of_prefix_length_le initial (stretch_isPrefix chain startBlock short)
    (Nat.le_of_eq length.symm)
  exact nested.eq_of_length length.symm

/-- What was sent are the blocks from the start up to the counter. -/
structure Feeding (chain : Nat → Block) (startBlock : Nat) (state : State Block) : Prop where
  below : startBlock ≤ state.current
  fits : state.current ≤ u64Max
  sent : state.sent = stretch chain startBlock (state.current - startBlock)

variable [BlockResponse Block Tx] [BlockJson Block]

theorem Feeding.again {endpoint : Endpoint Block} {chain : Nat → Block} {startBlock chainTip : Nat}
    (consistent : Consistent endpoint chain) (small : chainTip < u64Max) {self next : State Block}
    (passed : fetchNext endpoint chainTip self = .again next) (feeding : Feeding chain startBlock self) :
    Feeding chain startBlock next := by
  obtain ⟨below, fits, sent⟩ := feeding
  unfold fetchNext at passed
  split at passed
  · rename_i behind
    split at passed
    · cases passed
    · cases passed
    · rename_i block found
      dsimp only at passed
      split at passed
      · cases passed
        -- the tip keeps the counter from wrapping
        have wrapless : (self.current + 1) % 2 ^ 64 = self.current + 1 :=
          Nat.mod_eq_of_lt (by unfold u64Max at small; omega)
        refine ⟨?_, ?_, ?_⟩
        · show startBlock ≤ (self.current + 1) % 2 ^ 64
          omega
        · show (self.current + 1) % 2 ^ 64 ≤ u64Max
          omega
        · show self.sent ++ [block] = stretch chain startBlock ((self.current + 1) % 2 ^ 64 - startBlock)
          rw [wrapless, sent, consistent self.current block found, Nat.succ_sub below]
          rw [stretch, stretch, List.range'_1_concat, List.map_append, Nat.add_sub_cancel' below]
          rfl
      · cases passed
  · cases passed

theorem Feeding.stopped {endpoint : Endpoint Block} {chain : Nat → Block} {startBlock chainTip : Nat}
    {exit : Exit} {self next : State Block}
    (passed : fetchNext endpoint chainTip self = .stopped exit next)
    (feeding : Feeding chain startBlock self) : Feeding chain startBlock next := by
  unfold fetchNext at passed
  split at passed
  · split at passed
    · cases passed
      exact feeding
    · cases passed
      exact feeding
    · dsimp only at passed
      split at passed
      · cases passed
      · cases passed
        exact ⟨feeding.below, feeding.fits, feeding.sent⟩
  · cases passed

/-- Whatever fails, the feeder has sent a stretch of the chain from its start on. -/
theorem runBlockFeeder_feeding {endpoint : Endpoint Block} {chain : Nat → Block} {startBlock fuel : Nat}
    {tips : List (Except Exit Nat)} (consistent : Consistent endpoint chain)
    (fits : startBlock ≤ u64Max) (small : ∀ tip, .ok tip ∈ tips → tip < u64Max) (withTui : Bool) :
    Feeding chain startBlock (runBlockFeeder endpoint startBlock fuel tips withTui).state := by
  apply Polling.poll_invariant (Feeding chain startBlock) fuel
  · intro tip member state next passed feeding
    exact feeding.again consistent (small tip member) passed
  · intro tip member state exit next passed feeding
    exact feeding.stopped passed
  · exact ⟨Nat.le_refl _, fits, by simp [start, stretch]⟩

end Montana.BlockSource.BlockFeeder

namespace Montana.Roles.Validator

open Vm (Execution Executor executeAll executionsOf)

variable {Block Source Exec Result Store Tx : Type}
variable [BlockResponse Block Tx] [BlockJson Block] [L1BatchSource Source]
variable [Executor Exec Block Result] [CheckpointStore Store]

/-- The executor has gone through exactly the blocks that were executed, with these outcomes. -/
structure Executed (initial : Exec) (validator : Validator Block Source Exec Result Store) : Prop where
  outcomes : validator.executions = executionsOf initial (validator.executions.map Execution.block)
  executor : validator.executor = executeAll initial (validator.executions.map Execution.block)

omit [BlockJson Block] [L1BatchSource Source] [CheckpointStore Store] in
theorem Executed.executeOne {initial : Exec} {self : Validator Block Source Exec Result Store}
    (executed : Executed initial self) (block : Block) : Executed initial (self.executeOne block) := by
  obtain ⟨outcomes, executor⟩ := executed
  constructor
  · change self.executions ++ [Execution.mk block (Executor.executeBlock self.executor block).1] =
      executionsOf initial ((self.executions ++ [_]).map Execution.block)
    rw [List.map_append, Vm.executionsOf_append, ← outcomes, ← executor]
    rfl
  · change (Executor.executeBlock self.executor block).2 =
      executeAll initial ((self.executions ++ [_]).map Execution.block)
    rw [List.map_append, Vm.executeAll_append, ← executor]
    rfl

omit [BlockJson Block] [L1BatchSource Source] [CheckpointStore Store] in
theorem Executed.executeBlocks {initial : Exec} (blocks : List Block)
    {self : Validator Block Source Exec Result Store} (executed : Executed initial self) :
    Executed initial (self.executeBlocks blocks) := by
  induction blocks generalizing self with
  | nil => exact executed
  | cons block rest ih => exact ih (executed.executeOne block)

omit [L1BatchSource Source] in
theorem Executed.processBatch {initial : Exec} {self : Validator Block Source Exec Result Store}
    (executed : Executed initial self) (batch : CompressedBatch) :
    Executed initial (self.processBatch batch).2 := by
  unfold Validator.processBatch
  split
  · exact executed
  · exact executed
  · rename_i blockBatch decoded
    have emitted : Executed initial (self.emit (.batchDerived batch.batchNumber batch.blockCount)) :=
      ⟨executed.outcomes, executed.executor⟩
    have looped := emitted.executeBlocks blockBatch.blocks
    obtain ⟨_, _, _, same⟩ := recordBatch_frame
      ((self.emit (.batchDerived batch.batchNumber batch.blockCount)).executeBlocks blockBatch.blocks) batch
      (((self.emit (.batchDerived batch.batchNumber batch.blockCount)).executeBlocks
        blockBatch.blocks).executions.drop self.executions.length)
    dsimp only
    rw [show (self.emit (.batchDerived batch.batchNumber batch.blockCount)).executions = self.executions from rfl,
      same]
    exact ⟨looped.outcomes, looped.executor⟩

theorem Executed.step {initial : Exec} {self next : Validator Block Source Exec Result Store}
    (step : Step self next) (executed : Executed initial self) : Executed initial next := by
  cases step with
  | watch =>
    obtain ⟨derivationCallback, lastL1Head, same⟩ := watchL1Head_frame self
    rw [same]
    exact ⟨executed.outcomes, executed.executor⟩
  | idle fetched nothing => exact ⟨executed.outcomes, executed.executor⟩
  | @process batch batchSource fetched =>
    have before : Executed initial { self with batchSource } := ⟨executed.outcomes, executed.executor⟩
    exact before.processBatch batch
  | clock unixSeconds => exact ⟨executed.outcomes, executed.executor⟩

end Montana.Roles.Validator

namespace Montana.Node.L1Pipeline

open Anvil BlockSource Reference Roles Vm
open BlockFeeder (Consistent stretch prefix_stretch runBlockFeeder)

variable {Block Exec Result SequencerStore ValidatorStore Tx : Type}
variable [BlockResponse Block Tx] [BlockJson Block] [Executor Exec Block Result]
variable [CheckpointStore SequencerStore] [CheckpointStore ValidatorStore]

theorem executed_run {start : L1Pipeline Block Exec Result SequencerStore ValidatorStore}
    (executions : start.validator.executions = []) (inputs : List (Input Block))
    (lifetime : ∀ input ∈ inputs, input.restarts = false) :
    Validator.Executed start.validator.executor (start.run inputs).validator := by
  refine Runs.invariant_run (fun reached : L1Pipeline Block Exec Result SequencerStore ValidatorStore =>
    Validator.Executed start.validator.executor reached.validator) inputs ?_ ?_
  · intro reached input arrives executed
    cases input with
    | sequencer input => exact executed
    | validator input =>
      have steps := Validator.step_steps reached.reader input (fun checkpoint same => by
        have kept := lifetime _ arrives
        rw [same] at kept
        cases kept)
      have before : Validator.Executed start.validator.executor reached.reader :=
        ⟨executed.outcomes, executed.executor⟩
      exact Runs.invariant_steps (Validator.Executed start.validator.executor)
        (fun _ _ => Validator.Executed.step) steps before
    | network schedule => exact executed
  · constructor <;> rw [executions] <;> rfl

/-- Whatever fails on the way from the RPC to the feeder or from L1 to the validator, and
wherever the threads are: the validator has executed a stretch of the L2 chain. -/
theorem executed_stretch [LawfulBlockJson Block] {endpoint : Endpoint Block} {chain : Nat → Block}
    (consistent : Consistent endpoint chain) {startBlock fuel : Nat} (fits : startBlock ≤ u64Max)
    {tips : List (Except Exit Nat)} (small : ∀ tip, .ok tip ∈ tips → tip < u64Max) (withTui : Bool)
    {start : L1Pipeline Block Exec Result SequencerStore ValidatorStore}
    (opened : start.Opened) (roundtrips : start.sequencer.compressor.Roundtrips)
    (inputs : List (Input Block)) (lifetime : ∀ input ∈ inputs, input.restarts = false)
    (foreign : ∀ input ∈ inputs, input.Foreign start.sequencer.batchSink.batchInbox)
    (regular : Regular (start.run inputs).sequencer)
    (fed : (start.run inputs).sequencer.sent <+:
      (runBlockFeeder endpoint startBlock fuel tips withTui).state.sent) :
    ∃ count, (start.run inputs).validator.executions.map (·.block) = stretch chain startBlock count := by
  have feeding : BlockFeeder.Feeding chain startBlock
      (runBlockFeeder endpoint startBlock fuel tips withTui).state :=
    BlockFeeder.runBlockFeeder_feeding consistent fits small withTui
  have linked := (opened.linked roundtrips).run inputs lifetime foreign
  have derives := linked.derives regular
  have orderly := linked.submits.orderly
  have sent := (derives.executed_submitted orderly regular.clean linked.roundtrips).trans
    (submittedBlocks_isPrefix orderly regular.clean)
  have initial := sent.trans fed
  rw [feeding.sent] at initial
  exact ⟨_, prefix_stretch initial⟩

/-- The validator's state and its outcomes are those of executing a stretch of the L2 chain,
block after block from the start of the feed. -/
theorem executes_chain [LawfulBlockJson Block] {endpoint : Endpoint Block} {chain : Nat → Block}
    (consistent : Consistent endpoint chain) {startBlock fuel : Nat} (fits : startBlock ≤ u64Max)
    {tips : List (Except Exit Nat)} (small : ∀ tip, .ok tip ∈ tips → tip < u64Max) (withTui : Bool)
    {start : L1Pipeline Block Exec Result SequencerStore ValidatorStore}
    (opened : start.Opened) (roundtrips : start.sequencer.compressor.Roundtrips)
    (inputs : List (Input Block)) (lifetime : ∀ input ∈ inputs, input.restarts = false)
    (foreign : ∀ input ∈ inputs, input.Foreign start.sequencer.batchSink.batchInbox)
    (clean : (start.run inputs).sequencer.faults = [])
    (bounded : ∀ entry ∈ (start.run inputs).sequencer.submissions, Bounded entry.1)
    (fed : (start.run inputs).sequencer.sent <+:
      (runBlockFeeder endpoint startBlock fuel tips withTui).state.sent) :
    ∃ count, (start.run inputs).validator.executions =
        executionsOf start.validator.executor (stretch chain startBlock count) ∧
      (start.run inputs).validator.executor =
        executeAll start.validator.executor (stretch chain startBlock count) := by
  obtain ⟨count, blocks⟩ := executed_stretch consistent fits small withTui opened roundtrips inputs
    lifetime foreign ⟨clean, bounded⟩ fed
  obtain ⟨outcomes, executor⟩ := executed_run opened.validator.start.1 inputs lifetime
  rw [blocks] at outcomes executor
  exact ⟨count, outcomes, executor⟩

section Examples

/-- An L2 chain of the blocks 0, 1, 2, …; its node answers an error for block 9. -/
def failingAtNine : Endpoint UInt8 where
  getBlockByNumber number := if number = 9 then .error "timeout" else .ok (some (UInt8.ofNat number))
  takes _ := true

theorem rolesOnL1_execute_chain :
    ∃ count, (rolesOnL1.run readInBetween).validator.executions =
        executionsOf rolesOnL1.validator.executor (stretch UInt8.ofNat 7 count) ∧
      (rolesOnL1.run readInBetween).validator.executor =
        executeAll rolesOnL1.validator.executor (stretch UInt8.ofNat 7 count) := by
  have consistent : Consistent failingAtNine UInt8.ofNat := by
    intro number block found
    simp only [failingAtNine] at found
    split at found
    · cases found
    · cases found
      rfl
  have small : ∀ tip, (.ok tip : Except BlockSource.Exit Nat) ∈ [.ok 7, .ok 12] → tip < u64Max := by
    simp [u64Max]
  have fed : (rolesOnL1.run readInBetween).sequencer.sent <+:
      (runBlockFeeder failingAtNine 7 10 [.ok 7, .ok 12] false).state.sent := by
    decide
  exact executes_chain consistent (by decide) small false rolesOnL1_opened noop_roundtrips readInBetween
    (by decide) readInBetween_foreign (by decide) (by decide) fed

end Examples

end Montana.Node.L1Pipeline
