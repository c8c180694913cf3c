import Montana.Batching.Consumers

/-! What the batch submission runner submits while nothing fails: every block from the
first one on, in batches that are never empty and never too large. -/

namespace Montana.Batching

variable {Block Source Sink Tx : Type}

/-- The source gives out the block that it was asked for. -/
def ReturnsRequested (Source : Type) [BlockSource Source Block] [BlockResponse Block Tx] : Prop :=
  ∀ (source next : Source) (blockNum : Nat) (block : Block),
    BlockSource.getBlock source blockNum = (.ok block, next) → BlockResponse.number block = blockNum

namespace RunLoop

variable [BlockResponse Block Tx] [BlockJson Block] [BlockSource Source Block] [BatchSink Sink]

/-- What one iteration hands on to the next: less than a full batch is pending, its size is
up to date, and no batch was too large. -/
structure Bounded (start : BatchSubmissionRunner Source Sink) (loop : RunLoop Block Source Sink) :
    Prop where
  config : loop.runner.config = start.config
  pending : loop.pendingBlocks.length < start.config.maxBlocksPerBatch
  pendingSize : loop.pendingSize = estimatedSize loop.pendingBlocks
  attempts : ∀ attempt ∈ loop.attempts, attempt.blocks.length ≤ start.config.maxBlocksPerBatch
  answered : ∀ entry ∈ loop.fetched, ∃ source : Source,
    (BlockSource.getBlock source entry.1).1 = .ok entry.2

variable {start : BatchSubmissionRunner Source Sink} {self : RunLoop Block Source Sink}

theorem Bounded.submitPending (config : self.runner.config = start.config)
    (within : self.pendingBlocks.length ≤ start.config.maxBlocksPerBatch)
    (positive : 0 < start.config.maxBlocksPerBatch)
    (attempts : ∀ attempt ∈ self.attempts, attempt.blocks.length ≤ start.config.maxBlocksPerBatch)
    (answered : ∀ entry ∈ self.fetched, ∃ source : Source,
      (BlockSource.getBlock source entry.1).1 = .ok entry.2) : self.submitPending.Bounded start := by
  obtain ⟨attempt, sink, metrics, callback, entries, number, taken, outcome, _, same⟩ :=
    submitPending_cases self
  rw [same]
  refine ⟨config, positive, rfl, ?_, answered⟩
  intro other member
  rcases List.mem_append.mp member with old | new
  · exact attempts other old
  · rw [List.mem_singleton.mp new, taken]
    exact within

theorem Bounded.iterate (positive : 0 < start.config.maxBlocksPerBatch) (bounded : self.Bounded start) :
    self.iterate.Bounded start := by
  obtain ⟨config, pending, pendingSize, attempts, answered⟩ := bounded
  rcases iterate_cases self with same |
    ⟨blocks, source, callback, metrics, fetching, grown, few, got, _, _, next⟩
  · rw [same]
    exact ⟨config, pending, pendingSize, attempts, answered⟩
  · rw [config] at few
    have within : fetching.pendingBlocks.length ≤ start.config.maxBlocksPerBatch := by
      rw [grown, List.length_append]
      omega
    have fetched : ∀ entry ∈ fetching.fetched, ∃ source : Source,
        (BlockSource.getBlock source entry.1).1 = .ok entry.2 := by
      rw [grown]
      exact List.forall_mem_append.mpr ⟨answered, got⟩
    have kept : fetching.runner.config = start.config := by rw [grown, config]
    have before : fetching.attempts = self.attempts := by rw [grown]
    rcases next with ⟨same, short⟩ | ⟨some, same⟩ <;> rw [same]
    · refine ⟨kept, ?_, ?_, by rw [before]; exact attempts, fetched⟩
      · rw [kept] at short
        rcases short with none | short
        · rw [none]
          exact positive
        · exact short
      · rw [grown, estimatedSize_append, pendingSize]
    · exact .submitPending kept within positive (by rw [before]; exact attempts) fetched

private theorem bounded_run (runner : BatchSubmissionRunner Source Sink) (startBlock rounds : Nat)
    (positive : 0 < runner.config.maxBlocksPerBatch) :
    (run runner startBlock rounds : RunLoop Block Source Sink).Bounded runner := by
  induction rounds with
  | zero => exact ⟨rfl, positive, rfl, by simp [run, enter], by simp [run, enter]⟩
  | succ rounds ih => exact ih.iterate positive

omit [BlockSource Source Block] [BatchSink Sink] in
private theorem handedBatch_count {compressor : Compressor} {attempt : Attempt Block}
    {batch : CompressedBatch}
    (handed : handedBatch compressor attempt = some batch) : batch.blockCount = attempt.blocks.length := by
  unfold handedBatch BatchSubmissionRunner.packBatch at handed
  cases payload : BlockJson.toBytes (OpBlockBatch.mk attempt.blocks) with
  | error e => simp [payload] at handed
  | ok rawData =>
    cases packed : compressor.compress rawData with
    | error e => simp [payload, packed] at handed
    | ok data =>
      simp only [payload, packed, Option.some.injEq] at handed
      rw [← handed]

/-- What was submitted, and what is pending, of the blocks from the first one on. -/
structure Contiguous (start : BatchSubmissionRunner Source Sink) (startBlock : Nat)
    (loop : RunLoop Block Source Sink) : Prop where
  batches : (loop.emitted start).map some = loop.attempts.map (handedBatch start.compressor)
  numbered : (loop.emitted start).map (·.batchNumber) = List.range (loop.emitted start).length
  blocks : (loop.attempts.flatMap (·.blocks) ++ loop.pendingBlocks).map BlockResponse.number =
    List.range' startBlock (loop.currentBlock - startBlock)
  limited : ∀ attempt ∈ loop.attempts,
    attempt.blocks ≠ [] ∧ attempt.blocks.length ≤ start.config.maxBlocksPerBatch
  counted : ∀ batch ∈ loop.emitted start,
    0 < batch.blockCount ∧ batch.blockCount ≤ start.config.maxBlocksPerBatch
  pendingSize : loop.pendingSize = estimatedSize loop.pendingBlocks

/-- While no submission fails, the batches submitted are numbered from 0, and their blocks
with those pending are all from the first one up to the current one. -/
theorem run_contiguous (requested : ReturnsRequested Source)
    (runner : BatchSubmissionRunner Source Sink) (positive : 0 < runner.config.maxBlocksPerBatch)
    (startBlock rounds : Nat)
    (clean : (run runner startBlock rounds : RunLoop Block Source Sink).NoFailure runner) :
    (run runner startBlock rounds : RunLoop Block Source Sink).Contiguous runner startBlock := by
  have ledger : (run runner startBlock rounds : RunLoop Block Source Sink).Ledger runner startBlock :=
    ledger_run runner startBlock rounds
  have bounded : (run runner startBlock rounds : RunLoop Block Source Sink).Bounded runner :=
    bounded_run runner startBlock rounds positive
  have limited : ∀ attempt ∈ (run runner startBlock rounds : RunLoop Block Source Sink).attempts,
      attempt.blocks ≠ [] ∧ attempt.blocks.length ≤ runner.config.maxBlocksPerBatch :=
    fun attempt member => ⟨ledger.filled attempt member, bounded.attempts attempt member⟩
  have emitted := emitted_handed ledger clean
  refine ⟨?_, emitted_numbers ledger clean, ?_, limited, ?_, bounded.pendingSize⟩
  · rw [emitted, List.map_filterMap, ← List.filterMap_eq_map]
    refine List.filterMap_congr fun attempt member => ?_
    obtain ⟨batch, handed⟩ := Option.isSome_iff_exists.mp (clean.packed attempt member)
    simp [handed]
  · have named : ∀ entry ∈ (run runner startBlock rounds : RunLoop Block Source Sink).fetched,
        BlockResponse.number entry.2 = entry.1 := by
      intro entry member
      obtain ⟨source, answer⟩ := bounded.answered entry member
      exact requested source _ entry.1 entry.2 (Prod.ext answer rfl)
    rw [ledger.blocks, List.map_map, ledger.current, Nat.add_sub_cancel_left, ← ledger.numbers]
    exact List.map_congr_left named
  · intro batch member
    rw [emitted] at member
    obtain ⟨attempt, listed, handed⟩ := List.mem_filterMap.mp member
    obtain ⟨some, few⟩ := limited attempt listed
    rw [handedBatch_count handed]
    exact ⟨List.length_pos_iff.mpr some, few⟩

section Examples

open Reference

/-- Blocks of one byte that are their own numbers, as long as a byte holds the number. -/
structure ByteChain where
  head : Nat

instance : BlockSource ByteChain UInt8 where
  getBlock chain number :=
    (if number ≤ chain.head ∧ number < 256 then .ok (UInt8.ofNat number)
      else .error (.blockNotFound number), chain)
  getHead chain := (.ok chain.head, chain)

private theorem ByteChain.returnsRequested : ReturnsRequested ByteChain := by
  intro source next blockNum block got
  simp only [BlockSource.getBlock] at got
  split at got
  · rename_i there
    cases got
    exact Nat.mod_eq_of_lt there.2
  · cases got

/-- Five blocks go into batches of two, and the last one stays pending until a fetch fails. -/
def fiveBlocks : BatchSubmissionRunner ByteChain ScriptedSink :=
  .new ⟨5⟩ noop ⟨[true, true, true]⟩ { maxBlocksPerBatch := 2 }

theorem run_contiguous_five : (run fiveBlocks 1 5).Contiguous fiveBlocks 1 :=
  run_contiguous ByteChain.returnsRequested fiveBlocks (by decide) 1 5 ⟨by decide, by decide⟩

end Examples

end RunLoop

end Montana.Batching
