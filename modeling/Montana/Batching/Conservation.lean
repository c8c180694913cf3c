import Mathlib.Algebra.GroupWithZero.Nat
import Mathlib.Data.List.Flatten
import Mathlib.Tactic.SplitIfs
import Montana.Batching.Runner
import Montana.Common.Reference

/-! What becomes of the blocks that the batch submission runner fetches. -/

namespace Montana.Batching

variable {Block Source Sink Tx : Type}

/-- The counters with one more batch. -/
def BatchSubmissionMetrics.accept (self : BatchSubmissionMetrics) (blocks size compressedSize : Nat) :
    BatchSubmissionMetrics :=
  { self with
    batchesSubmitted := self.batchesSubmitted + 1
    blocksProcessed := self.blocksProcessed + blocks
    bytesOriginal := self.bytesOriginal + size
    bytesCompressed := self.bytesCompressed + compressedSize }

/-- What the counters say of the latest block once this many more were fetched. -/
def BatchSubmissionMetrics.fetch (self : BatchSubmissionMetrics) (currentBlock blocksFetched : Nat) :
    BatchSubmissionMetrics :=
  if blocksFetched > 0 then { self with latestBlock := currentBlock + blocksFetched } else self

/-- The batch and the compressed size of which `on_batch_submitted` is told. -/
def SubmissionCall.reported : SubmissionCall → Option (Nat × Nat)
  | .batchSubmitted batchNumber _ _ compressedSize _ => some (batchNumber, compressedSize)
  | _ => none

/-- All that the callback was told of them, when there is one. -/
def reportedSizes (callback : Option (List SubmissionCall)) : Option (List (Nat × Nat)) :=
  callback.map (·.filterMap SubmissionCall.reported)

private theorem reportedSizes_call (callback : Option (List SubmissionCall)) (event : SubmissionCall) :
    reportedSizes (callback.map (· ++ [event])) =
      (reportedSizes callback).map (· ++ event.reported.toList) := by
  cases callback with
  | none => rfl
  | some calls => cases reported : event.reported <;> simp [reportedSizes, List.filterMap_append, reported]

/-- A call that reports no batch. -/
theorem reportedSizes_other (callback : Option (List SubmissionCall)) {event : SubmissionCall}
    (other : event.reported = none) :
    reportedSizes (callback.map (· ++ [event])) = reportedSizes callback := by
  rw [reportedSizes_call, other]
  simp

namespace BatchSubmissionRunner

variable [BlockResponse Block Tx] [BlockJson Block] [BatchSink Sink]

/-- The ends of `submit_batch`: nothing is handed over, or one batch is, and the
sink's answer decides. No error of it is fatal. -/
theorem submitBatch_cases (self : BatchSubmissionRunner Source Sink) (batchNumber : Nat)
    (blocks : List Block) :
    (∃ e, packBatch self.compressor batchNumber blocks = .error e ∧ e.isFatal = false ∧
      self.submitBatch batchNumber blocks = (.error e, self)) ∨
    ∃ size batch answer outcome sink metrics,
      packBatch self.compressor batchNumber blocks = .ok (size, batch) ∧
      BatchSink.submit self.sink batch = (answer, sink) ∧
      ((∃ receipt, answer = .ok receipt ∧ outcome = .ok receipt.txHash ∧
          metrics = self.metrics.accept blocks.length size batch.data.length) ∨
        ∃ e, answer = .error e ∧ outcome = .error (.sinkError e.display) ∧ metrics = self.metrics) ∧
      self.submitBatch batchNumber blocks = (outcome, { self with
        sink, metrics, submissions := self.submissions ++ [(batch, answer)] }) := by
  unfold submitBatch
  cases packed : packBatch self.compressor batchNumber blocks with
  | error e =>
    refine .inl ⟨e, rfl, ?_, rfl⟩
    unfold packBatch at packed
    split at packed
    · cases packed
      rfl
    · split at packed <;> cases packed
      rfl
  | ok pair =>
    obtain ⟨size, batch⟩ := pair
    cases submitted : BatchSink.submit self.sink batch with
    | mk answer sink =>
      refine .inr ⟨size, batch, answer, ?_⟩
      cases answer with
      | error e =>
        exact ⟨_, sink, _, rfl, submitted, .inr ⟨e, rfl, rfl, rfl⟩, by simp only [submitted]⟩
      | ok receipt =>
        refine ⟨_, sink, _, rfl, submitted, .inl ⟨receipt, rfl, rfl, rfl⟩, ?_⟩
        simp only [submitted]
        rfl

theorem packBatch_number {compressor : Compressor} {batchNumber size : Nat} {blocks : List Block}
    {batch : CompressedBatch}
    (packed : packBatch compressor batchNumber blocks = .ok (size, batch)) :
    batch.batchNumber = batchNumber := by
  unfold packBatch at packed
  split at packed
  · cases packed
  · split at packed <;> cases packed
    rfl

end BatchSubmissionRunner

open BatchSubmissionRunner (packBatch packBatch_number submitBatch_cases)

namespace RunLoop

/-- The batch that this attempt handed over, if it came that far. -/
def handedBatch [BlockResponse Block Tx] [BlockJson Block] (compressor : Compressor)
    (attempt : Attempt Block) : Option CompressedBatch :=
  match packBatch compressor attempt.batchNumber attempt.blocks with
  | .ok (_, batch) => some batch
  | .error _ => none

theorem handedBatch_number [BlockResponse Block Tx] [BlockJson Block] {compressor : Compressor}
    {attempt : Attempt Block} {batch : CompressedBatch}
    (handed : handedBatch compressor attempt = some batch) :
    batch.batchNumber = attempt.batchNumber := by
  unfold handedBatch at handed
  split at handed
  · rename_i packed
    cases handed
    exact packBatch_number packed
  · cases handed

/-- The same batch with whether the sink took it. -/
def handedOver [BlockResponse Block Tx] [BlockJson Block] (compressor : Compressor)
    (attempt : Attempt Block) : Option (CompressedBatch × Bool) :=
  (handedBatch compressor attempt).map (·, attempt.outcome.isOk)

/-- The blocks of the batches whose submission returned `Ok`. -/
def submittedBlocks (self : RunLoop Block Source Sink) : List Block :=
  (self.attempts.filter (·.outcome.isOk)).flatMap (·.blocks)

/-- Nothing is filtered out of a list when its nonempty parts are all there afterwards. -/
theorem all_of_flatMap_filter {Part Whole : Type} {parts : Whole → List Part} {keep : Whole → Bool}
    {wholes : List Whole} (filled : ∀ whole ∈ wholes, parts whole ≠ [])
    (kept : (wholes.filter keep).flatMap parts = wholes.flatMap parts) :
    ∀ whole ∈ wholes, keep whole = true := by
  induction wholes with
  | nil => simp
  | cons whole rest ih =>
    obtain ⟨first, later⟩ := List.forall_mem_cons.mp filled
    refine List.forall_mem_cons.mpr ?_
    by_cases keeps : keep whole = true
    · rw [List.filter_cons_of_pos keeps, List.flatMap_cons, List.flatMap_cons] at kept
      exact ⟨keeps, ih later (List.append_cancel_left kept)⟩
    · rw [List.filter_cons_of_neg keeps, List.flatMap_cons] at kept
      have sublist : (rest.filter keep).Sublist rest := List.filter_sublist
      have fewer := (sublist.flatMap parts).length_le
      have some := List.length_pos_iff.mpr first
      rw [kept, List.length_append] at fewer
      omega

/-- Every block fetched so far, from the first one on, was submitted or is pending. -/
structure Conserved (startBlock : Nat) (loop : RunLoop Block Source Sink) : Prop where
  numbers : loop.fetched.map (·.1) = List.range' startBlock (loop.currentBlock - startBlock)
  blocks : loop.submittedBlocks ++ loop.pendingBlocks = loop.fetched.map (·.2)

/-- The estimate that `pending_size` adds up. -/
def estimatedSize [BlockResponse Block Tx] (blocks : List Block) : Nat :=
  256 * (blocks.map fun block => (BlockResponse.transactions block).length).sum

/-- The source gave out each of these blocks for the number it stands under. -/
def Answered (Source : Type) [BlockSource Source Block] (blockNum : Nat) (blocks : List Block) : Prop :=
  ∀ entry ∈ (List.range' blockNum blocks.length).zip blocks,
    ∃ source : Source, (BlockSource.getBlock source entry.1).1 = .ok entry.2

/-- The books of a run: every fetched block went into an attempt or is pending. -/
structure Ledger [BlockResponse Block Tx] [BlockJson Block] (start : BatchSubmissionRunner Source Sink)
    (startBlock : Nat) (loop : RunLoop Block Source Sink) : Prop where
  running : loop.returned = none
  compressor : loop.runner.compressor = start.compressor
  current : loop.currentBlock = startBlock + loop.fetched.length
  numbers : loop.fetched.map (·.1) = List.range' startBlock loop.fetched.length
  blocks : loop.attempts.flatMap (·.blocks) ++ loop.pendingBlocks = loop.fetched.map (·.2)
  filled : ∀ attempt ∈ loop.attempts, attempt.blocks ≠ []
  counted : loop.batchNumber = loop.attempts.length
  numbered : loop.attempts.map (·.batchNumber) = List.range loop.attempts.length
  handed : loop.runner.submissions.map (fun entry => (entry.1, entry.2.isOk)) =
    start.submissions.map (fun entry => (entry.1, entry.2.isOk)) ++
      loop.attempts.filterMap (handedOver start.compressor)
  packed : ∀ attempt ∈ loop.attempts, attempt.outcome.isOk = true →
    ∃ batch, handedBatch start.compressor attempt = some batch

section Steps

variable [BlockResponse Block Tx] [BlockJson Block] [BlockSource Source Block]

omit [BlockJson Block] [BlockSource Source Block] in
theorem estimatedSize_append (first second : List Block) :
    estimatedSize (first ++ second) = estimatedSize first + estimatedSize second := by
  rw [estimatedSize, estimatedSize, estimatedSize, List.map_append, List.sum_append, Nat.mul_add]

omit [BlockResponse Block Tx] [BlockJson Block] in
theorem Answered.cons {blockNum : Nat} {block : Block} {blocks : List Block} {asked : Source}
    {source : Source} (got : BlockSource.getBlock asked blockNum = (.ok block, source))
    (answered : Answered Source (blockNum + 1) blocks) : Answered Source blockNum (block :: blocks) := by
  unfold Answered at answered ⊢
  rw [List.length_cons, List.range'_succ, List.zip_cons_cons]
  exact List.forall_mem_cons.mpr ⟨⟨asked, congrArg Prod.fst got⟩, answered⟩

omit [BlockJson Block] in
/-- The fetch loop appends blocks that it got for consecutive numbers, no more than it was
to fetch, and changes nothing else. -/
theorem fetchLoop_frame {remaining blockNum : Nat} {self : RunLoop Block Source Sink}
    {result : Nat × Bool × RunLoop Block Source Sink}
    (looped : fetchLoop remaining blockNum self = result) :
    ∃ blocks source callback, blocks.length = result.1 ∧ blocks.length ≤ remaining ∧
      Answered Source blockNum blocks ∧ reportedSizes callback = reportedSizes self.runner.callback ∧
      result.2.2 = { self with
        runner := { self.runner with source, callback }
        pendingBlocks := self.pendingBlocks ++ blocks
        pendingSize := self.pendingSize + estimatedSize blocks
        fetched := self.fetched ++ (List.range' blockNum blocks.length).zip blocks } := by
  induction remaining generalizing blockNum self result with
  | zero =>
    subst looped
    exact ⟨[], self.runner.source, self.runner.callback, rfl, Nat.le_refl _, nofun, rfl,
      by simp [fetchLoop, estimatedSize]⟩
  | succ remaining ih =>
    cases got : BlockSource.getBlock self.runner.source blockNum with
    | mk answer source =>
      cases answer with
      | error e =>
        simp only [fetchLoop, got] at looped
        subst looped
        exact ⟨[], source, self.runner.callback, rfl, Nat.zero_le _, nofun, rfl, by simp [estimatedSize]⟩
      | ok block =>
        simp only [fetchLoop, got] at looped
        have size : (BlockResponse.transactions block).length * 256 = estimatedSize [block] := by
          simp [estimatedSize, Nat.mul_comm]
        let pushed := { self with runner := { self.runner with source } } |>.pushBlock blockNum block
        have told : reportedSizes pushed.runner.callback = reportedSizes self.runner.callback :=
          reportedSizes_other _ rfl
        split at looped
        · subst looped
          refine ⟨[block], source, pushed.runner.callback, rfl, Nat.le_add_left _ _, .cons got nofun, told, ?_⟩
          rw [← size]
          rfl
        · subst looped
          obtain ⟨blocks, source, callback, length, few, answered, later, same⟩ :=
            @ih (blockNum + 1) pushed _ rfl
          refine ⟨block :: blocks, source, callback, by simp [length, pushed], Nat.succ_le_succ few,
            .cons got answered, later.trans told, ?_⟩
          rw [same]
          simp [pushed, pushBlock, BatchSubmissionRunner.call, List.range'_succ, size, Nat.add_assoc,
            ← estimatedSize_append]

variable [BatchSink Sink] {start : BatchSubmissionRunner Source Sink} {startBlock : Nat}

/-- What an attempt does to the counters and tells the callback: only an accepted batch counts,
and it is reported with the sum of the compressed sizes so far. -/
def Booked (self : RunLoop Block Source Sink) (attempt : Attempt Block) (metrics : BatchSubmissionMetrics)
    (callback : Option (List SubmissionCall)) : Prop :=
  (attempt.outcome.isOk = false ∧ metrics = self.runner.metrics ∧
      reportedSizes callback = reportedSizes self.runner.callback) ∨
    ∃ size batch, attempt.outcome.isOk = true ∧
      packBatch self.runner.compressor attempt.batchNumber attempt.blocks = .ok (size, batch) ∧
      metrics = self.runner.metrics.accept attempt.blocks.length size batch.data.length ∧
      reportedSizes callback =
        (reportedSizes self.runner.callback).map (· ++ [(attempt.batchNumber, metrics.bytesCompressed)])

omit [BlockSource Source Block] in
/-- An attempt takes all pending blocks with it, whatever it returns. -/
theorem submitPending_cases (self : RunLoop Block Source Sink) :
    ∃ attempt sink metrics callback entries,
      attempt.batchNumber = self.batchNumber ∧ attempt.blocks = self.pendingBlocks ∧
      (handedBatch self.runner.compressor attempt = none ∧ sink = self.runner.sink ∧ entries = [] ∧
          attempt.outcome.isOk = false ∨
        ∃ batch answer, handedBatch self.runner.compressor attempt = some batch ∧
          BatchSink.submit self.runner.sink batch = (answer, sink) ∧ entries = [(batch, answer)] ∧
          attempt.outcome.isOk = answer.isOk) ∧
      self.Booked attempt metrics callback ∧
      self.submitPending = { self with
        runner := { self.runner with
          sink, metrics, callback, submissions := self.runner.submissions ++ entries }
        batchNumber := self.batchNumber + 1
        pendingBlocks := []
        pendingSize := 0
        attempts := self.attempts ++ [attempt] } := by
  rcases submitBatch_cases self.runner self.batchNumber self.pendingBlocks with
    ⟨e, packed, mild, same⟩ |
    ⟨size, batch, answer, outcome, sink, metrics, packed, submitted, answered, same⟩
  · refine ⟨⟨self.batchNumber, self.pendingBlocks, .error e⟩, self.runner.sink, self.runner.metrics,
      (self.runner.call (.batchFailed self.batchNumber e)).callback, [], rfl, rfl,
      .inl ⟨by simp [handedBatch, packed], rfl, rfl, rfl⟩, .inl ⟨rfl, rfl, reportedSizes_other _ rfl⟩, ?_⟩
    simp [RunLoop.submitPending, same, mild, BatchSubmissionRunner.call]
  · rcases answered with ⟨receipt, rfl, rfl, rfl⟩ | ⟨e, rfl, rfl, rfl⟩
    · refine ⟨⟨self.batchNumber, self.pendingBlocks, .ok receipt.txHash⟩, sink, _,
        self.runner.callback.map (· ++ [.batchSubmitted self.batchNumber self.pendingBlocks.length
          self.pendingSize (self.runner.metrics.bytesCompressed + batch.data.length) receipt.txHash]),
        [(batch, .ok receipt)], rfl, rfl,
        .inr ⟨batch, .ok receipt, by simp [handedBatch, packed], submitted, rfl, rfl⟩,
        .inr ⟨size, batch, rfl, packed, rfl, reportedSizes_call _ _⟩, ?_⟩
      simp only [RunLoop.submitPending, same, BatchSubmissionRunner.call]
      rfl
    · refine ⟨⟨self.batchNumber, self.pendingBlocks, .error (.sinkError e.display)⟩, sink,
        self.runner.metrics,
        self.runner.callback.map (· ++ [.batchFailed self.batchNumber (.sinkError e.display)]),
        [(batch, .error e)], rfl, rfl,
        .inr ⟨batch, .error e, by simp [handedBatch, packed], submitted, rfl, rfl⟩,
        .inl ⟨rfl, rfl, reportedSizes_other _ rfl⟩, ?_⟩
      simp only [RunLoop.submitPending, same, BatchSubmissionRunner.call,
        BatchSubmissionError.isFatal]
      rfl

omit [BlockSource Source Block] in
theorem Ledger.submitPending {self : RunLoop Block Source Sink} (ledger : self.Ledger start startBlock)
    (some : self.pendingBlocks ≠ []) : self.submitPending.Ledger start startBlock := by
  obtain ⟨running, compressor, current, numbers, blocks, filled, counted, numbered, handed, packed⟩ :=
    ledger
  obtain ⟨attempt, sink, metrics, callback, entries, number, taken, outcome, _, same⟩ :=
    submitPending_cases self
  rw [compressor] at outcome
  rw [same]
  refine ⟨running, compressor, current, numbers, ?_, ?_, ?_, ?_, ?_, ?_⟩
  · simpa [taken] using blocks
  · intro other member
    rcases List.mem_append.mp member with old | new
    · exact filled other old
    · rwa [List.mem_singleton.mp new, taken]
  · simp [counted]
  · simp [numbered, number, counted, List.range_succ]
  · rcases outcome with ⟨none, _, rfl, _⟩ | ⟨batch, answer, some, _, rfl, answered⟩
    · simp [handed, handedOver, none]
    · simp [handed, handedOver, some, answered]
  · intro other member success
    rcases List.mem_append.mp member with old | new
    · exact packed other old success
    · rw [List.mem_singleton.mp new] at success ⊢
      rcases outcome with ⟨_, _, _, failed⟩ | ⟨batch, _, some, _⟩
      · rw [failed] at success
        cases success
      · exact ⟨batch, some⟩

omit [BlockSource Source Block] [BatchSink Sink] in
theorem Ledger.fetch {self : RunLoop Block Source Sink} (ledger : self.Ledger start startBlock)
    (blocks : List Block) (source : Source) (callback : Option (List SubmissionCall))
    (metrics : BatchSubmissionMetrics) (pendingSize : Nat) :
    Ledger start startBlock { self with
      runner := { self.runner with source, callback, metrics }
      currentBlock := self.currentBlock + blocks.length
      pendingBlocks := self.pendingBlocks ++ blocks
      pendingSize
      fetched := self.fetched ++ (List.range' self.currentBlock blocks.length).zip blocks } := by
  obtain ⟨running, compressor, current, numbers, kept, filled, counted, numbered, handed, packed⟩ :=
    ledger
  have length : (List.range' self.currentBlock blocks.length).length = blocks.length :=
    List.length_range'
  refine ⟨running, compressor, ?_, ?_, ?_, filled, counted, numbered, handed, packed⟩
  · simp [current, Nat.add_assoc]
  · rw [List.map_append, numbers, List.map_fst_zip (Nat.le_of_eq length), List.length_append,
      List.length_zip, length, Nat.min_self, current, List.range'_append_1]
  · rw [List.map_append, List.map_snd_zip (Nat.le_of_eq length.symm), ← kept, List.append_assoc]

omit [BlockResponse Block Tx] [BlockJson Block] [BlockSource Source Block] [BatchSink Sink] in
theorem advance_eq (self : RunLoop Block Source Sink) (blocksFetched : Nat) :
    self.advance blocksFetched = { self with
      runner := { self.runner with metrics := self.runner.metrics.fetch self.currentBlock blocksFetched }
      currentBlock := self.currentBlock + blocksFetched } := by
  by_cases some : blocksFetched > 0
  · rw [advance, if_pos some, BatchSubmissionMetrics.fetch, if_pos some]
  · rw [advance, if_neg some, BatchSubmissionMetrics.fetch, if_neg some, Nat.eq_zero_of_not_pos some]
    rfl

private theorem blocksToFetch_le (isBacklogged : Bool) (room behind : Nat) :
    (if isBacklogged then min room (behind + 1) else 1) ≤ max room 1 := by
  cases isBacklogged with
  | false => exact Nat.le_max_right _ _
  | true => exact Nat.le_trans (Nat.min_le_left _ _) (Nat.le_max_left _ _)

omit [BlockResponse Block Tx] [BlockJson Block] [BlockSource Source Block] [BatchSink Sink] in
/-- What stays pending is less than a full batch. -/
theorem pending_short {self : RunLoop Block Source Sink} {isBacklogged fetchFailed : Bool}
    (waits : ¬ (self.shouldSubmit isBacklogged fetchFailed && !self.pendingBlocks.isEmpty) = true) :
    self.pendingBlocks = [] ∨ self.pendingBlocks.length < self.runner.config.maxBlocksPerBatch := by
  by_cases none : self.pendingBlocks = []
  · exact .inl none
  · right
    have some : self.pendingBlocks.isEmpty = false := by simpa using none
    rw [some, Bool.not_false, Bool.and_true, RunLoop.shouldSubmit, Bool.or_eq_true, Bool.or_eq_true] at waits
    refine Nat.lt_of_not_le fun full => waits (.inl (.inl ?_))
    exact decide_eq_true full

/-- An iteration fetches some blocks, and then submits all that are pending, or leaves less
than a full batch of them. -/
theorem iterate_cases (self : RunLoop Block Source Sink) :
    self.iterate = self ∨ ∃ (blocks : List Block) (source : Source)
      (callback : Option (List SubmissionCall)) (metrics : BatchSubmissionMetrics)
      (fetching : RunLoop Block Source Sink),
      fetching = { self with
        runner := { self.runner with source, callback, metrics }
        currentBlock := self.currentBlock + blocks.length
        pendingBlocks := self.pendingBlocks ++ blocks
        pendingSize := self.pendingSize + estimatedSize blocks
        fetched := self.fetched ++ (List.range' self.currentBlock blocks.length).zip blocks } ∧
      blocks.length ≤ max (self.runner.config.maxBlocksPerBatch - self.pendingBlocks.length) 1 ∧
      Answered Source self.currentBlock blocks ∧
      metrics = self.runner.metrics.fetch self.currentBlock blocks.length ∧
      reportedSizes callback = reportedSizes self.runner.callback ∧
      (self.iterate = fetching ∧ (fetching.pendingBlocks = [] ∨
          fetching.pendingBlocks.length < fetching.runner.config.maxBlocksPerBatch) ∨
        fetching.pendingBlocks ≠ [] ∧ self.iterate = fetching.submitPending) := by
  unfold RunLoop.iterate
  split
  · exact .inl rfl
  · refine .inr ?_
    cases answered : BlockSource.getHead self.runner.source with
    | mk answer source =>
      simp only []
      generalize looped : (fetchLoop _ _ _ : Nat × Bool × RunLoop Block Source Sink) = result
      obtain ⟨blocksFetched, fetchFailed, after⟩ := result
      obtain ⟨blocks, source, callback, length, few, got, told, same⟩ := fetchLoop_frame looped
      simp only [] at length same ⊢
      subst length same
      refine ⟨blocks, source, callback, _, _, rfl, ?_, got, rfl, ?_, ?_⟩
      · exact Nat.le_trans few (blocksToFetch_le _ _ _)
      · exact told.trans (reportedSizes_other _ rfl)
      · simp only [BatchSubmissionRunner.call, advance_eq]
        split_ifs with submits
        · refine .inr ⟨?_, rfl⟩
          intro nothing
          simp only [nothing, List.isEmpty_nil, Bool.not_true, Bool.and_false, Bool.false_eq_true] at submits
        · exact .inl ⟨rfl, pending_short submits⟩

theorem Ledger.iterate {self : RunLoop Block Source Sink} (ledger : self.Ledger start startBlock) :
    self.iterate.Ledger start startBlock := by
  rcases iterate_cases self with same | ⟨blocks, source, callback, metrics, fetching, grown, _, _, _, _, next⟩
  · rwa [same]
  · have fetched := ledger.fetch blocks source callback metrics (self.pendingSize + estimatedSize blocks)
    rw [← grown] at fetched
    rcases next with ⟨same, _⟩ | ⟨some, same⟩ <;> rw [same]
    · exact fetched
    · exact fetched.submitPending some

theorem ledger_run (runner : BatchSubmissionRunner Source Sink) (startBlock rounds : Nat) :
    (run runner startBlock rounds).Ledger runner startBlock := by
  induction rounds with
  | zero =>
    exact ⟨rfl, rfl, rfl, rfl, rfl, by simp [run, enter], rfl, rfl, by simp [run, enter],
      by simp [run, enter]⟩
  | succ rounds ih => exact ih.iterate

/-- Nothing that a submission asks for was refused: all payloads could be serialized
and compressed, and the sink took every batch it was given since the start. -/
structure NoFailure (start : BatchSubmissionRunner Source Sink) (loop : RunLoop Block Source Sink) :
    Prop where
  packed : ∀ attempt ∈ loop.attempts, (handedBatch start.compressor attempt).isSome
  taken : ∀ entry ∈ loop.runner.submissions.drop start.submissions.length, entry.2.isOk = true

omit [BlockSource Source Block] [BatchSink Sink] in
theorem Ledger.answers {self : RunLoop Block Source Sink} (ledger : self.Ledger start startBlock) :
    (self.runner.submissions.drop start.submissions.length).map (fun entry => (entry.1, entry.2.isOk)) =
      self.attempts.filterMap (handedOver start.compressor) := by
  rw [List.map_drop, ledger.handed]
  exact List.drop_left' (by simp)

omit [BlockSource Source Block] [BatchSink Sink] in
theorem Ledger.noFailure_iff {self : RunLoop Block Source Sink} (ledger : self.Ledger start startBlock) :
    self.NoFailure start ↔ ∀ attempt ∈ self.attempts, attempt.outcome.isOk = true := by
  have answers := ledger.answers
  constructor
  · intro clean attempt member
    obtain ⟨batch, handed⟩ := Option.isSome_iff_exists.mp (clean.packed attempt member)
    have listed : (batch, attempt.outcome.isOk) ∈ self.attempts.filterMap (handedOver start.compressor) :=
      List.mem_filterMap.mpr ⟨attempt, member, by simp [handedOver, handed]⟩
    rw [← answers] at listed
    obtain ⟨entry, submitted, same⟩ := List.mem_map.mp listed
    rw [← (Prod.mk.inj same).2]
    exact clean.taken entry submitted
  · intro successful
    refine ⟨fun attempt member => ?_, fun entry submitted => ?_⟩
    · obtain ⟨batch, handed⟩ := ledger.packed attempt member (successful attempt member)
      simp [handed]
    · have listed : (entry.1, entry.2.isOk) ∈ self.attempts.filterMap (handedOver start.compressor) := by
        rw [← answers]
        exact List.mem_map_of_mem submitted
      obtain ⟨attempt, member, handed⟩ := List.mem_filterMap.mp listed
      obtain ⟨batch, _, same⟩ := Option.map_eq_some_iff.mp handed
      rw [← (Prod.mk.inj same).2]
      exact successful attempt member

omit [BlockSource Source Block] [BatchSink Sink] in
/-- The blocks of an attempt that failed are neither submitted nor pending. -/
theorem Ledger.conserved_iff {self : RunLoop Block Source Sink} (ledger : self.Ledger start startBlock) :
    self.Conserved startBlock ↔ ∀ attempt ∈ self.attempts, attempt.outcome.isOk = true := by
  constructor
  · intro conserved
    have kept := List.append_cancel_right (conserved.blocks.trans ledger.blocks.symm)
    exact all_of_flatMap_filter ledger.filled kept
  · intro successful
    refine ⟨?_, ?_⟩
    · rw [ledger.numbers, ledger.current, Nat.add_sub_cancel_left]
    · rw [submittedBlocks, List.filter_eq_self.mpr successful]
      exact ledger.blocks

/-- The runner loses no block exactly as long as no submission fails: a failed batch
is cleared like a submitted one. -/
theorem conserved_iff_noFailure (runner : BatchSubmissionRunner Source Sink) (startBlock rounds : Nat) :
    (run runner startBlock rounds).Conserved startBlock ↔
      (run runner startBlock rounds).NoFailure runner := by
  have ledger : (run runner startBlock rounds).Ledger runner startBlock :=
    ledger_run runner startBlock rounds
  exact ledger.conserved_iff.trans ledger.noFailure_iff.symm

end Steps

section Examples

open Reference

/-- Blocks of one byte that are their own numbers, up to a head that stays where it is. -/
structure ShortChain where
  head : Nat
  deriving DecidableEq, Repr

instance : BlockSource ShortChain UInt8 where
  getBlock chain number :=
    (if number ≤ chain.head then .ok (UInt8.ofNat number) else .error (.blockNotFound number), chain)
  getHead chain := (.ok chain.head, chain)

/-- Two blocks go into one batch; the sink answers as listed. -/
def twoBlocks (answers : List Bool) : BatchSubmissionRunner ShortChain ScriptedSink :=
  .new ⟨2⟩ noop ⟨answers⟩ { maxBlocksPerBatch := 2 }

example : (run (twoBlocks [true]) 1 1).submittedBlocks = [1, 2] := by decide

/-- The sink times out once: the two blocks are neither submitted nor pending any more. -/
theorem refused_batch_lost :
    (run (twoBlocks [false]) 1 1).fetched = [(1, 1), (2, 2)] ∧
      (run (twoBlocks [false]) 1 1).pendingBlocks = [] ∧
      ¬ (run (twoBlocks [false]) 1 1).Conserved 1 := by
  refine ⟨by decide, by decide, fun conserved => ?_⟩
  exact absurd conserved.blocks (by decide)

end Examples

end RunLoop

end Montana.Batching
