import Montana.Batching.Bounds
import Montana.Lib.Totals

/-! What the batch submission runner reports to its callback and in its counters, against
what it did. -/

namespace Montana.Batching

variable {Block Source Sink Tx : Type}

open BatchSubmissionRunner (packBatch packBatch_number)

namespace RunLoop

variable [BlockResponse Block Tx] [BlockJson Block]

/-- The batch of an attempt that the sink accepted, with the size of its payload. -/
def acceptedBatch (compressor : Compressor) (attempt : Attempt Block) : Option (Nat × CompressedBatch) :=
  if attempt.outcome.isOk then (packBatch compressor attempt.batchNumber attempt.blocks).toOption else none

def accepted (compressor : Compressor) (self : RunLoop Block Source Sink) : List (Nat × CompressedBatch) :=
  self.attempts.filterMap (acceptedBatch compressor)

/-- The accepted batches by number, and the sizes of their compressed data. -/
def acceptedNumbers (compressor : Compressor) (self : RunLoop Block Source Sink) : List Nat :=
  (self.accepted compressor).map (·.2.batchNumber)

def compressedSizes (compressor : Compressor) (self : RunLoop Block Source Sink) : List Nat :=
  (self.accepted compressor).map (·.2.data.length)

private theorem length_acceptedNumbers (compressor : Compressor) (self : RunLoop Block Source Sink) :
    (self.acceptedNumbers compressor).length = (self.compressedSizes compressor).length := by
  rw [acceptedNumbers, compressedSizes, List.length_map, List.length_map]

/-- What the counters and the callback say after any number of iterations. -/
structure Books (start : BatchSubmissionRunner Source Sink) (loop : RunLoop Block Source Sink) : Prop where
  compressor : loop.runner.compressor = start.compressor
  batches : loop.runner.metrics.batchesSubmitted = (loop.accepted start.compressor).length
  blocks : loop.runner.metrics.blocksProcessed = loop.submittedBlocks.length
  original : loop.runner.metrics.bytesOriginal = ((loop.accepted start.compressor).map (·.1)).sum
  compressed : loop.runner.metrics.bytesCompressed = (loop.compressedSizes start.compressor).sum
  reports : reportedSizes loop.runner.callback = start.callback.map fun _ =>
    (loop.acceptedNumbers start.compressor).zip (Totals.running 0 (loop.compressedSizes start.compressor))
  latest : loop.fetched ≠ [] → loop.runner.metrics.latestBlock = loop.currentBlock

variable [BatchSink Sink] {start : BatchSubmissionRunner Source Sink} {self : RunLoop Block Source Sink}

private theorem acceptedBatch_refused {compressor : Compressor} {attempt : Attempt Block}
    (refused : attempt.outcome.isOk = false) : acceptedBatch compressor attempt = none := by
  rw [acceptedBatch, refused]
  rfl

private theorem acceptedBatch_ok {compressor : Compressor} {attempt : Attempt Block} {size : Nat}
    {batch : CompressedBatch} (ok : attempt.outcome.isOk = true)
    (packed : packBatch compressor attempt.batchNumber attempt.blocks = .ok (size, batch)) :
    acceptedBatch compressor attempt = some (size, batch) := by
  rw [acceptedBatch, if_pos ok, packed]
  rfl

/-- The reported pairs grow by the batch and the sum of all sizes up to it. -/
theorem reported_append {numbers sizes : List Nat} (number size : Nat) (same : numbers.length = sizes.length) :
    (numbers ++ [number]).zip (Totals.running 0 (sizes ++ [size])) =
      numbers.zip (Totals.running 0 sizes) ++ [(number, sizes.sum + size)] := by
  rw [Totals.running_append, List.zip_append (by rw [same, Totals.length_running]), Nat.zero_add]
  rfl

theorem Books.submitPending (books : self.Books start) : self.submitPending.Books start := by
  obtain ⟨compressor, batches, blocks, original, compressed, reports, latest⟩ := books
  obtain ⟨attempt, sink, metrics, callback, entries, number, taken, _, booked, same⟩ :=
    submitPending_cases self
  rw [same]
  rcases booked with ⟨refused, rfl, told⟩ | ⟨size, batch, ok, packed, rfl, told⟩
  · have unchanged : (self.attempts ++ [attempt]).filterMap (acceptedBatch start.compressor) =
        self.attempts.filterMap (acceptedBatch start.compressor) := by
      rw [List.filterMap_append, List.filterMap_cons_none (acceptedBatch_refused refused)]
      simp
    have noBlocks : (self.attempts ++ [attempt]).filter (·.outcome.isOk) =
        self.attempts.filter (·.outcome.isOk) := by
      simp [refused]
    refine ⟨compressor, ?_, ?_, ?_, ?_, ?_, latest⟩
    all_goals simp only [accepted, submittedBlocks, compressedSizes, acceptedNumbers, unchanged, noBlocks]
    · exact batches
    · exact blocks
    · exact original
    · exact compressed
    · exact told.trans reports
  · rw [compressor] at packed
    have grown : (self.attempts ++ [attempt]).filterMap (acceptedBatch start.compressor) =
        self.attempts.filterMap (acceptedBatch start.compressor) ++ [(size, batch)] := by
      rw [List.filterMap_append, List.filterMap_cons_some (acceptedBatch_ok ok packed)]
      rfl
    have moreBlocks : (self.attempts ++ [attempt]).filter (·.outcome.isOk) =
        self.attempts.filter (·.outcome.isOk) ++ [attempt] := by
      simp [ok]
    refine ⟨compressor, ?_, ?_, ?_, ?_, ?_, latest⟩
    all_goals simp only [accepted, submittedBlocks, compressedSizes, acceptedNumbers, grown, moreBlocks,
      BatchSubmissionMetrics.accept, List.map_append, List.flatMap_append, List.length_append]
    · rw [batches]
      rfl
    · rw [blocks]
      simp [submittedBlocks]
    · rw [original]
      simp [accepted]
    · rw [compressed]
      simp [compressedSizes, accepted]
    · rw [told, reports, Option.map_map, ← packBatch_number packed]
      have appended := reported_append batch.batchNumber batch.data.length
        (self.length_acceptedNumbers start.compressor)
      rw [← compressed] at appended
      exact congrArg (fun pairs => start.callback.map fun _ => pairs) appended.symm

omit [BatchSink Sink] in
/-- Fetching moves the latest block, and nothing else that is counted or reported. -/
theorem Books.fetch (books : self.Books start) (blocks : List Block) (source : Source)
    {callback : Option (List SubmissionCall)} (pendingSize : Nat)
    (told : reportedSizes callback = reportedSizes self.runner.callback) :
    Books start { self with
      runner := { self.runner with
        source, callback, metrics := self.runner.metrics.fetch self.currentBlock blocks.length }
      currentBlock := self.currentBlock + blocks.length
      pendingBlocks := self.pendingBlocks ++ blocks
      pendingSize
      fetched := self.fetched ++ (List.range' self.currentBlock blocks.length).zip blocks } := by
  obtain ⟨compressor, batches, counted, original, compressed, reports, latest⟩ := books
  by_cases some : blocks.length > 0
  · rw [BatchSubmissionMetrics.fetch, if_pos some]
    exact ⟨compressor, batches, counted, original, compressed, told.trans reports, fun _ => rfl⟩
  · rw [BatchSubmissionMetrics.fetch, if_neg some]
    refine ⟨compressor, batches, counted, original, compressed, told.trans reports, ?_⟩
    have none : blocks = [] := List.length_eq_zero_iff.mp (Nat.eq_zero_of_not_pos some)
    subst none
    intro fetched
    have before : self.fetched ≠ [] := by simpa using fetched
    exact latest before

variable [BlockSource Source Block]

theorem Books.iterate (books : self.Books start) : self.iterate.Books start := by
  rcases iterate_cases self with same |
    ⟨blocks, source, callback, metrics, fetching, grown, _, _, counted, told, next⟩
  · rwa [same]
  · have fetched := books.fetch blocks source (self.pendingSize + estimatedSize blocks) told
    rw [← counted, ← grown] at fetched
    rcases next with ⟨same, _⟩ | ⟨_, same⟩
    · rwa [same]
    · rw [same]
      exact fetched.submitPending

omit [BlockSource Source Block] [BatchSink Sink] in
private theorem books_enter (fresh : start.metrics = {})
    (quiet : reportedSizes start.callback = start.callback.map fun _ => []) (startBlock : Nat) :
    (enter start startBlock : RunLoop Block Source Sink).Books start := by
  refine ⟨rfl, ?_, ?_, ?_, ?_, quiet, fun some => absurd rfl some⟩
  all_goals
    rw [enter, fresh]
    rfl

private theorem books_run (fresh : start.metrics = {})
    (quiet : reportedSizes start.callback = start.callback.map fun _ => []) (startBlock rounds : Nat) :
    (run start startBlock rounds : RunLoop Block Source Sink).Books start := by
  induction rounds with
  | zero => exact books_enter fresh quiet startBlock
  | succ rounds ih => exact ih.iterate

/-- The totals are the sums over the accepted batches. -/
structure TotalsTruthful (compressor : Compressor) (loop : RunLoop Block Source Sink) : Prop where
  original : loop.runner.metrics.bytesOriginal = ((loop.accepted compressor).map (·.1)).sum
  compressed : loop.runner.metrics.bytesCompressed = (loop.compressedSizes compressor).sum
  blocks : loop.runner.metrics.blocksProcessed = loop.submittedBlocks.length

/-- The callback was told of every accepted batch with the size of its own data. -/
def SizesTruthful (compressor : Compressor) (loop : RunLoop Block Source Sink) : Prop :=
  ∀ reports, reportedSizes loop.runner.callback = some reports →
    reports = (loop.acceptedNumbers compressor).zip (loop.compressedSizes compressor)

/-- The latest block is the last one that was fetched, by the number it was asked for. -/
def LatestTruthful (loop : RunLoop Block Source Sink) : Prop :=
  ∀ entry, loop.fetched.getLast? = some entry → loop.runner.metrics.latestBlock = entry.1

structure Truthful (compressor : Compressor) (loop : RunLoop Block Source Sink) : Prop where
  totals : loop.TotalsTruthful compressor
  sizes : loop.SizesTruthful compressor
  latest : loop.LatestTruthful

omit [BlockSource Source Block] [BatchSink Sink] in
private theorem Books.totals (books : self.Books start) : self.TotalsTruthful start.compressor :=
  ⟨books.original, books.compressed, books.blocks⟩

/-- No callback is there to be told, or only the last accepted batch has any data. -/
def TellsOwnSizes (start : BatchSubmissionRunner Source Sink) (loop : RunLoop Block Source Sink) : Prop :=
  start.callback = none ∨ ∀ size ∈ (loop.compressedSizes start.compressor).dropLast, size = 0

omit [BlockSource Source Block] [BatchSink Sink] in
private theorem Books.sizes_iff (books : self.Books start) :
    self.SizesTruthful start.compressor ↔ self.TellsOwnSizes start := by
  have lengths := self.length_acceptedNumbers start.compressor
  rw [SizesTruthful, TellsOwnSizes, books.reports]
  cases called : start.callback with
  | none => simp
  | some calls =>
    have running := Totals.running_eq_self_iff 0 (self.compressedSizes start.compressor)
    constructor
    · intro truthful
      right
      have zipped := truthful _ rfl
      have same := congrArg (List.map Prod.snd) zipped
      rw [List.map_snd_zip (by rw [Totals.length_running, lengths]), List.map_snd_zip (by rw [lengths])] at same
      rcases running.mp same with empty | ⟨_, zero⟩
      · rw [empty]
        simp
      · exact zero
    · intro own
      rcases own with absent | zero
      · cases absent
      · intro reports told
        cases told
        rw [running.mpr (.inr ⟨rfl, zero⟩)]

omit [BlockSource Source Block] [BatchSink Sink] in
/-- The current block is one past the last that was fetched. -/
theorem Ledger.lastFetched {startBlock : Nat} (ledger : self.Ledger start startBlock)
    (filled : self.fetched ≠ []) :
    ∃ entry, self.fetched.getLast? = some entry ∧ self.currentBlock = entry.1 + 1 := by
  have length : self.fetched.length ≠ 0 := fun none => filled (List.length_eq_zero_iff.mp none)
  have last := congrArg List.getLast? ledger.numbers
  rw [List.getLast?_map, List.getLast?_range', if_neg length] at last
  obtain ⟨entry, found, number⟩ := Option.map_eq_some_iff.mp last
  refine ⟨entry, found, ?_⟩
  rw [number, ledger.current]
  omega

omit [BlockSource Source Block] [BatchSink Sink] in
private theorem Books.latest_iff {startBlock : Nat} (books : self.Books start)
    (ledger : self.Ledger start startBlock) :
    self.LatestTruthful ↔ self.fetched = [] := by
  constructor
  · intro truthful
    by_contra filled
    obtain ⟨entry, found, next⟩ := ledger.lastFetched filled
    have latest := truthful entry found
    rw [books.latest filled, next] at latest
    exact absurd latest (Nat.succ_ne_self _)
  · intro none entry last
    rw [none] at last
    cases last

omit [BlockSource Source Block] [BatchSink Sink] in
/-- Without a block there was nothing to submit. -/
theorem Ledger.accepted_nil {startBlock : Nat} (ledger : self.Ledger start startBlock)
    (none : self.fetched = []) (compressor : Compressor) : self.accepted compressor = [] := by
  have blocks := ledger.blocks
  rw [none, List.map_nil, List.append_eq_nil_iff, List.flatMap_eq_nil_iff] at blocks
  have attempts : self.attempts = [] := by
    apply List.eq_nil_iff_forall_not_mem.mpr
    intro attempt member
    exact ledger.filled attempt member (blocks.1 attempt member)
  rw [accepted, attempts]
  rfl

/-- The next iteration fetches no block: the runner is paused, a whole batch is pending already,
or the first block it asks for is not given out. -/
def FetchesNothing (self : RunLoop Block Source Sink) : Prop :=
  self.runner.paused = true ∨
    (∃ head, (BlockSource.getHead self.runner.source).1 = .ok head ∧ self.currentBlock < head ∧
      self.runner.config.maxBlocksPerBatch ≤ self.pendingBlocks.length) ∨
    ∃ e, (BlockSource.getBlock (BlockSource.getHead self.runner.source).2 self.currentBlock).1 = .error e

omit [BlockJson Block] [BatchSink Sink] in
private theorem fetchLoop_zero_iff (remaining blockNum : Nat) (self : RunLoop Block Source Sink) :
    (fetchLoop remaining blockNum self).1 = 0 ↔
      remaining = 0 ∨ ∃ e, (BlockSource.getBlock self.runner.source blockNum).1 = .error e := by
  cases remaining with
  | zero => simp [fetchLoop]
  | succ remaining =>
    cases got : BlockSource.getBlock self.runner.source blockNum with
    | mk answer source =>
      cases answer with
      | error e => simp [fetchLoop, got]
      | ok block =>
        simp only [fetchLoop, got]
        split <;> simp

omit [BlockSource Source Block] in
private theorem submitPending_fetched (self : RunLoop Block Source Sink) :
    self.submitPending.fetched = self.fetched := by
  obtain ⟨_, _, _, _, _, _, _, _, _, same⟩ := submitPending_cases self
  rw [same]

private theorem blocksToFetch_eq_zero (head current room : Nat) :
    (if decide (head - current > 0) then min room (head - current + 1) else 1) = 0 ↔
      current < head ∧ room = 0 := by
  by_cases behind : head - current > 0
  · rw [if_pos (by simpa using behind)]
    omega
  · rw [if_neg (by simpa using behind)]
    omega

/-- An iteration of a runner that is not paused fetches what its fetch loop does. -/
theorem iterate_fetched_iff (running : self.returned = none) :
    self.iterate.fetched = self.fetched ↔ self.FetchesNothing := by
  by_cases paused : self.runner.paused = true
  · have stays : self.iterate = self := if_pos (by simp [paused])
    exact iff_of_true (congrArg RunLoop.fetched stays) (.inl paused)
  · rw [RunLoop.iterate, if_neg (by simp [running, paused]), FetchesNothing, or_iff_right paused]
    cases asked : BlockSource.getHead self.runner.source with
    | mk answer source =>
      simp only []
      generalize looped : (fetchLoop _ _ _ : Nat × Bool × RunLoop Block Source Sink) = result
      have nothing := congrArg (fun result => result.1 = 0) looped
      simp only [fetchLoop_zero_iff, blocksToFetch_eq_zero] at nothing
      obtain ⟨blocksFetched, fetchFailed, after⟩ := result
      obtain ⟨blocks, later, callback, length, _, _, _, same⟩ := fetchLoop_frame looped
      have ended : ∀ submits : Bool, (if submits then (after.advance blocksFetched).submitPending
          else after.advance blocksFetched).fetched = after.fetched := by
        intro submits
        rw [apply_ite RunLoop.fetched, submitPending_fetched, advance_eq, ite_self]
      have unchanged : after.fetched = self.fetched ↔ blocksFetched = 0 := by
        simp only [] at same length
        rw [same, ← length]
        simp only [List.append_right_eq_self, List.length_eq_zero_iff]
        constructor
        · intro empty
          cases blocks with
          | nil => rfl
          | cons block rest => cases empty
        · intro none
          rw [none]
          rfl
      simp only [] at nothing ⊢
      rw [ended, unchanged, ← nothing]
      apply or_congr_left
      cases answer with
      | error e => simp
      | ok head => simp [Nat.sub_eq_zero_iff_le, BatchSubmissionRunner.call]

/-- A run has fetched nothing as long as none of its iterations does. -/
theorem fetched_nil_iff (runner : BatchSubmissionRunner Source Sink) (startBlock rounds : Nat) :
    (∀ count ≤ rounds, (run runner startBlock count).fetched = []) ↔
      ∀ count < rounds, (run runner startBlock count).FetchesNothing := by
  constructor
  · intro empty count before
    have running := (ledger_run runner startBlock count).running
    apply (iterate_fetched_iff running).mp
    rw [empty count (Nat.le_of_lt before)]
    exact empty (count + 1) before
  · intro nothing count within
    induction count with
    | zero => rfl
    | succ count ih =>
      have running := (ledger_run runner startBlock count).running
      have same := (iterate_fetched_iff running).mpr (nothing count within)
      rw [run, same]
      exact ih (Nat.le_of_succ_le within)

/-- The reports of a runner whose counters and callback start empty. -/
theorem truthful_run_iff (fresh : start.metrics = {})
    (quiet : reportedSizes start.callback = start.callback.map fun _ => []) (startBlock rounds : Nat) :
    (∀ count ≤ rounds, (run start startBlock count).Truthful start.compressor) ↔
      ∀ count < rounds, (run start startBlock count).FetchesNothing := by
  rw [← fetched_nil_iff]
  constructor
  · intro truthful count within
    have books : (run start startBlock count).Books start := books_run fresh quiet startBlock count
    exact (books.latest_iff (ledger_run start startBlock count)).mp (truthful count within).latest
  · intro empty count within
    have books : (run start startBlock count).Books start := books_run fresh quiet startBlock count
    have ledger : (run start startBlock count).Ledger start startBlock := ledger_run start startBlock count
    have none := empty count within
    refine ⟨books.totals, ?_, (books.latest_iff ledger).mpr none⟩
    apply books.sizes_iff.mpr
    right
    rw [compressedSizes, ledger.accepted_nil none]
    simp

/-- A runner that was not run before. -/
def launch (source : Source) (compressor : Compressor) (sink : Sink) (config : BatchSubmissionConfig)
    (watched paused : Bool) : BatchSubmissionRunner Source Sink :=
  let runner := BatchSubmissionRunner.new source compressor sink config
  let runner := if watched then runner.withCallback else runner
  if paused then runner.pause else runner

omit [BlockResponse Block Tx] [BlockJson Block] [BatchSink Sink] [BlockSource Source Block] in
private theorem launch_fresh (source : Source) (compressor : Compressor) (sink : Sink)
    (config : BatchSubmissionConfig) (watched paused : Bool) :
    (launch source compressor sink config watched paused).compressor = compressor ∧
      (launch source compressor sink config watched paused).metrics = {} ∧
      reportedSizes (launch source compressor sink config watched paused).callback =
        (launch source compressor sink config watched paused).callback.map fun _ => [] := by
  cases watched <;> cases paused <;> exact ⟨rfl, rfl, rfl⟩

/-- The totals are always right. The size that is reported for a batch is the sum so far, so it
is right only where all batches before have no data; and the latest block is one too many as
soon as there is one. -/
theorem reports_exact (source : Source) (compressor : Compressor) (sink : Sink)
    (config : BatchSubmissionConfig) (watched paused : Bool) (startBlock rounds : Nat) :
    (run (launch source compressor sink config watched paused) startBlock rounds).TotalsTruthful compressor ∧
    ((run (launch source compressor sink config watched paused) startBlock rounds).SizesTruthful compressor ↔
      (run (launch source compressor sink config watched paused) startBlock rounds).TellsOwnSizes
        (launch source compressor sink config watched paused)) ∧
    ((∀ count ≤ rounds,
        (run (launch source compressor sink config watched paused) startBlock count).Truthful compressor) ↔
      ∀ count < rounds,
        (run (launch source compressor sink config watched paused) startBlock count).FetchesNothing) := by
  obtain ⟨same, fresh, quiet⟩ := launch_fresh source compressor sink config watched paused
  generalize launch source compressor sink config watched paused = start at same fresh quiet
  subst same
  have books : (run start startBlock rounds).Books start := books_run fresh quiet startBlock rounds
  exact ⟨books.totals, books.sizes_iff, truthful_run_iff fresh quiet startBlock rounds⟩

section Examples

open Reference

/-- Blocks 1 and 2 in a batch of one byte each. -/
def oneByOne : RunLoop UInt8 ShortChain ScriptedSink :=
  run (launch ⟨2⟩ noop ⟨[]⟩ { maxBlocksPerBatch := 1 } true false) 1 2

/-- The second batch is reported with two bytes, and block 3 as the latest. -/
theorem second_batch_overstated :
    oneByOne.fetched = [(1, 1), (2, 2)] ∧ oneByOne.compressedSizes noop = [1, 1] ∧
      reportedSizes oneByOne.runner.callback = some [(0, 1), (1, 2)] ∧
      oneByOne.runner.metrics.latestBlock = 3 ∧ ¬ oneByOne.Truthful noop := by
  have latest : oneByOne.runner.metrics.latestBlock = 3 := by decide +kernel
  have last : oneByOne.fetched.getLast? = some (2, 2) := by decide +kernel
  refine ⟨by decide +kernel, by decide +kernel, by decide +kernel, latest, ?_⟩
  intro truthful
  have same := truthful.latest (2, 2) last
  rw [latest] at same
  cases same

end Examples

end RunLoop

end Montana.Batching
