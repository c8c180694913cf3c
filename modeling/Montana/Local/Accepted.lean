import Montana.Lib.Runs
import Montana.Local.Sink

/-! What the local sink holds after a sequence of calls, against the batches that it accepted. -/

namespace Montana.Local

/-- A sink, the files, and every batch handed over with its answer. -/
structure SinkRun where
  sink : LocalBatchSink
  files : FileSystem
  answers : List (CompressedBatch × Except SinkError SubmissionReceipt)

/-- What a sink should hold that accepted these batches: each once and in order, with
consecutive L1 blocks from 1 on. -/
def ledgerOf (accepted : List CompressedBatch) : JsonSinkData where
  batches := accepted.map jsonBatch
  receipts := (accepted.zipIdx 1).map fun (batch, l1Block) => jsonReceipt batch l1Block

namespace SinkRun

/-- A new sink, with or without a file. -/
def start (outputPath : Option Path) (capacity : Nat) (files : FileSystem) : SinkRun where
  sink := match outputPath with
    | some path => (LocalBatchSink.new path).withCapacity capacity
    | none => LocalBatchSink.inMemory.withCapacity capacity
  files := files
  answers := []

def accepted (self : SinkRun) : List CompressedBatch :=
  (self.answers.filter (·.2.isOk)).map Prod.fst

variable (toStringPretty : JsonSinkData → Except String Bytes)

def answer (self : SinkRun) (call : CompressedBatch × WriteOutcome) : Except SinkError SubmissionReceipt :=
  (self.sink.submit toStringPretty self.files call.1 call.2).1

def submit (self : SinkRun) (call : CompressedBatch × WriteOutcome) : SinkRun where
  sink := (self.sink.submit toStringPretty self.files call.1 call.2).2.1
  files := (self.sink.submit toStringPretty self.files call.1 call.2).2.2
  answers := self.answers ++ [(call.1, self.answer toStringPretty call)]

/-- In memory are the accepted batches and nothing else. -/
structure KeepsAccepted (run : SinkRun) : Prop where
  data : run.sink.data = ledgerOf run.accepted
  next : run.sink.nextL1Block = run.accepted.length + 1

/-- What one call should come to: the accepted batches in memory, after an `Ok` also in the
file, and after an error nothing changed. -/
structure RightCall (run : SinkRun) (call : CompressedBatch × WriteOutcome) : Prop where
  kept : (run.submit toStringPretty call).KeepsAccepted
  refused : ∀ e, run.answer toStringPretty call = .error e →
    (run.submit toStringPretty call).sink = run.sink
  numbered : ∀ receipt, run.answer toStringPretty call = .ok receipt →
    receipt.l1Block = run.accepted.length + 1
  written : ∀ receipt path, run.answer toStringPretty call = .ok receipt →
    run.sink.outputPath = some path →
      ∃ json, toStringPretty (ledgerOf (run.accepted ++ [call.1])) = .ok json ∧
        (run.submit toStringPretty call).files path = some json

/-- There is no file, or the data with this batch can be serialized and written to it. -/
def CanWrite (self : SinkRun) (call : CompressedBatch × WriteOutcome) : Prop :=
  self.sink.outputPath = none ∨
    (∃ json, toStringPretty (self.sink.record call.1).data = .ok json) ∧ call.2 = .written

variable {toStringPretty} {self : SinkRun} {call : CompressedBatch × WriteOutcome}

/-- A batch is recorded whatever the answer will be. -/
theorem submit_sink (self : SinkRun) (call : CompressedBatch × WriteOutcome) :
    (self.submit toStringPretty call).sink = self.sink.record call.1 := by
  rw [submit, LocalBatchSink.submit]
  split <;> rfl

/-- The file decides on the answer. -/
theorem answer_cases (self : SinkRun) (call : CompressedBatch × WriteOutcome) :
    (self.CanWrite toStringPretty call ∧ ∃ receipt, self.answer toStringPretty call = .ok receipt ∧
      receipt.l1Block = self.sink.nextL1Block ∧
      ∀ path, self.sink.outputPath = some path →
        ∃ json, toStringPretty (self.sink.record call.1).data = .ok json ∧
          (self.submit toStringPretty call).files path = some json) ∨
    (¬ self.CanWrite toStringPretty call ∧ ∃ e, self.answer toStringPretty call = .error e) := by
  obtain ⟨batch, outcome⟩ := call
  have same : (self.sink.record batch).outputPath = self.sink.outputPath := rfl
  simp only [CanWrite, answer, submit, LocalBatchSink.submit, LocalBatchSink.writeToFile, same]
  cases output : self.sink.outputPath with
  | none => exact .inl ⟨.inl rfl, _, rfl, rfl, by simp⟩
  | some path =>
    cases serialized : toStringPretty (self.sink.record batch).data with
    | error e => exact .inr ⟨by simp, _, rfl⟩
    | ok json =>
      cases outcome with
      | failed message left => exact .inr ⟨by simp, _, rfl⟩
      | written =>
        refine .inl ⟨.inr ⟨⟨json, rfl⟩, rfl⟩, _, rfl, rfl, ?_⟩
        intro other here
        cases here
        exact ⟨json, rfl, FileSystem.write_self self.files path json⟩

private theorem ledgerOf_append (accepted : List CompressedBatch) (batch : CompressedBatch) :
    ledgerOf (accepted ++ [batch]) = {
      batches := (ledgerOf accepted).batches ++ [jsonBatch batch]
      receipts := (ledgerOf accepted).receipts ++ [jsonReceipt batch (accepted.length + 1)] } := by
  simp [ledgerOf, List.zipIdx_append, Nat.add_comm 1]

private theorem accepted_ok {receipt : SubmissionReceipt}
    (taken : self.answer toStringPretty call = .ok receipt) :
    (self.submit toStringPretty call).accepted = self.accepted ++ [call.1] := by
  simp [accepted, submit, taken, Except.isOk, Except.toBool]

/-- The data with one more batch is what should be held after accepting it. -/
theorem KeepsAccepted.record (keeps : self.KeepsAccepted) (batch : CompressedBatch) :
    (self.sink.record batch).data = ledgerOf (self.accepted ++ [batch]) := by
  rw [ledgerOf_append, ← keeps.data, ← keeps.next]
  rfl

/-- As long as all went well before, a call is right exactly where the file can be written. -/
theorem KeepsAccepted.rightCall_iff (keeps : self.KeepsAccepted) :
    self.RightCall toStringPretty call ↔ self.CanWrite toStringPretty call := by
  rcases answer_cases self call with ⟨can, receipt, taken, numbered, written⟩ | ⟨cannot, e, refused⟩
  · refine iff_of_true ?_ can
    refine ⟨⟨?_, ?_⟩, ?_, ?_, ?_⟩
    · rw [submit_sink, accepted_ok taken]
      exact keeps.record call.1
    · rw [submit_sink, accepted_ok taken, List.length_append]
      exact congrArg (· + 1) keeps.next
    · intro e refused
      rw [taken] at refused
      cases refused
    · intro other same
      rw [taken] at same
      cases same
      rw [numbered, keeps.next]
    · intro other path _ output
      rw [← keeps.record]
      exact written path output
  · refine iff_of_false ?_ cannot
    intro right
    have unchanged := right.refused e refused
    rw [submit_sink] at unchanged
    have counted := congrArg LocalBatchSink.nextL1Block unchanged
    exact absurd counted (Nat.succ_ne_self _)

private theorem keepsAccepted_start (outputPath : Option Path) (capacity : Nat) (files : FileSystem) :
    (start outputPath capacity files).KeepsAccepted := by
  cases outputPath <;> exact ⟨rfl, rfl⟩

/-- The calls of a run are right exactly as long as each of them can write the file, as the
batch is recorded before the file is written. -/
theorem rightCalls_iff (toStringPretty : JsonSinkData → Except String Bytes) (outputPath : Option Path)
    (capacity : Nat) (files : FileSystem) (calls : List (CompressedBatch × WriteOutcome)) :
    Runs.Guarded (submit toStringPretty) (RightCall toStringPretty) (start outputPath capacity files) calls ↔
      Runs.Guarded (submit toStringPretty) (CanWrite toStringPretty)
        (start outputPath capacity files) calls :=
  Runs.guarded_congr KeepsAccepted (fun _ _ keeps => keeps.rightCall_iff) (fun _ _ _ right => right.kept)
    calls (keepsAccepted_start outputPath capacity files)

def disk : Path := ⟨["data"], "batches.json"⟩

def seventh : CompressedBatch where
  batchNumber := 7
  data := [1, 2, 3]
  blockCount := 1
  firstBlock := 1
  lastBlock := 1

/-- The disk is full once, and the batch is handed over again. -/
def resubmitted : List (CompressedBatch × WriteOutcome) :=
  [(seventh, .failed "no space left on device" none), (seventh, .written)]

/-- A file that lists the batch numbers. -/
def numbersOnly (data : JsonSinkData) : Except String Bytes :=
  .ok (data.batches.map fun batch => UInt8.ofNat batch.batchNumber)

/-- The batch was accepted once, and the file has it twice. -/
theorem resubmitted_twice :
    (resubmitted.foldl (submit numbersOnly) (start (some disk) 131072 (fun _ => none))).accepted = [seventh] ∧
      (resubmitted.foldl (submit numbersOnly) (start (some disk) 131072 (fun _ => none))).files disk =
        some [7, 7] ∧
      ¬ Runs.Guarded (submit numbersOnly) (RightCall numbersOnly)
        (start (some disk) 131072 (fun _ => none)) resubmitted := by
  refine ⟨by decide +kernel, by decide +kernel, ?_⟩
  intro right
  have unchanged := right.1.refused _ rfl
  have counted := congrArg LocalBatchSink.nextL1Block unchanged
  exact absurd counted (Nat.succ_ne_self _)

end SinkRun

end Montana.Local
