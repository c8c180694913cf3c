import Montana.Roles.SequencerOrder

/-! Restarts and failures: which of them lose blocks or stop the numbering. -/

namespace Montana.Roles.Sequencer

variable {Block Sink Store Tx : Type}

/-- The next batch to submit is held or not numbered yet, so that submission can go on. -/
def CanGoOn (self : Sequencer Block Sink Store) : Prop :=
  self.heldNumbers ≠ [] →
    self.nextSubmissionNumber ∈ self.heldNumbers ∨ self.nextBatchNumber ≤ self.nextSubmissionNumber

section Recovery

variable [BlockResponse Block Tx] [BlockJson Block] [BatchSink Sink] [CheckpointStore Store]

omit [BatchSink Sink] [CheckpointStore Store] in
theorem Orderly.conserved {self : Sequencer Block Sink Store} (orderly : self.Orderly)
    (clean : self.faults = []) : self.Conserved := by
  refine (conserved_iff orderly.ledger.cut orderly.ledger.accounted).mpr ?_
  simp [lostBlocks, droppedNumbers, (orderly.ordered clean).skipped, clean]

omit [BatchSink Sink] [CheckpointStore Store] in
private theorem Orderly.canGoOn {self : Sequencer Block Sink Store} (orderly : self.Orderly)
    (clean : self.faults = []) : self.CanGoOn := by
  intro some
  obtain ⟨below, held⟩ := (orderly.ordered clean).held orderly.ledger.cut orderly.ledger.accounted clean
  refine .inl (held.mem_iff.mpr (List.mem_range'_1.mpr ⟨le_rfl, ?_⟩))
  have filled := List.length_pos_iff.mpr some
  rw [held.length_eq, List.length_range'] at filled
  omega

/-- A restart whose checkpoint lies behind the numbering loses nothing. -/
theorem restart_conserves_when_ahead {start : Sequencer Block Sink Store} (launched : start.Launched)
    (ahead : start.checkpoint.lastBatchSubmitted < start.nextSubmissionNumber)
    (inputs : List (Input Block)) (restarts : Runs.Guarded step restartsAhead start inputs)
    (clean : (start.run inputs).faults = []) :
    (start.run inputs).Conserved ∧ (start.run inputs).skipped = [] := by
  have fresh : start.checkpoint.lastBatchSubmitted = 0 := by
    have first := launched.start.2.1
    omega
  have orderly := launched.orderly_run fresh restarts
  exact ⟨orderly.conserved clean, (orderly.ordered clean).skipped⟩

/-- Without a failing worker, submission or save, no block is lost and the next
batch to submit is never missing. -/
theorem failure_free_conserves {start : Sequencer Block Sink Store} (launched : start.Launched)
    (fresh : start.checkpoint.lastBatchSubmitted = 0) (inputs : List (Input Block))
    (lifetime : ∀ checkpoint, .resume checkpoint ∉ inputs) (clean : (start.run inputs).faults = []) :
    (start.run inputs).Conserved ∧ (start.run inputs).CanGoOn := by
  have orderly := launched.orderly_run fresh (restartsAhead_of_lifetime lifetime start)
  exact ⟨orderly.conserved clean, orderly.canGoOn clean⟩

end Recovery

section Examples

open Reference

/-- One block is sent and batched, and its worker ends before the last tick. -/
def oneBatch (fault : Option String) : List (Input UInt8) :=
  [.environment (.blockSent 7), .tick [] 0, .environment (.workerDone 0 fault), .tick [] 0]

def onFile (lastBatchSubmitted : Nat) : Files := ⟨[("checkpoint", { lastBatchSubmitted })]⟩

/-- The second life after one submitted batch: the first new batch is numbered 1
again, is taken for the old one and is dropped with its block. -/
theorem restart_after_one_loses_block :
    let restarted := singleBlockBatches InMemoryBatchQueue.empty (onFile 1) { lastBatchSubmitted := 1 }
    restarted.Launched ∧ (restarted.run (oneBatch none)).faults = [] ∧
      (restarted.run (oneBatch none)).received = [7] ∧ (restarted.run (oneBatch none)).submissions = [] ∧
      ¬ (restarted.run (oneBatch none)).Conserved := by
  have launched : (singleBlockBatches InMemoryBatchQueue.empty (onFile 1)
      { lastBatchSubmitted := 1 }).Launched := .startingFrom rfl
  have ledger := launched.ledger_run (oneBatch none)
  refine ⟨launched, by decide, by decide, by decide, fun conserved => ?_⟩
  exact absurd ((conserved_iff ledger.cut ledger.accounted).mp conserved) (by decide)

theorem restart_ahead_keeps_blocks :
    ((singleBlockBatches InMemoryBatchQueue.empty (onFile 0) .fresh).run
      (reversedWorkers ++ [.resume { lastBatchSubmitted := 2 }] ++ oneBatch none)).Conserved :=
  (restart_conserves_when_ahead (.startingFrom rfl) (by decide) _
    (by decide) (by decide)).1

theorem failure_free_oneBatch :
    ((singleBlockBatches InMemoryBatchQueue.empty (onFile 0) .fresh).run (oneBatch none)).Conserved ∧
      ((singleBlockBatches InMemoryBatchQueue.empty (onFile 0) .fresh).run (oneBatch none)).CanGoOn :=
  failure_free_conserves (.startingFrom rfl) rfl (oneBatch none) (by simp [oneBatch]) (by decide)

/-- The three points of failure: a failed worker and a refused submission each
lose a block, and a failed save leaves the next batch waiting for one that is gone. -/
theorem failures_lose_and_block :
    ¬ ((singleBlockBatches InMemoryBatchQueue.empty (onFile 0) .fresh).run
        (oneBatch (some "panicked"))).Conserved ∧
      ¬ ((singleBlockBatches (ScriptedSink.mk [false]) (onFile 0) .fresh).run (oneBatch none)).Conserved ∧
      ¬ ((singleBlockBatches InMemoryBatchQueue.empty (ScriptedFiles.mk [] [false]) .fresh).run
        reversedWorkers).CanGoOn := by
  have worker : (singleBlockBatches InMemoryBatchQueue.empty (onFile 0) .fresh).Launched :=
    .startingFrom rfl
  have sink : (singleBlockBatches (ScriptedSink.mk [false]) (onFile 0) .fresh).Launched :=
    .startingFrom rfl
  refine ⟨fun conserved => ?_, fun conserved => ?_, by unfold CanGoOn; decide⟩
  · have ledger := worker.ledger_run (oneBatch (some "panicked"))
    exact absurd ((conserved_iff ledger.cut ledger.accounted).mp conserved) (by decide)
  · have ledger := sink.ledger_run (oneBatch none)
    exact absurd ((conserved_iff ledger.cut ledger.accounted).mp conserved) (by decide)

end Examples

end Montana.Roles.Sequencer
