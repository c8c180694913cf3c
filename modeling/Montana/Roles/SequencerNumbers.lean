import Montana.Roles.SequencerLedger

/-! Which numbers reach the sink in one life, whatever fails: the first one after the
checkpoint that was loaded and those that follow it, each at most once. -/

namespace Montana.Roles.Sequencer

variable {Block Sink Store Tx : Type}

/-- The parts of a sequencer that only a submission changes; faults are added to. -/
structure Undisturbed (before after : Sequencer Block Sink Store) : Prop where
  batchSink : after.batchSink = before.batchSink
  checkpoint : after.checkpoint = before.checkpoint
  checkpointPath : after.checkpointPath = before.checkpointPath
  store : after.store = before.store
  nextSubmissionNumber : after.nextSubmissionNumber = before.nextSubmissionNumber
  submissions : after.submissions = before.submissions
  faults : before.faults ⊆ after.faults

/-- Where the numbering stands: before the first submission, behind a submission that
succeeded, or stuck at one that did not. -/
inductive Position (loaded next recorded : Nat) :
    List (CompressedBatch × Except SinkError SubmissionReceipt) → Prop where
  | skipping (positive : 0 < next) (within : next ≤ loaded + 1) (unchanged : recorded = loaded) :
      Position loaded next recorded []
  | submitting {submissions} (following : next = loaded + 1 + submissions.length)
      (answered : ∀ entry ∈ submissions, entry.2.isOk = true) (behind : recorded < next) :
      Position loaded next recorded submissions
  | stuck {earlier last} (at_last : next = loaded + 1 + earlier.length)
      (answered : ∀ entry ∈ earlier, entry.2.isOk = true) :
      Position loaded next recorded (earlier ++ [last])

/-- A number that was not handed over yet is not one where the sequencer is stuck. -/
theorem Position.of_fresh {loaded next recorded : Nat}
    {submissions : List (CompressedBatch × Except SinkError SubmissionReceipt)}
    (position : Position loaded next recorded submissions)
    (numbers : submissions.map (·.1.batchNumber) = List.range' (loaded + 1) submissions.length)
    (fresh : next ∉ submissions.map (·.1.batchNumber)) :
    (submissions = [] ∧ 0 < next ∧ next ≤ loaded + 1 ∧ recorded = loaded) ∨
      next = loaded + 1 + submissions.length ∧ (∀ entry ∈ submissions, entry.2.isOk = true) ∧
        recorded < next := by
  cases position with
  | skipping positive within unchanged => exact .inl ⟨rfl, positive, within, unchanged⟩
  | submitting following answered behind => exact .inr ⟨following, answered, behind⟩
  | stuck at_last answered =>
    refine absurd ?_ fresh
    rw [numbers, List.mem_range'_1, List.length_append, List.length_singleton]
    omega

/-- The submissions carry consecutive numbers from the one after the loaded checkpoint. -/
structure Sequenced (loaded : Nat) (sequencer : Sequencer Block Sink Store) : Prop where
  numbers : sequencer.submissions.map (·.1.batchNumber) =
    List.range' (loaded + 1) sequencer.submissions.length
  placed : ∀ entry ∈ sequencer.submissions,
    entry.1.batchNumber ∈ sequencer.submittedNumbers ++ sequencer.droppedNumbers
  position : Position loaded sequencer.nextSubmissionNumber sequencer.checkpoint.lastBatchSubmitted
    sequencer.submissions

/-- What has its place keeps one when submissions and faults are added. -/
theorem placed_mono {self next : Sequencer Block Sink Store} {batchNumber : Nat}
    (submissions : self.submissions ⊆ next.submissions) (faults : self.faults ⊆ next.faults)
    (placed : batchNumber ∈ self.submittedNumbers ++ self.droppedNumbers) :
    batchNumber ∈ next.submittedNumbers ++ next.droppedNumbers := by
  rcases List.mem_append.mp placed with submitted | dropped
  · exact List.mem_append_left _ (List.map_subset _ (List.filter_subset _ submissions) submitted)
  · exact List.mem_append_right _ (List.filterMap_subset _ faults dropped)

/-- A batch that is ready was not handed to the sink before. -/
theorem Sequenced.fresh {loaded : Nat} {self : Sequencer Block Sink Store}
    (sequenced : Sequenced loaded self) (cut : self.CutInOrder) (accounted : self.Accounted)
    {prepared : PreparedBatch} (ready : prepared ∈ self.readyBatches.items) :
    prepared.batchNumber ∉ self.submissions.map (·.1.batchNumber) := by
  intro handed
  obtain ⟨entry, member, same⟩ := List.mem_map.mp handed
  have placed := sequenced.placed entry member
  have once : (self.heldNumbers ++ self.submittedNumbers ++ self.skipped ++ self.droppedNumbers).Nodup := by
    rw [accounted.nodup_iff, cut.numbers]
    exact List.nodup_range'
  have held : prepared.batchNumber ∈ self.heldNumbers :=
    List.mem_append_right _ (List.mem_map_of_mem ready)
  rw [same] at placed
  rw [List.append_assoc, List.append_assoc, List.nodup_append] at once
  rcases List.mem_append.mp placed with submitted | dropped
  · exact once.2.2 _ held _ (List.mem_append_left _ submitted) rfl
  · exact once.2.2 _ held _ (List.mem_append_right _ (List.mem_append_right _ dropped)) rfl

theorem Sequenced.undisturbed {loaded : Nat} {self next : Sequencer Block Sink Store}
    (sequenced : Sequenced loaded self) (same : self.Undisturbed next) : Sequenced loaded next := by
  obtain ⟨numbers, placed, position⟩ := sequenced
  refine ⟨by rw [same.submissions]; exact numbers, fun entry member => ?_, ?_⟩
  · rw [same.submissions] at member
    exact placed_mono (by rw [same.submissions]; exact List.Subset.refl _) same.faults (placed entry member)
  · rw [same.submissions, same.nextSubmissionNumber, same.checkpoint]
    exact position

section Steps

variable [BlockResponse Block Tx] [BlockJson Block] [BatchSink Sink] [CheckpointStore Store]

omit [BlockResponse Block Tx] [BatchSink Sink] [CheckpointStore Store] in
/-- Nothing that happens around the sequencer is a submission. -/
theorem apply_undisturbed (self : Sequencer Block Sink Store) (event : Interference Block) :
    self.Undisturbed (self.apply event) := by
  rcases apply_cases self event with ⟨block, same⟩ | ⟨index, worker, result, _, _, same⟩ |
    ⟨closed, clock, wallClock, same⟩ <;> rw [same]
  · exact ⟨rfl, rfl, rfl, rfl, rfl, rfl, List.Subset.refl _⟩
  · refine ⟨rfl, rfl, rfl, rfl, rfl, rfl, ?_⟩
    cases result with
    | ok prepared => exact List.Subset.refl _
    | error e => exact List.subset_append_left _ _
  · exact ⟨rfl, rfl, rfl, rfl, rfl, rfl, List.Subset.refl _⟩

/-- A step leaves these parts alone, or it is a submission of the next batch in line. -/
theorem step_undisturbed {self next : Sequencer Block Sink Store} (step : Step self next) :
    self.Undisturbed next ∨ ∃ prepared, self.readyBatches.peek = some prepared ∧
      prepared.batchNumber = self.nextSubmissionNumber ∧
      next = (submitPreparedBatch { self with readyBatches := self.readyBatches.pop } prepared).2 := by
  cases step with
  | environment event => exact .inl (apply_undisturbed self event)
  | reschedule schedule => exact .inl ⟨rfl, rfl, rfl, rfl, rfl, rfl, List.Subset.refl _⟩
  | @collect result rest _ =>
    refine .inl ?_
    cases result <;> exact ⟨rfl, rfl, rfl, rfl, rfl, rfl, List.Subset.refl _⟩
  | @submit prepared shown following => exact .inr ⟨prepared, shown, following, rfl⟩
  | @accumulate block rest _ => exact .inl ⟨rfl, rfl, rfl, rfl, rfl, rfl, List.Subset.refl _⟩
  | cut count => exact .inl ⟨rfl, rfl, rfl, rfl, rfl, rfl, List.Subset.refl _⟩

theorem Sequenced.step {loaded : Nat} {self next : Sequencer Block Sink Store} (step : Step self next)
    (ledger : self.Ledger) (sequenced : Sequenced loaded self) : Sequenced loaded next := by
  rcases step_undisturbed step with same | ⟨prepared, shown, following, rfl⟩
  · exact sequenced.undisturbed same
  · have ready := PriorityQueue.peek_mem shown
    have number := ledger.encoded.ready_number ready
    have fresh := sequenced.fresh ledger.cut ledger.accounted ready
    rw [following] at number fresh
    obtain ⟨numbers, placed, position⟩ := sequenced
    have live := position.of_fresh numbers fresh
    have positive : 0 < self.nextSubmissionNumber := by omega
    have skips := Checkpoint.shouldSkipBatch_iff self.checkpoint _ positive
    have live_submits (new : self.checkpoint.shouldSkipBatch prepared.batchNumber = false) :
        self.nextSubmissionNumber = loaded + 1 + self.submissions.length ∧
          ∀ entry ∈ self.submissions, entry.2.isOk = true := by
      rw [following, Bool.eq_false_iff, ne_eq, skips] at new
      rcases live with ⟨none, _, within, unchanged⟩ | ⟨here, answered, _⟩
      · refine ⟨?_, by simp [none]⟩
        rw [none, List.length_nil]
        omega
      · exact ⟨here, answered⟩
    have grown (here : self.nextSubmissionNumber = loaded + 1 + self.submissions.length)
        (answer : Except SinkError SubmissionReceipt) :
        (self.submissions ++ [(prepared.compressedBatch, answer)]).map (·.1.batchNumber) =
          List.range' (loaded + 1) (self.submissions ++ [(prepared.compressedBatch, answer)]).length := by
      rw [List.map_append, numbers, List.length_append, List.length_singleton, List.range'_1_concat,
        List.map_singleton, number, here]
    have extended (answer : Except SinkError SubmissionReceipt) {next : Sequencer Block Sink Store}
        (same : next.submissions = self.submissions ++ [(prepared.compressedBatch, answer)])
        (faults : self.faults ⊆ next.faults)
        (placed' : self.nextSubmissionNumber ∈ next.submittedNumbers ++ next.droppedNumbers) :
        ∀ entry ∈ next.submissions,
          entry.1.batchNumber ∈ next.submittedNumbers ++ next.droppedNumbers := by
      intro entry member
      rw [same] at member
      rcases List.mem_append.mp member with old | new
      · exact placed_mono (by rw [same]; exact List.subset_append_left _ _) faults (placed entry old)
      · rw [List.mem_singleton.mp new, number]
        exact placed'
    rcases submitPreparedBatch_cases { self with readyBatches := self.readyBatches.pop } prepared with
      ⟨old, same⟩ | ⟨new, e, batchSink, eventTx, _, same⟩ | ⟨new, receipt, batchSink, eventTx, store, _, same⟩ |
      ⟨new, receipt, batchSink, eventTx, batchCallback, store, _, same⟩ <;> rw [same]
    · -- a skipped number is not beyond the loaded checkpoint
      rw [following] at old
      have passed := skips.mp old
      rcases live with ⟨none, _, within, unchanged⟩ | ⟨_, _, behind⟩
      · refine ⟨numbers, placed, ?_⟩
        show Position loaded (self.nextSubmissionNumber + 1) self.checkpoint.lastBatchSubmitted self.submissions
        rw [none]
        exact .skipping (Nat.succ_pos _) (by omega) unchanged
      · exact absurd passed (Nat.not_le.mpr behind)
    · obtain ⟨here, answered⟩ := live_submits new
      refine ⟨grown here _, extended (.error e) rfl (List.subset_append_left _ _) ?_, .stuck here answered⟩
      simp [droppedNumbers, Fault.dropped, following]
    · obtain ⟨here, answered⟩ := live_submits new
      refine ⟨grown here _, extended (.ok receipt) rfl (List.subset_append_left _ _) ?_, .stuck here answered⟩
      simp [submittedNumbers, number, Except.isOk, Except.toBool]
    · obtain ⟨here, answered⟩ := live_submits new
      refine ⟨grown here _, extended (.ok receipt) rfl (List.Subset.refl _) ?_, ?_⟩
      · simp [submittedNumbers, number, Except.isOk, Except.toBool]
      · refine .submitting ?_ ?_ ?_
        · simp
          omega
        · intro entry member
          rcases List.mem_append.mp member with old | new
          · exact answered entry old
          · rw [List.mem_singleton.mp new]
            rfl
        · simp [following]
          omega

/-- In one life nothing but a restart moves the numbering back. -/
theorem Sequenced.input {loaded : Nat} {self : Sequencer Block Sink Store} {input : Input Block}
    (kept : ∀ checkpoint, input ≠ .resume checkpoint)
    (sequenced : self.Ledger ∧ Sequenced loaded self) :
    (self.step input).Ledger ∧ Sequenced loaded (self.step input) :=
  Runs.invariant_steps (fun reached => reached.Ledger ∧ Sequenced loaded reached)
    (fun _ _ step ⟨ledger, sequenced⟩ => ⟨ledger.step step, sequenced.step step ledger⟩)
    (step_steps self input kept) sequenced

omit [BlockJson Block] [BatchSink Sink] in
theorem Launched.sequenced {self : Sequencer Block Sink Store} (launched : self.Launched) :
    Sequenced self.checkpoint.lastBatchSubmitted self := by
  obtain ⟨_, next, _, _, _, _, _, _, _, submissions, _, _⟩ := launched.start
  refine ⟨by simp [submissions], by simp [submissions], ?_⟩
  rw [submissions, next]
  exact .skipping Nat.one_pos (Nat.le_add_left _ _) rfl

end Steps

end Montana.Roles.Sequencer
