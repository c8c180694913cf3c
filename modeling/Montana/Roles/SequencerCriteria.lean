import Montana.Common.Reference
import Montana.Roles.SequencerPhases

/-! When a tick cuts a batch. The submission criteria decide in normal mode; in
catch-up mode half a batch has to be pending, whatever the criteria say. -/

namespace Montana.Roles.Sequencer

variable {Block Sink Store Tx : Type}

/-- From `before` to `after` these workers were spawned, with the first pending blocks. -/
structure Cuts (before after : Sequencer Block Sink Store) (cut : List (PreparationWorker Block)) :
    Prop where
  spawned : after.spawned = before.spawned ++ cut
  taken : before.pendingBlocks = cut.flatMap (·.blocks) ++ after.pendingBlocks

def CutsBatch (before after : Sequencer Block Sink Store) : Prop :=
  ∃ cut, cut ≠ [] ∧ Cuts before after cut

theorem Cuts.none {before after : Sequencer Block Sink Store} (spawned : after.spawned = before.spawned)
    (pending : after.pendingBlocks = before.pendingBlocks) : Cuts before after [] :=
  ⟨by simp [spawned], by simp [pending]⟩

theorem Elapsed.cuts {before after : Sequencer Block Sink Store} (elapsed : before.Elapsed after) :
    Cuts before after [] :=
  .none elapsed.spawned elapsed.pendingBlocks

theorem Cuts.trans {before between after : Sequencer Block Sink Store}
    {first second : List (PreparationWorker Block)} (earlier : Cuts before between first)
    (later : Cuts between after second) : Cuts before after (first ++ second) where
  spawned := by rw [later.spawned, earlier.spawned, List.append_assoc]
  taken := by rw [earlier.taken, later.taken, List.flatMap_append, List.append_assoc]

theorem Cuts.unchanged {before between after : Sequencer Block Sink Store}
    {cut : List (PreparationWorker Block)} (cuts : Cuts before between cut)
    (spawned : after.spawned = between.spawned) (pending : after.pendingBlocks = between.pendingBlocks) :
    Cuts before after cut where
  spawned := spawned.trans cuts.spawned
  taken := by rw [cuts.taken, pending]

theorem CutsBatch.after {before between after : Sequencer Block Sink Store}
    {second : List (PreparationWorker Block)} (earlier : CutsBatch before between)
    (later : Cuts between after second) : CutsBatch before after := by
  obtain ⟨first, some, cuts⟩ := earlier
  exact ⟨first ++ second, List.append_ne_nil_of_left_ne_nil some second, cuts.trans later⟩

section Criteria

variable [BlockResponse Block Tx] [BlockJson Block] [BatchSink Sink] [CheckpointStore Store]

omit [BatchSink Sink] [CheckpointStore Store] in
theorem cutBatch_cuts (self : Sequencer Block Sink Store) (count : Nat) :
    Cuts self (self.cutBatch count)
      [preparationWorker (self.pendingBlocks.take count) self.nextBatchNumber] where
  spawned := rfl
  taken := by simp [cutBatch, spawnPreparationWorker, preparationWorker]

omit [BatchSink Sink] [CheckpointStore Store] in
theorem spawnCatchUp_cuts (slots : Nat) (self : Sequencer Block Sink Store) :
    ∃ cut, Cuts self (spawnCatchUp slots self).2 cut := by
  induction slots generalizing self with
  | zero => exact ⟨[], .none rfl rfl⟩
  | succ slots ih =>
    unfold spawnCatchUp
    split
    · exact ⟨[], .none rfl rfl⟩
    · have waited := (interfere_elapsed self).cuts
      simp only []
      split
      · exact ⟨[], waited⟩
      · obtain ⟨cut, more⟩ := ih (self.interfere.cutBatch _)
        exact ⟨_, (waited.trans (cutBatch_cuts _ _)).trans more⟩

omit [BatchSink Sink] [CheckpointStore Store] in
private theorem spawnWorkers_cuts (self : Sequencer Block Sink Store) :
    ∃ cut, Cuts self self.spawnWorkers.2 cut := by
  unfold spawnWorkers
  simp only []
  split
  · have waited := (interfere_elapsed self).cuts
    split
    · obtain ⟨cut, caught⟩ := spawnCatchUp_cuts (maxConcurrentPreparations - self.inFlightPreparations)
        self.interfere
      exact ⟨_, waited.trans caught⟩
    · have again := waited.trans (interfere_elapsed self.interfere).cuts
      split
      · exact ⟨_, again.trans (cutBatch_cuts _ _)⟩
      · exact ⟨_, again⟩
  · exact ⟨[], .none rfl rfl⟩

omit [BlockResponse Block Tx] in
/-- Collecting and submitting cuts nothing. -/
theorem delivers_cut (before : Sequencer Block Sink Store) :
    Delivers (Cuts before · []) (Cuts before · []) where
  interfered self cuts :=
    cuts.unchanged (interfere_elapsed self).spawned (interfere_elapsed self).pendingBlocks
  collected self result rest _ cuts := by
    cases result <;> exact cuts.unchanged rfl rfl
  submitted self prepared after _ _ cuts ended := by
    have handed := submitPreparedBatch_handed { self with readyBatches := self.readyBatches.pop } prepared
    rw [ended] at handed
    exact cuts.unchanged handed.spawned handed.pendingBlocks
  failed self prepared error after _ _ cuts ended := by
    have handed := submitPreparedBatch_handed { self with readyBatches := self.readyBatches.pop } prepared
    rw [ended] at handed
    exact cuts.unchanged handed.spawned handed.pendingBlocks

omit [BlockResponse Block Tx] in
theorem flush_cuts (rounds : Nat) (self : Sequencer Block Sink Store) :
    Cuts self (flush rounds self).2 [] := by
  rcases (delivers_cut self).flush rounds (Cuts.none rfl rfl) with ⟨_, _, cuts⟩ | ⟨_, cuts⟩
  · exact cuts
  · exact cuts

theorem accumulated_spawned {self filled : Sequencer Block Sink Store} {disconnected : Bool}
    (reached : self.accumulated = some (disconnected, filled)) : filled.spawned = self.spawned := by
  obtain ⟨submitted, delivered, count, passed, counted⟩ := accumulated_cases reached
  have cuts := ((delivers_cut self).submitReadyBatches (Cuts.none rfl rfl)).1 submitted delivered passed
  have kept : delivered.accumulateBlocks.2.2.spawned = delivered.spawned :=
    accumulateBlocks_invariant (·.spawned = delivered.spawned)
      (fun reached same => (interfere_elapsed reached).spawned.trans same)
      (fun _ _ _ _ same => same) rfl
  rw [counted] at kept
  rw [kept, cuts.spawned, List.append_nil]

omit [BatchSink Sink] [CheckpointStore Store] in
/-- At the flush loop nothing is pending, so whatever was pending was cut. -/
theorem lastCut_cuts (self : Sequencer Block Sink Store) :
    (∃ cut, Cuts self self.lastCut cut) ∧ self.lastCut.pendingBlocks = [] := by
  obtain ⟨cut, cuts⟩ := spawnWorkers_cuts self
  unfold lastCut cutRemaining
  split
  · rename_i none
    exact ⟨⟨cut, cuts⟩, by simpa using none⟩
  · exact ⟨⟨_, cuts.trans (cutBatch_cuts _ _)⟩, by simp [cutBatch, spawnPreparationWorker]⟩

end Criteria

section Examples

open Reference

/-- The default limits, on a channel that holds this many blocks. -/
def waiting (blocks : Nat) : Sequencer UInt8 InMemoryBatchQueue Files :=
  startingFrom .fresh InMemoryBatchQueue.empty noop {} none { queue := List.replicate blocks 0 }
    (Files.mk []) 0

end Examples

end Montana.Roles.Sequencer
