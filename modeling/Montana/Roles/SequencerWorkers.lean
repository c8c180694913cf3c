import Montana.Roles.SequencerCriteria
import Montana.Roles.SequencerOrder
import Montana.Roles.SequencerSettled

/-! How many workers there are. Phase 4 fills the free slots; the last cut of a closed
channel does not look for one. -/

namespace Montana.Roles.Sequencer

variable {Block Sink Store Tx : Type}

/-- The counter stands for the workers whose result was not taken yet: there are no more
than the slots, and to take a result away from it never saturates. -/
structure Staffed (sequencer : Sequencer Block Sink Store) : Prop where
  counted : sequencer.Counted
  bounded : sequencer.inFlightPreparations ≤ maxConcurrentPreparations
  unsaturated : ∀ result rest, sequencer.preparedRx.tryRecv = .ok result rest →
    0 < sequencer.inFlightPreparations

theorem Counted.staffed {self : Sequencer Block Sink Store} (counted : self.Counted)
    (bounded : self.inFlightPreparations ≤ maxConcurrentPreparations) : self.Staffed := by
  refine ⟨counted, bounded, fun result rest arrived => ?_⟩
  rw [counted, tryRecv_ok arrived, List.length_cons]
  omega

section Passes

variable [BlockResponse Block Tx] [BlockJson Block] [BatchSink Sink] [CheckpointStore Store]

/-- The states of one pass over the results and the ready batches: both loops may still
have passes ahead of them. -/
inductive Delivering (self : Sequencer Block Sink Store) : Sequencer Block Sink Store → Prop where
  | collecting (fuel : Nat) : Delivering self (collectLoop fuel self)
  | submitting (fuel : Nat) : Delivering self (submitLoop fuel self.collectPreparedBatches).2

/-- The states that a tick goes through, phase by phase and loop by loop. -/
inductive Passes (rounds : Nat) (self : Sequencer Block Sink Store) :
    Sequencer Block Sink Store → Prop where
  | delivering {reached : Sequencer Block Sink Store} (delivers : Delivering self reached) :
      Passes rounds self reached
  | accumulating {submitted : Nat} {delivered : Sequencer Block Sink Store}
      (passed : self.collectPreparedBatches.submitReadyBatches = (.ok submitted, delivered)) (fuel : Nat) :
      Passes rounds self (accumulateLoop
        (delivered.interfere.dynamicMaxBlocks delivered.interfere.estimateBacklog) fuel
        delivered.interfere).2.2
  | catchingUp {disconnected : Bool} {filled : Sequencer Block Sink Store}
      (reached : self.accumulated = some (disconnected, filled)) {slots : Nat}
      (free : slots ≤ maxConcurrentPreparations - filled.inFlightPreparations)
      (behind : lightBacklogThreshold ≤ filled.interfere.estimateBacklog) :
      Passes rounds self (spawnCatchUp slots filled.interfere).2
  | spawned {disconnected : Bool} {filled : Sequencer Block Sink Store}
      (reached : self.accumulated = some (disconnected, filled)) :
      Passes rounds self filled.spawnWorkers.2
  | flushing {filled : Sequencer Block Sink Store} (reached : self.accumulated = some (true, filled))
      {count : Nat} (within : count ≤ rounds) : Passes rounds self (flush count filled.lastCut).2
  | flushDelivering {filled reached : Sequencer Block Sink Store}
      (closed : self.accumulated = some (true, filled)) {count : Nat} (within : count < rounds)
      (waits : (flush count filled.lastCut).1 = .flushing)
      (delivers : Delivering (flush count filled.lastCut).2 reached) : Passes rounds self reached
  | meanwhile {reached : Sequencer Block Sink Store} (passed : Passes rounds self reached) :
      Passes rounds self reached.interfere

/-- What each input goes through. -/
def Through (self : Sequencer Block Sink Store) (input : Input Block)
    (reached : Sequencer Block Sink Store) : Prop :=
  match input with
  | .tick schedule rounds => Passes rounds { self with schedule } reached
  | .environment _ | .resume _ => reached = self.step input

private theorem step_through (self : Sequencer Block Sink Store) (input : Input Block) :
    self.Through input (self.step input) := by
  cases input with
  | environment event => rfl
  | resume checkpoint => rfl
  | tick schedule rounds =>
    show Passes rounds { self with schedule } (tick { self with schedule } rounds).2
    generalize ({ self with schedule } : Sequencer Block Sink Store) = self
    cases reached : self.accumulated with
    | none =>
      obtain ⟨error, after, failed, ended⟩ := tick_failed reached rounds
      have all : Delivering self self.collectPreparedBatches.submitReadyBatches.2 := .submitting _
      rw [failed] at all
      rw [ended]
      exact .delivering all
    | some result =>
      obtain ⟨disconnected, filled⟩ := result
      cases disconnected with
      | false =>
        rw [(tick_open reached rounds).1]
        exact .spawned reached
      | true =>
        rw [tick_closed reached rounds]
        exact .flushing reached (Nat.le_refl _)

/-- The sequencer before the last cut of a closed channel, if the tick comes to it. -/
def beforeLastCut (self : Sequencer Block Sink Store) : Option (Sequencer Block Sink Store) :=
  match self.accumulated with
  | some (true, filled) => some filled.spawnWorkers.2
  | _ => none

/-- The last cut of a closed channel finds nothing left, or a slot for its worker. -/
def LeavesSlot (self : Sequencer Block Sink Store) : Prop :=
  ∀ before ∈ self.beforeLastCut, before.pendingBlocks.isEmpty = true ∨
    before.inFlightPreparations < maxConcurrentPreparations

instance (self : Sequencer Block Sink Store) : Decidable self.LeavesSlot :=
  inferInstanceAs (Decidable (∀ before ∈ self.beforeLastCut, _))

/-- The guard on the ticks of a run. -/
def leavesSlots (self : Sequencer Block Sink Store) : Input Block → Prop
  | .tick schedule _ => LeavesSlot { self with schedule }
  | _ => True

instance (self : Sequencer Block Sink Store) (input : Input Block) :
    Decidable (self.leavesSlots input) :=
  match input with
  | .tick schedule _ => inferInstanceAs (Decidable (LeavesSlot { self with schedule }))
  | .environment _ => .isTrue trivial
  | .resume _ => .isTrue trivial

omit [BlockResponse Block Tx] [BatchSink Sink] [CheckpointStore Store] in
theorem Staffed.interfere {self : Sequencer Block Sink Store} (staffed : self.Staffed) :
    self.interfere.Staffed := by
  refine staffed.counted.interfere.staffed ?_
  rw [(interfere_elapsed self).inFlightPreparations]
  exact staffed.bounded

omit [BlockResponse Block Tx] [BlockJson Block] [BatchSink Sink] [CheckpointStore Store] in
theorem Staffed.handed {before after : Sequencer Block Sink Store} (staffed : before.Staffed)
    (handed : Handed before after) : after.Staffed := by
  refine Counted.staffed ?_ ?_
  · rw [Counted, handed.inFlightPreparations, handed.workers, handed.preparedRx]
    exact staffed.counted
  · rw [handed.inFlightPreparations]
    exact staffed.bounded

omit [BlockResponse Block Tx] [BlockJson Block] in
theorem Staffed.submitted {self : Sequencer Block Sink Store} (staffed : self.Staffed)
    (prepared : PreparedBatch) :
    (submitPreparedBatch { self with readyBatches := self.readyBatches.pop } prepared).2.Staffed := by
  have popped : Staffed { self with readyBatches := self.readyBatches.pop } :=
    ⟨staffed.counted, staffed.bounded, staffed.unsaturated⟩
  exact popped.handed (submitPreparedBatch_handed _ prepared)

omit [BlockResponse Block Tx] in
/-- Collecting and submitting only ever free slots. -/
theorem delivers_staffed : Delivers (fun self : Sequencer Block Sink Store => self.Staffed)
    fun self => self.Staffed where
  interfered self staffed := staffed.interfere
  collected self result rest arrived staffed := by
    refine (staffed.counted.collectResult arrived).staffed ?_
    have bounded := staffed.bounded
    cases result <;> exact (Nat.sub_le _ 1).trans bounded
  submitted self prepared after shown next staffed ended := by
    have kept := staffed.submitted prepared
    rwa [ended] at kept
  failed self prepared error after shown next staffed ended := by
    have kept := staffed.submitted prepared
    rwa [ended] at kept

omit [BlockResponse Block Tx] in
theorem Delivering.staffed {self reached : Sequencer Block Sink Store} (delivers : Delivering self reached)
    (staffed : self.Staffed) : reached.Staffed := by
  cases delivers with
  | collecting fuel => exact delivers_staffed.collectLoop fuel staffed
  | submitting fuel =>
    obtain ⟨succeeds, fails⟩ :=
      delivers_staffed.submitLoop fuel (delivers_staffed.collectPreparedBatches staffed)
    cases ended : submitLoop fuel self.collectPreparedBatches with
    | mk result after =>
      cases result with
      | error e => exact fails e after ended
      | ok submitted => exact succeeds submitted after ended

omit [BatchSink Sink] [CheckpointStore Store] in
theorem Staffed.accumulateLoop {self : Sequencer Block Sink Store} (staffed : self.Staffed)
    (dynamicMax fuel : Nat) : (accumulateLoop dynamicMax fuel self).2.2.Staffed :=
  accumulateLoop_invariant Staffed (fun _ staffed => staffed.interfere)
    (fun _ _ _ _ staffed => ⟨staffed.counted, staffed.bounded, staffed.unsaturated⟩) dynamicMax fuel staffed

theorem Staffed.accumulated {self filled : Sequencer Block Sink Store} {disconnected : Bool}
    (staffed : self.Staffed) (reached : self.accumulated = some (disconnected, filled)) :
    filled.Staffed := by
  obtain ⟨submitted, delivered, count, passed, counted⟩ := accumulated_cases reached
  have ready := (delivers_staffed.submitReadyBatches staffed).1 submitted delivered passed
  have looped : delivered.accumulateBlocks.2.2.Staffed :=
    ready.interfere.accumulateLoop (delivered.interfere.dynamicMaxBlocks delivered.interfere.estimateBacklog) _
  rw [counted] at looped
  exact looped

/-- A batch that is cut takes a slot. -/
theorem Staffed.cutBatch {self : Sequencer Block Sink Store} (staffed : self.Staffed)
    (slot : self.inFlightPreparations < maxConcurrentPreparations) (count : Nat) :
    (self.cutBatch count).Staffed :=
  (staffed.counted.step (.cut self count)).staffed slot

theorem Staffed.spawnCatchUp (slots : Nat) {self : Sequencer Block Sink Store} (staffed : self.Staffed)
    (free : self.inFlightPreparations + slots ≤ maxConcurrentPreparations) :
    (spawnCatchUp slots self).2.Staffed := by
  induction slots generalizing self with
  | zero => exact staffed
  | succ slots ih =>
    have same := (interfere_elapsed self).inFlightPreparations
    unfold Sequencer.spawnCatchUp
    split
    · exact staffed
    · simp only []
      split
      · exact staffed.interfere
      · refine ih (staffed.interfere.cutBatch (by omega) _) ?_
        show self.interfere.inFlightPreparations + 1 + slots ≤ maxConcurrentPreparations
        omega

theorem Staffed.spawnWorkers {self : Sequencer Block Sink Store} (staffed : self.Staffed) :
    self.spawnWorkers.2.Staffed := by
  have bounded := staffed.bounded
  have first := (interfere_elapsed self).inFlightPreparations
  have second := (interfere_elapsed self.interfere).inFlightPreparations
  unfold Sequencer.spawnWorkers
  simp only []
  split
  · rename_i some
    have slot : 0 < maxConcurrentPreparations - self.inFlightPreparations := by
      simp only [gt_iff_lt, Bool.and_eq_true, decide_eq_true_eq] at some
      exact some.1
    split
    · exact staffed.interfere.spawnCatchUp _ (by omega)
    · split
      · exact staffed.interfere.interfere.cutBatch (by omega) _
      · exact staffed.interfere.interfere
  · exact staffed

/-- Without a round of the flush, the last cut is all that happens to the rest. -/
theorem flush_zero_lastCut {filled : Sequencer Block Sink Store}
    (some : ¬ filled.spawnWorkers.2.pendingBlocks.isEmpty = true) :
    (flush 0 filled.lastCut).2 =
      filled.spawnWorkers.2.cutBatch filled.spawnWorkers.2.pendingBlocks.length := by
  unfold Sequencer.flush lastCut cutRemaining
  rw [if_neg some]
  split <;> rfl

theorem Staffed.lastCut {self filled : Sequencer Block Sink Store} (staffed : self.Staffed)
    (leaves : self.LeavesSlot) (closed : self.accumulated = some (true, filled)) :
    filled.lastCut.Staffed := by
  have worked := (staffed.accumulated closed).spawnWorkers
  unfold Sequencer.lastCut cutRemaining
  split
  · exact worked
  · rename_i some
    have present : filled.spawnWorkers.2 ∈ self.beforeLastCut := by simp [beforeLastCut, closed]
    rcases leaves _ present with none | slot
    · exact absurd none some
    · exact worked.cutBatch slot _

/-- A tick stays within the slots exactly when its last cut finds one. -/
theorem Staffed.passes_iff {self : Sequencer Block Sink Store} (staffed : self.Staffed) (rounds : Nat) :
    (∀ reached, Passes rounds self reached → reached.Staffed) ↔ self.LeavesSlot := by
  constructor
  · intro always before present
    unfold beforeLastCut at present
    split at present
    · rename_i filled reached
      cases present
      have cut := (always _ (.flushing reached (Nat.zero_le _))).bounded
      by_cases none : filled.spawnWorkers.2.pendingBlocks.isEmpty = true
      · exact .inl none
      · right
        rw [flush_zero_lastCut none] at cut
        exact cut
    · cases present
  · intro leaves reached passed
    have flushed {filled : Sequencer Block Sink Store} (closed : self.accumulated = some (true, filled))
        (count : Nat) : (flush count filled.lastCut).2.Staffed := by
      rcases delivers_staffed.flush count (staffed.lastCut leaves closed) with ⟨_, _, kept⟩ | ⟨_, kept⟩
      · exact kept
      · exact kept
    induction passed with
    | delivering delivers => exact delivers.staffed staffed
    | accumulating passed fuel =>
      have ready := (delivers_staffed.submitReadyBatches staffed).1 _ _ passed
      exact ready.interfere.accumulateLoop _ fuel
    | @catchingUp disconnected filled closed slots free behind =>
      have ready := staffed.accumulated closed
      have bounded := ready.bounded
      have same := (interfere_elapsed filled).inFlightPreparations
      exact ready.interfere.spawnCatchUp slots (by omega)
    | spawned closed => exact (staffed.accumulated closed).spawnWorkers
    | flushing closed _ => exact flushed closed _
    | flushDelivering closed _ _ delivers => exact delivers.staffed (flushed closed _)
    | meanwhile _ ih => exact ih.interfere

/-- Through all states of a run the counter is exact and bounded, exactly when every last
cut of a closed channel finds nothing to cut or a free slot. -/
theorem staffed_iff_leavesSlots {start : Sequencer Block Sink Store} (launched : start.Launched)
    (inputs : List (Input Block)) :
    (∀ reached, Runs.Visits step Through start inputs reached → reached.Staffed) ↔
      Runs.Guarded step leavesSlots start inputs := by
  refine Runs.guarded_iff_visits Staffed step_through (fun self input staffed => ?_) inputs ?_
  · cases input with
    | environment event =>
      have applied : (self.apply event).Staffed := by
        refine (staffed.counted.apply event).staffed ?_
        rw [(apply_elapsed self event).inFlightPreparations]
        exact staffed.bounded
      refine ⟨fun _ => trivial, fun _ reached same => ?_⟩
      have same : reached = self.apply event := same
      rwa [same]
    | resume checkpoint =>
      refine ⟨fun _ => trivial, fun _ reached same => ?_⟩
      have same : reached = self.resume checkpoint := same
      rw [same]
      exact ⟨staffed.counted, staffed.bounded, staffed.unsaturated⟩
    | tick schedule rounds =>
      have scheduled : Staffed { self with schedule } :=
        ⟨staffed.counted, staffed.bounded, staffed.unsaturated⟩
      exact scheduled.passes_iff rounds
  · have idle := launched.counted
    obtain ⟨_, _, _, _, _, _, workers, prepared, _⟩ := launched.start
    rw [Counted, workers, prepared] at idle
    refine launched.counted.staffed ?_
    rw [idle]
    exact Nat.zero_le _

end Passes

section Examples

open Reference

/-- Four blocks are four batches whose workers are still busy when a fifth block comes and
the senders leave. -/
def fifthBlock : List (Input UInt8) :=
  (List.replicate 4 [.environment (.blockSent 7), .tick [] 0]).flatten ++
    [.environment (.blockSent 7), .tick [] 0, .environment .senderDropped, .tick [] 0]

/-- The flush spawns a fifth worker. -/
theorem fifth_preparation :
    (singleBlockBatches InMemoryBatchQueue.empty (Files.mk []) .fresh).Launched ∧
      ((singleBlockBatches InMemoryBatchQueue.empty (Files.mk []) .fresh).run
        fifthBlock).inFlightPreparations = 5 :=
  ⟨.startingFrom rfl, by decide⟩

/-- Six blocks come, and two of the workers end before the senders leave. -/
def sixBlocks : List (Input UInt8) :=
  (List.replicate 6 [.environment (.blockSent 7), .tick [] 0]).flatten ++
    [.environment (.workerDone 3 none), .environment (.workerDone 2 none), .environment .senderDropped,
     .tick [] 0]

/-- Phase 4 takes one of the two free slots, the last cut the other. -/
theorem staffed_iff_leavesSlots_six :
    ((singleBlockBatches InMemoryBatchQueue.empty (Files.mk []) .fresh).run sixBlocks).Staffed :=
  (staffed_iff_leavesSlots (.startingFrom rfl) sixBlocks).mpr (by decide) _
    (Runs.visits_run step Through sixBlocks _)

example : ((singleBlockBatches InMemoryBatchQueue.empty (Files.mk []) .fresh).run
    sixBlocks).inFlightPreparations = 4 := by decide

end Examples

end Montana.Roles.Sequencer
