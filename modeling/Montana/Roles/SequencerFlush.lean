import Montana.Roles.SequencerCriteria
import Montana.Roles.SequencerOrder
import Montana.Roles.SequencerSettled

/-! The flush of a closed channel. Its loop ends exactly if the batches still to be
delivered follow on from the last submission without a gap. -/

namespace Montana.Roles.Sequencer

variable {Block Sink Store Tx : Type}

section Flush

variable [BlockResponse Block Tx] [BlockJson Block] [BatchSink Sink] [CheckpointStore Store]

/-- Nothing is lost between the start of the loop and here, and every worker will end. -/
structure Draining (entry reached : Sequencer Block Sink Store) : Prop where
  counted : reached.Counted
  finishing : reached.settle.workers = []
  gapless : reached.Gapless ↔ entry.Gapless

omit [BlockResponse Block Tx] in
private theorem delivers_draining (entry : Sequencer Block Sink Store) :
    Delivers (Draining entry) (fun _ => True) where
  interfered self draining :=
    ⟨draining.counted.interfere, by rw [settle_interfere]; exact draining.finishing,
      (interfere_gapless self).trans draining.gapless⟩
  collected self result rest arrived draining := by
    have settled := (collectResult_uncollected arrived).settle
      (collectResult_schedule { self with preparedRx := rest } result).symm
    exact ⟨draining.counted.collectResult arrived, settled.workers.symm.trans draining.finishing,
      (collectResult_gapless arrived).trans draining.gapless⟩
  submitted self prepared after shown next draining taken := by
    have advanced := submitPreparedBatch_advanced taken
    have settled := advanced.settled
    refine ⟨?_, settled.workers.symm.trans draining.finishing,
      (advanced.gapless shown next).trans draining.gapless⟩
    rw [Counted, advanced.inFlightPreparations, advanced.workers, advanced.preparedRx]
    exact draining.counted
  failed _ _ _ _ _ _ _ _ := trivial

omit [BlockResponse Block Tx] in
/-- The schedule is only ever used up. -/
theorem delivers_schedule (length : Nat) : Delivers
    (fun self : Sequencer Block Sink Store => self.schedule.length ≤ length) (fun _ => True) where
  interfered self short := by
    rw [interfere_schedule, List.length_tail]
    omega
  collected self result rest _ short := by
    rw [collectResult_schedule { self with preparedRx := rest }]
    exact short
  submitted self prepared after _ _ short taken := by
    rw [(submitPreparedBatch_advanced taken).schedule]
    exact short
  failed _ _ _ _ _ _ _ _ := trivial

omit [BlockResponse Block Tx] in
/-- One collection uses up at least one burst of the schedule. -/
theorem collect_schedule (self : Sequencer Block Sink Store) :
    self.collectPreparedBatches.schedule.length ≤ self.schedule.length - 1 := by
  refine (delivers_schedule (self.schedule.length - 1)).collect_interfered ?_
  rw [interfere_schedule, List.length_tail]

omit [BlockResponse Block Tx] in
private theorem pass_schedule {self after : Sequencer Block Sink Store} {submitted : Nat}
    (passed : self.collectPreparedBatches.submitReadyBatches = (.ok submitted, after)) :
    after.schedule.length ≤ self.schedule.length - 1 :=
  ((delivers_schedule (self.schedule.length - 1)).submitLoop _ (collect_schedule self)).1 submitted after
    passed

omit [BlockResponse Block Tx] [BatchSink Sink] [CheckpointStore Store] in
/-- Where nothing else happens, a collection takes every result that is there. -/
theorem collectPreparedBatches_drains {self : Sequencer Block Sink Store}
    (unscheduled : self.schedule = []) : self.collectPreparedBatches.preparedRx.queue = [] := by
  have looped (fuel : Nat) {self : Sequencer Block Sink Store} (unscheduled : self.schedule = [])
      (enough : self.preparedRx.queue.length < fuel) : (collectLoop fuel self).preparedRx.queue = [] := by
    induction fuel generalizing self with
    | zero => exact absurd enough (Nat.not_lt_zero _)
    | succ fuel ih =>
      have still : self.interfere = self := by simp only [interfere, unscheduled]
      simp only [collectLoop, still]
      split
      · rename_i result rest arrived
        have queue := tryRecv_ok arrived
        rw [queue, List.length_cons] at enough
        refine ih ?_ ?_
        · rw [collectResult_schedule { self with preparedRx := rest }]
          exact unscheduled
        · cases result <;> exact Nat.lt_of_succ_lt_succ enough
      · rename_i empty
        unfold Receiver.tryRecv at empty
        split at empty
        · cases empty
        · assumption
      · rename_i closed
        unfold Receiver.tryRecv at closed
        split at closed
        · cases closed
        · assumption
  exact looped _ unscheduled (by omega)

omit [BlockResponse Block Tx] in
/-- Submission stops only where the next batch is not the first one ready. -/
theorem submitReadyBatches_stops {self after : Sequencer Block Sink Store} {submitted : Nat}
    (ended : self.submitReadyBatches = (.ok submitted, after)) {prepared : PreparedBatch}
    (shown : after.readyBatches.peek = some prepared) :
    prepared.batchNumber ≠ after.nextSubmissionNumber := by
  have looped (fuel : Nat) {self after : Sequencer Block Sink Store} {submitted : Nat}
      (enough : self.readyBatches.items.length ≤ fuel)
      (ended : submitLoop fuel self = (.ok submitted, after))
      (shown : after.readyBatches.peek = some prepared) :
      prepared.batchNumber ≠ after.nextSubmissionNumber := by
    induction fuel generalizing self submitted with
    | zero =>
      cases ended
      rw [PriorityQueue.items_of_peek shown, List.length_cons] at enough
      exact absurd enough (Nat.not_succ_le_zero _)
    | succ fuel ih =>
      unfold submitLoop at ended
      split at ended
      · rename_i none
        cases ended
        rw [none] at shown
        cases shown
      · rename_i first peeked
        split at ended
        · rename_i other
          cases ended
          rw [peeked] at shown
          cases shown
          exact other
        · simp only [] at ended
          split at ended
          · cases ended
          · rename_i between taken
            have ready : between.readyBatches = self.readyBatches.pop := by
              rw [(submitPreparedBatch_advanced taken).readyBatches]
              exact congrArg PriorityQueue.pop (interfere_elapsed self).readyBatches
            have fewer : between.readyBatches.items.length ≤ fuel := by
              rw [PriorityQueue.items_of_peek peeked, List.length_cons] at enough
              rw [ready]
              omega
            split at ended <;> rename_i rest
            · cases ended
            · cases ended
              exact ih fewer rest
  exact looped _ (Nat.le_refl _) ended shown

omit [BlockResponse Block Tx] [BatchSink Sink] [CheckpointStore Store] in
/-- Without a gap, the first batch that is ready is the next one to submit. -/
theorem Gapless.peek {self : Sequencer Block Sink Store} (gapless : self.Gapless)
    (idle : self.settle.inFlightNumbers = []) {prepared : PreparedBatch}
    (shown : self.readyBatches.peek = some prepared) :
    prepared.batchNumber = self.nextSubmissionNumber := by
  have items := PriorityQueue.items_of_peek shown
  rw [Gapless, heldNumbers_settle, idle, List.nil_append, readyNumbers, items] at gapless
  have first : prepared.batchNumber ∈ List.range' self.nextSubmissionNumber
      ((prepared :: self.readyBatches.pop.items).map (·.batchNumber)).length :=
    gapless.mem_iff.mp List.mem_cons_self
  have next : self.nextSubmissionNumber ∈ (prepared :: self.readyBatches.pop.items).map (·.batchNumber) := by
    refine gapless.mem_iff.mpr (List.mem_range'_1.mpr ⟨Nat.le_refl _, ?_⟩)
    simp
  have above := (List.mem_range'_1.mp first).1
  rcases List.mem_map.mp next with ⟨other, member, same⟩
  rcases List.mem_cons.mp member with here | stays
  · rw [here] at same
    exact same
  · have earlier := (PreparedBatch.before_iff _ _).mp (PriorityQueue.peek_before shown stays)
    omega

/-- With every worker done and no gap, one pass over results and ready batches delivers
all that is left. -/
theorem pass_finishes {self after : Sequencer Block Sink Store} {submitted : Nat}
    (draining : Draining self self) (gapless : self.Gapless) (unscheduled : self.schedule = [])
    (passed : self.collectPreparedBatches.submitReadyBatches = (.ok submitted, after)) :
    after.inFlightPreparations = 0 ∧ after.readyBatches.isEmpty = true := by
  have left := ((delivers_draining self).submitReadyBatches draining).1 submitted after passed
  have still : after.schedule = [] := by
    have short := pass_schedule passed
    rw [unscheduled] at short
    exact List.eq_nil_of_length_eq_zero (Nat.le_zero.mp short)
  have stopped : after.workers = [] := by
    have finishing := left.finishing
    rwa [settle_unscheduled still] at finishing
  have drained : after.preparedRx.queue = [] := by
    have collected := collectPreparedBatches_drains unscheduled
    have kept : Delivers (fun reached : Sequencer Block Sink Store =>
        reached.schedule = [] ∧ reached.preparedRx.queue = []) (fun _ => True) := by
      refine ⟨?_, ?_, ?_, fun _ _ _ _ _ _ _ _ => trivial⟩
      · rintro reached ⟨none, empty⟩
        have same : reached.interfere = reached := by simp only [interfere, none]
        rw [same]
        exact ⟨none, empty⟩
      · rintro reached result rest arrived ⟨none, empty⟩
        rw [tryRecv_ok arrived] at empty
        cases empty
      · rintro reached prepared after shown next ⟨none, empty⟩ taken
        have advanced := submitPreparedBatch_advanced taken
        exact ⟨advanced.schedule.trans none, by rw [advanced.preparedRx]; exact empty⟩
    have used : self.collectPreparedBatches.schedule = [] := by
      have short := collect_schedule self
      rw [unscheduled] at short
      exact List.eq_nil_of_length_eq_zero (Nat.le_zero.mp short)
    exact ((kept.submitLoop _ ⟨used, collected⟩).1 submitted after passed).2
  have idle : after.settle.inFlightNumbers = [] := by
    simp [settle_unscheduled still, inFlightNumbers, stopped, drained]
  constructor
  · have counted := left.counted
    rw [Counted, stopped, drained] at counted
    exact counted
  · cases shown : after.readyBatches.peek with
    | none =>
      simpa [PriorityQueue.peek, PriorityQueue.isEmpty] using shown
    | some prepared =>
      have next := (left.gapless.mpr gapless).peek idle shown
      exact absurd next (submitReadyBatches_stops passed shown)

/-- A round ends the flush, or hands what one pass has left to the next round. -/
theorem flush_round (rounds : Nat) (self : Sequencer Block Sink Store) :
    (flush (rounds + 1) self).1 = .done .complete ∨ (∃ error, (flush (rounds + 1) self).1 = .failed error) ∨
      ∃ submitted after, self.collectPreparedBatches.submitReadyBatches = (.ok submitted, after) ∧
        flush (rounds + 1) self = flush rounds
          (if after.inFlightPreparations > 0 && after.readyBatches.isEmpty then after.interfere else after) := by
  rw [flush]
  split
  · split
    · rename_i error after failed
      exact .inr (.inl ⟨error, rfl⟩)
    · rename_i submitted after passed
      refine .inr (.inr ⟨submitted, after, passed, ?_⟩)
      split <;> rfl
  · exact .inl rfl

/-- After the last scheduled event one more round is enough. -/
theorem flush_completes (rounds : Nat) {self : Sequencer Block Sink Store}
    (short : self.schedule.length ≤ rounds) (draining : Draining self self) (gapless : self.Gapless)
    (succeeds : ∀ error, (flush (rounds + 1) self).1 ≠ .failed error) :
    (flush (rounds + 1) self).1 = .done .complete := by
  induction rounds generalizing self with
  | zero =>
    have unscheduled := List.eq_nil_of_length_eq_zero (Nat.le_zero.mp short)
    rcases flush_round 0 self with complete | ⟨error, failed⟩ | ⟨submitted, after, passed, next⟩
    · exact complete
    · exact absurd failed (succeeds error)
    · obtain ⟨none, empty⟩ := pass_finishes draining gapless unscheduled passed
      rw [next]
      simp [none, empty, flush]
  | succ rounds ih =>
    rcases flush_round (rounds + 1) self with complete | ⟨error, failed⟩ | ⟨submitted, after, passed, next⟩
    · exact complete
    · exact absurd failed (succeeds error)
    · have delivers := delivers_draining self
      have left := (delivers.submitReadyBatches draining).1 submitted after passed
      have fewer : after.schedule.length ≤ rounds := by
        have used := pass_schedule passed
        omega
      have waited := delivers.interfered after left
      have later := (delivers_schedule rounds).interfered after fewer
      rw [next] at succeeds ⊢
      split at succeeds
      · rename_i yields
        rw [if_pos yields]
        exact ih later ⟨waited.counted, waited.finishing, Iff.rfl⟩ (waited.gapless.mpr gapless) succeeds
      · rename_i spins
        rw [if_neg spins]
        exact ih fewer ⟨left.counted, left.finishing, Iff.rfl⟩ (left.gapless.mpr gapless) succeeds

omit [BlockResponse Block Tx] in
private theorem flush_complete_empty {rounds : Nat} {self after : Sequencer Block Sink Store}
    {result : TickResult}
    (completed : flush rounds self = (.done result, after)) :
    after.inFlightPreparations = 0 ∧ after.readyBatches.isEmpty = true := by
  induction rounds generalizing self with
  | zero =>
    unfold flush at completed
    split at completed
    · cases completed
    · rename_i ends
      cases completed
      simpa using ends
  | succ rounds ih =>
    unfold flush at completed
    split at completed
    · split at completed
      · cases completed
      · split at completed
        · exact ih completed
        · exact ih completed
    · rename_i ends
      cases completed
      simpa using ends

/-- A flush that ends has delivered everything, so nothing was missing in between. -/
theorem flush_gapless {rounds : Nat} {self after : Sequencer Block Sink Store} {result : TickResult}
    (draining : Draining self self) (completed : flush rounds self = (.done result, after)) :
    self.Gapless := by
  have left : Draining self after := by
    rcases (delivers_draining self).flush rounds draining with ⟨error, failed, _⟩ | ⟨_, left⟩
    · rw [completed] at failed
      cases failed
    · rw [completed] at left
      exact left
  obtain ⟨none, empty⟩ := flush_complete_empty completed
  have counted := left.counted
  rw [Counted, none] at counted
  have stopped : after.workers = [] := List.eq_nil_of_length_eq_zero (by omega)
  have drained : after.preparedRx.queue = [] := List.eq_nil_of_length_eq_zero (by omega)
  have idle := settle_idle stopped
  have ready : after.readyBatches.items = [] := by simpa [PriorityQueue.isEmpty] using empty
  have held : after.settle.heldNumbers = [] := by
    rw [heldNumbers_settle, inFlightNumbers, readyNumbers, idle.1, idle.2, drained, ready]
    rfl
  refine left.gapless.mp ?_
  rw [Gapless, held]
  exact List.Perm.refl _

/-- A sink that takes every batch and a store that saves every checkpoint. -/
structure Unfailing (Sink Store : Type) [BatchSink Sink] [CheckpointStore Store] : Prop where
  submits : ∀ (sink : Sink) batch, (BatchSink.submit sink batch).1.isOk = true
  saves : ∀ (store : Store) path checkpoint, (CheckpointStore.save store path checkpoint).1.isOk = true

omit [BlockResponse Block Tx] [BlockJson Block] in
theorem Unfailing.submitPreparedBatch (unfailing : Unfailing Sink Store)
    {self after : Sequencer Block Sink Store} {prepared : PreparedBatch} {error : TickError} :
    self.submitPreparedBatch prepared ≠ (.error error, after) := by
  intro failed
  unfold Sequencer.submitPreparedBatch at failed
  simp only [] at failed
  split at failed
  · cases failed
  · split at failed
    · rename_i e batchSink refused
      have taken := unfailing.submits self.batchSink prepared.compressedBatch
      change BatchSink.submit self.batchSink prepared.compressedBatch = _ at refused
      rw [refused] at taken
      cases taken
    · split at failed <;> rename_i saved
      · unfold saveCheckpoint Checkpoint.saveIfEnabled at saved
        split at saved
        rename_i result store answered
        split at answered
        · cases answered
          cases saved
        · rename_i path _
          have kept := unfailing.saves self.store path
            ((self.checkpoint.recordBatchSubmitted prepared.batchNumber).touch self.wallClock)
          change CheckpointStore.save self.store path
            ((self.checkpoint.recordBatchSubmitted prepared.batchNumber).touch self.wallClock) = _ at answered
          rw [answered] at kept
          cases saved
          cases kept
      · cases failed

/-- Where no submission and no save fails, no tick does. -/
theorem Unfailing.tick (unfailing : Unfailing Sink Store) (self : Sequencer Block Sink Store)
    (rounds : Nat) (error : TickError) : (tick self rounds).1 ≠ .failed error := by
  have delivers : Delivers (fun _ : Sequencer Block Sink Store => True) (fun _ => False) :=
    ⟨fun _ _ => trivial, fun _ _ _ _ _ => trivial, fun _ _ _ _ _ _ _ => trivial,
      fun _ _ _ _ _ _ _ failed => unfailing.submitPreparedBatch failed⟩
  unfold Sequencer.tick
  split
  · rename_i e after refused
    exact ((delivers.submitReadyBatches trivial).2 e after refused).elim
  · simp only []
    split
    · rcases delivers.flush rounds trivial with ⟨_, _, never⟩ | ⟨succeeds, _⟩
      · exact never.elim
      · exact succeeds error
    · split <;> nofun

/-- The flush of a closed channel ends, with nothing pending or ready, exactly if no number
is missing among the batches still to be delivered when its loop starts. -/
theorem disconnect_flush_completes_iff {start filled : Sequencer Block Sink Store}
    (launched : start.Launched) (inputs : List (Input Block)) (schedule : List (List (Interference Block)))
    (closed : accumulated { start.run inputs with schedule } = some (true, filled))
    (finish : filled.lastCut.settle.workers = [])
    (succeeds : ∀ rounds error, (tick { start.run inputs with schedule } rounds).1 ≠ .failed error) :
    (∃ rounds final, tick { start.run inputs with schedule } rounds = (.done .complete, final) ∧
      final.pendingBlocks = [] ∧ final.readyBatches.isEmpty = true) ↔ filled.lastCut.Gapless := by
  have counted : filled.lastCut.Counted := by
    refine (launched.counted_run inputs).steps ?_
    exact ((Relation.ReflTransGen.single (.reschedule _ schedule)).trans (accumulated_steps closed)).trans
      (lastCut_steps filled)
  have draining : Draining filled.lastCut filled.lastCut := ⟨counted, finish, Iff.rfl⟩
  constructor
  · rintro ⟨rounds, final, completed, _⟩
    rw [tick_closed closed] at completed
    exact flush_gapless draining completed
  · intro gapless
    refine ⟨filled.lastCut.schedule.length + 1,
      (flush (filled.lastCut.schedule.length + 1) filled.lastCut).2, ?_⟩
    have ends := flush_completes filled.lastCut.schedule.length (Nat.le_refl _) draining gapless
      (fun error => by simpa only [tick_closed closed] using succeeds _ error)
    have completed : flush (filled.lastCut.schedule.length + 1) filled.lastCut =
        (.done .complete, (flush (filled.lastCut.schedule.length + 1) filled.lastCut).2) :=
      Prod.ext ends rfl
    have kept := (flush_cuts (filled.lastCut.schedule.length + 1) filled.lastCut).taken
    rw [(lastCut_cuts filled).2] at kept
    refine ⟨by rw [tick_closed closed]; exact completed, ?_, (flush_complete_empty completed).2⟩
    exact kept.symm

end Flush

section Examples

open Reference

/-- Two batches of one block; the first worker ends as told, the second one well, and
then the senders are gone. -/
def twoBatches (fault : Option String) : List (Input UInt8) :=
  [.environment (.blockSent 7), .tick [] 0, .environment (.blockSent 8), .tick [] 0,
   .environment (.workerDone 0 fault), .environment (.workerDone 0 none), .environment .senderDropped]

/-- A sequencer whose sink and store never fail, after both workers have ended. -/
def bothEnded (fault : Option String) : Sequencer UInt8 InMemoryBatchQueue Files :=
  { (singleBlockBatches InMemoryBatchQueue.empty (Files.mk []) .fresh).run (twoBatches fault) with
    schedule := [] }

/-- Batch 2 waits for batch 1, whose worker failed: the loop never ends. -/
theorem flush_waits_for_failed_worker :
    (singleBlockBatches InMemoryBatchQueue.empty (Files.mk []) .fresh).Launched ∧
      (∃ filled, (bothEnded (some "panicked")).accumulated = some (true, filled) ∧
        filled.lastCut.settle.workers = []) ∧
      ∀ rounds, (tick (bothEnded (some "panicked")) rounds).1 = .flushing := by
  refine ⟨.startingFrom rfl, ⟨_, rfl, by decide⟩, fun rounds => ?_⟩
  have closed : ∃ filled, (bothEnded (some "panicked")).accumulated = some (true, filled) ∧
      ∀ rounds, flush (rounds + 1) filled.lastCut = flush rounds filled.lastCut ∧
        (flush 0 filled.lastCut).1 = .flushing :=
    ⟨_, rfl, fun rounds => ⟨rfl, by decide⟩⟩
  obtain ⟨filled, reached, stays⟩ := closed
  rw [tick_closed reached]
  induction rounds with
  | zero => exact (stays 0).2
  | succ rounds ih =>
    rw [(stays rounds).1]
    exact ih

theorem flush_completes_both :
    ∃ rounds final, tick (bothEnded none) rounds = (.done .complete, final) ∧
      final.pendingBlocks = [] ∧ final.readyBatches.isEmpty = true := by
  have unfailing : Unfailing InMemoryBatchQueue Files := ⟨fun _ _ => rfl, fun _ _ _ => rfl⟩
  have closed : ∃ filled, (bothEnded none).accumulated = some (true, filled) ∧
      filled.lastCut.settle.workers = [] ∧ filled.lastCut.Gapless :=
    ⟨_, rfl, by decide, by unfold Gapless; decide⟩
  obtain ⟨filled, reached, finish, gapless⟩ := closed
  exact (disconnect_flush_completes_iff (.startingFrom rfl) (twoBatches none) [] reached finish
    (fun rounds error => unfailing.tick _ rounds error)).mpr gapless

end Examples

end Montana.Roles.Sequencer
