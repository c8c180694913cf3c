import Montana.Node.NodeStep
import Montana.Node.Reference

/-! What follows once a shutdown message was received. -/

namespace Montana.Lifecycle

/-- A tick, or the change to the active stage. -/
def Action.isWork : Action → Bool
  | .syncTick | .sequencerTick | .validatorTick => true
  | .emitted (.stateChanged .active) => true
  | _ => false

namespace Node

variable {Producer Block Seq Val Store SeqMeanwhile ValMeanwhile : Type}

/-- Once a shutdown message was received nothing is ticked and the node does not become active. -/
def NeverSwallowed (self : Node Producer Seq Val Store) : Prop :=
  self.trace.Pairwise fun earlier later => earlier = .shutdownReceived → later.isWork = false

instance (self : Node Producer Seq Val Store) : Decidable self.NeverSwallowed :=
  inferInstanceAs (Decidable (List.Pairwise _ _))

/-- No message waits where the loop of the sync stage checks for it. -/
def Unasked (self : Node Producer Seq Val Store) (round : Round SeqMeanwhile ValMeanwhile) : Prop :=
  self.phase = .syncing → self.shutdownRx + round.shutdownSent = 0

instance (self : Node Producer Seq Val Store) (round : Round SeqMeanwhile ValMeanwhile) :
    Decidable (self.Unasked round) :=
  inferInstanceAs (Decidable (_ → _))

/-- A receipt ends the run, or it was swallowed. -/
def ReceiptSeen (self : Node Producer Seq Val Store) : Prop :=
  .shutdownReceived ∈ self.trace → (∃ result, self.phase = .returned result) ∨ ¬ self.NeverSwallowed

/-- Without a receipt there is nothing to swallow. -/
theorem neverSwallowed_of_absent {self : Node Producer Seq Val Store}
    (absent : .shutdownReceived ∉ self.trace) : self.NeverSwallowed := by
  refine List.pairwise_of_forall_mem_list fun earlier member later _ received => ?_
  rw [received] at member
  exact absurd member absent

/-- A longer trace swallows what a shorter one did. -/
theorem NeverSwallowed.of_append {self next : Node Producer Seq Val Store} {added : List Action}
    (same : next.trace = self.trace ++ added) (never : next.NeverSwallowed) : self.NeverSwallowed := by
  unfold NeverSwallowed at never
  rw [same, List.pairwise_append] at never
  exact never.1

private theorem neverSwallowed_append {self next : Node Producer Seq Val Store} {added : List Action}
    (same : next.trace = self.trace ++ added) (absent : .shutdownReceived ∉ self.trace) :
    next.NeverSwallowed ↔
      added.Pairwise fun earlier later => earlier = .shutdownReceived → later.isWork = false := by
  unfold NeverSwallowed
  rw [same, List.pairwise_append]
  refine ⟨fun both => both.2.1, fun later => ⟨neverSwallowed_of_absent absent, later, ?_⟩⟩
  intro earlier member action _ received
  rw [received] at member
  exact absurd member absent

section Steps

variable [BlockProducer Producer Block] [CheckpointStore Store]
variable [Role Seq Store SeqMeanwhile] [Role Val Store ValMeanwhile]

/-- A round receives no message, or it receives one and becomes active in the sync stage or
stops in the active stage. -/
inductive Receipt (self next : Node Producer Seq Val Store) (waiting : Nat) : Prop where
  | nothing (halted : self.phase = .syncing → waiting = 0) (still : next = self)
  | none {added : List Action} (runs : ∀ result, self.phase ≠ .returned result)
      (unasked : self.phase = .syncing → waiting = 0)
      (trace : next.trace = self.trace ++ added) (own : ∀ action ∈ added, action.own)
  | syncing {added : List Action} (syncing : self.phase = .syncing) (asked : waiting ≠ 0)
      (trace : next.trace = self.trace ++
        .shutdownReceived :: .emitted (.stateChanged .active) :: added)
  | active {added : List Action} (active : self.phase = .active)
      (trace : next.trace = self.trace ++ .shutdownReceived :: added)
      (calm : ∀ action ∈ added, action.own ∧ action.isWork = false)
      (stopped : ∃ result, next.phase = .returned result)

omit [CheckpointStore Store] [BlockProducer Producer Block] in
/-- To become active is the first thing that is done in the active stage. -/
theorem activate_trace (self : Node Producer Seq Val Store) :
    ∃ added, self.activate.trace =
      self.trace ++ .emitted (.stateChanged .active) :: added := by
  have resumed : Acts Action.own (self.setState .active) self.activate := self.activate_resumes
  obtain ⟨added, trace, _⟩ := resumed.trace
  refine ⟨added, ?_⟩
  rw [trace, setState, emit, List.append_assoc]
  rfl

omit [CheckpointStore Store] in
/-- The actions of a completed sync stage are its own. -/
theorem Replaced.trace {before after announced : Node Producer Seq Val Store}
    {stage finished : SyncStage Producer} (replaced : before.Replaced after stage finished announced) :
    ∃ added, after.trace = before.trace ++ added ∧ ∀ action ∈ added, action.own := by
  obtain ⟨first, announcedTrace, firstOwn⟩ := replaced.announces.trace
  obtain ⟨second, afterTrace, secondOwn⟩ := replaced.continues.trace
  refine ⟨first ++ second, ?_, fun action member => ?_⟩
  · rw [afterTrace, ← List.append_assoc, ← announcedTrace]
    rfl
  · rcases List.mem_append.mp member with earlier | later
    · exact firstOwn action earlier
    · exact secondOwn action later

private theorem step_receipt (self : Node Producer Seq Val Store)
    (round : Round SeqMeanwhile ValMeanwhile) :
    self.Receipt (self.step round) (self.shutdownRx + round.shutdownSent) := by
  cases self.step_roundCase round with
  | launch stands same =>
    rw [same]
    obtain ⟨added, trace, own⟩ := (self.arrive round).launch_acts.trace
    exact .none (by rw [stands]; nofun) (by rw [stands]; nofun) trace own
  | sync stands none unrequested unasked same =>
    rw [same]
    have runs : ∀ result, self.phase ≠ .returned result := by rw [stands]; nofun
    rcases (self.arrive round).syncIteration_cases round.beforeSave unasked with
      ⟨stage, finished, announced, replaced⟩ | ⟨_, acts, _⟩
    · obtain ⟨added, trace, own⟩ := replaced.trace
      exact .none runs (fun _ => none) trace own
    · obtain ⟨added, trace, own⟩ := acts.trace
      exact .none runs (fun _ => none) trace own
  | leaveSync stands asked same =>
    rw [same]
    cases asked with
    | requested none flag checked =>
      rw [checked]
      obtain ⟨added, trace, own⟩ := ((self.arrive round).activate_acts (Action.emitted_own _)).trace
      exact .none (by rw [stands]; nofun) (fun _ => none) trace own
    | @received taken some alike checked =>
      rw [checked]
      obtain ⟨added, trace⟩ := activate_trace (taken.record .shutdownReceived)
      rw [record_trace, alike.trace, List.append_assoc] at trace
      exact .syncing stands some trace
  | work stands unasked same =>
    rw [same]
    obtain ⟨added, trace, own⟩ := ((self.arrive round).activeIteration_acts round unasked).trace
    exact .none (by rw [stands]; nofun) (by rw [stands]; nofun) trace own
  | leaveWork stands asked same =>
    rw [same]
    cases asked with
    | requested none flag checked =>
      rw [checked]
      obtain ⟨added, trace, own⟩ := ((self.arrive round).shutdown_acts
        (fun _ => Action.emitted_own _) (Action.emitted_own _) (Action.emitted_own _)).trace
      exact .none (by rw [stands]; nofun) (by rw [stands]; nofun) trace own
    | @received taken some alike checked =>
      rw [checked]
      have stops : Acts (fun action => action.own ∧ action.isWork = false)
          (taken.record .shutdownReceived) (taken.record .shutdownReceived).shutdown :=
        shutdown_acts _ (fun _ => ⟨Action.emitted_own _, rfl⟩) ⟨Action.emitted_own _, rfl⟩
          ⟨Action.emitted_own _, rfl⟩
      obtain ⟨added, trace, calm⟩ := stops.trace
      rw [record_trace, alike.trace, List.append_assoc] at trace
      exact .active stands trace calm (shutdown_phase _)
  | still halted same => exact .nothing (absurd · halted) same

end Steps

/-- In a round the law breaks exactly when a message is received in the sync stage. -/
theorem Receipt.neverSwallowed_iff {self next : Node Producer Seq Val Store} {waiting : Nat}
    (receipt : self.Receipt next waiting) (seen : self.ReceiptSeen) (never : self.NeverSwallowed) :
    next.NeverSwallowed ↔ (self.phase = .syncing → waiting = 0) := by
  have absent (runs : ∀ result, self.phase ≠ .returned result) : .shutdownReceived ∉ self.trace := by
    intro member
    rcases seen member with ⟨result, returned⟩ | broken
    · exact runs result returned
    · exact broken never
  cases receipt with
  | nothing halted still =>
    rw [still]
    exact ⟨fun _ => halted, fun _ => never⟩
  | none runs unasked trace own =>
    refine ⟨fun _ => unasked, fun _ => (neverSwallowed_append trace (absent runs)).mpr ?_⟩
    exact List.pairwise_of_forall_mem_list fun earlier member _ _ received => absurd received (own earlier member)
  | syncing syncing asked trace =>
    refine ⟨fun after => ?_, fun unasked => absurd (unasked syncing) asked⟩
    have later := (neverSwallowed_append trace (absent (by rw [syncing]; nofun))).mp after
    rw [List.pairwise_cons] at later
    exact nomatch later.1 _ List.mem_cons_self rfl
  | active active trace calm =>
    refine ⟨fun _ => by rw [active]; nofun, fun _ => (neverSwallowed_append trace
      (absent (by rw [active]; nofun))).mpr (List.pairwise_cons.mpr ⟨fun action member _ => ?_, ?_⟩)⟩
    · exact (calm action member).2
    · exact List.pairwise_of_forall_mem_list fun earlier member _ _ received =>
        absurd received (calm earlier member).1

/-- What is known of a receipt stays known, whether or not it was swallowed. -/
theorem Receipt.seen {self next : Node Producer Seq Val Store} {waiting : Nat}
    (receipt : self.Receipt next waiting) (seen : self.ReceiptSeen) : next.ReceiptSeen := by
  intro member
  cases receipt with
  | nothing halted still =>
    rw [still] at member ⊢
    exact seen member
  | none runs unasked trace own =>
    rw [trace] at member
    rcases List.mem_append.mp member with before | added
    · rcases seen before with ⟨result, returned⟩ | broken
      · exact absurd returned (runs result)
      · exact .inr fun never => broken (never.of_append trace)
    · exact absurd rfl (own _ added)
  | @syncing added syncing asked trace =>
    refine .inr fun after => ?_
    have later := after
    unfold NeverSwallowed at later
    rw [trace, List.pairwise_append, List.pairwise_cons] at later
    exact nomatch later.2.1.1 _ List.mem_cons_self rfl
  | active active trace calm stopped => exact .inl stopped

section Run

variable [BlockProducer Producer Block] [CheckpointStore Store]
variable [Role Seq Store SeqMeanwhile] [Role Val Store ValMeanwhile]

/-- Over a whole run, whatever the global flag says, no received message is swallowed exactly
when none waits at a check of the sync stage. -/
theorem neverSwallowed_iff_unasked {node : Node Producer Seq Val Store} (launched : node.Launched)
    (rounds : List (Round SeqMeanwhile ValMeanwhile)) :
    (∀ count, (node.run (rounds.take count)).NeverSwallowed) ↔
      Runs.Guarded step Unasked node rounds := by
  have admitted : Runs.Guarded step (fun _ _ => True) node rounds :=
    Runs.guarded_of_forall (fun _ _ _ => trivial) node
  have absent : .shutdownReceived ∉ node.trace := by
    rw [launched.trace]
    nofun
  exact Runs.guarded_iff_invariant_known ReceiptSeen NeverSwallowed
    (fun state round _ seen => (state.step_receipt round).seen seen)
    (fun state round _ seen never => (state.step_receipt round).neverSwallowed_iff seen never) rounds
    admitted (absurd · absent) (neverSwallowed_of_absent absent)

end Run

section Examples

open Reference

def stopRound : Round Unit Unit := { quietRound with shutdownSent := 1 }

/-- A message in the active stage ends the run. -/
theorem activeNode_stops :
    ((idleNode .fresh 0).run [quietRound, quietRound, quietRound, stopRound, quietRound]).NeverSwallowed := by
  have launched : (idleNode .fresh 0).Launched := ⟨rfl, rfl, rfl, rfl⟩
  have guarded : Runs.Guarded step Unasked (idleNode .fresh 0)
      [quietRound, quietRound, quietRound, stopRound, quietRound] := by decide
  exact (neverSwallowed_iff_unasked launched _).mpr guarded 5

/-- A message in the sync stage makes the node active. -/
theorem syncingNode_continues : ¬ ∀ count,
    ((idleNode .fresh 30).run ([quietRound, stopRound, quietRound].take count)).NeverSwallowed := by
  intro always
  exact absurd (always 3) (by decide)

end Examples

end Node

end Montana.Lifecycle
