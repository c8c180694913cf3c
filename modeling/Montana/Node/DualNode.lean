import Montana.Node.CheckpointFile
import Montana.Node.NodeStep

/-! A node with the sequencer and the validator as its roles, and its actions in any order. -/

namespace Montana.Lifecycle

open Roles Vm

/-- What happens while the sequencer ticks, and how often its flush goes round. -/
structure SequencerMeanwhile (Block : Type) where
  schedule : List (List (Interference Block)) := []
  rounds : Nat := 0

structure ValidatorMeanwhile where
  unixSeconds : Nat := 0

def sequencerOutcome : TickOutcome → RoleOutcome
  | .done result => .done result
  | .failed error => .failed (.sequencer error)
  | .flushing => .awaited

def validatorOutcome : Except ProcessError TickResult → RoleOutcome
  | .ok result => .done result
  | .error error => .failed (.validator error)

section Roles

variable {Block Sink Source Exec Result Store Tx : Type}
variable [BlockResponse Block Tx] [BlockJson Block] [CheckpointStore Store]

instance [BatchSink Sink] : Role (Sequencer Block Sink Store) Store (SequencerMeanwhile Block) where
  resume self checkpoint := (.ok (), self.resume checkpoint)
  tick self meanwhile store :=
    let (outcome, self) :=
      Sequencer.tick { self with store, schedule := meanwhile.schedule } meanwhile.rounds
    (sequencerOutcome outcome, self, self.store)
  checkpoint self := self.roleCheckpoint

instance [L1BatchSource Source] [Executor Exec Block Result] :
    Role (Validator Block Source Exec Result Store) Store ValidatorMeanwhile where
  resume self checkpoint := (.ok (), self.resume checkpoint)
  tick self meanwhile store :=
    let (outcome, self) := Validator.tick { self with store, wallClock := meanwhile.unixSeconds }
    (validatorOutcome outcome, self, self.store)
  checkpoint self := self.roleCheckpoint

end Roles

/-- The options of the command line that decide how a node is built; the executor mode is
refused before. -/
structure MontanaCli where
  mode : NodeRole := .dual
  skipSync : Bool := false
  checkpointPath : String := "./data/checkpoint.json"
  checkpointInterval : Nat := 10
  syncThreshold : Nat := 10
  withHarness : Bool := false
  deriving DecidableEq, Repr

/-- Small batches and quick feedback in harness mode. -/
def MontanaCli.batcherConfig (cli : MontanaCli) : BatcherConfig :=
  if cli.withHarness then { minBatchSize := 10, batchInterval := 2000, maxBlocksPerBatch := 3 } else {}

/-- The path that the roles get: none in harness mode. -/
def MontanaCli.roleCheckpointPath (cli : MontanaCli) : Option String :=
  if cli.withHarness then none else some cli.checkpointPath

def MontanaCli.nodeConfig (cli : MontanaCli) : NodeConfig where
  role := cli.mode
  checkpointPath := cli.checkpointPath
  checkpointIntervalSecs := cli.checkpointInterval
  skipSync := cli.skipSync

section Building

variable {Producer Block Sink Source Exec Result Store : Type} [CheckpointStore Store]

/-- The sequencer of `build_node_common`, if the mode runs one. -/
def buildSequencer (cli : MontanaCli) (tui : Bool) (batchSink : Sink) (compressor : Compressor)
    (blockRx : Receiver Block) (store : Store) (now : Nat) :
    Except Report (Option (Sequencer Block Sink Store)) :=
  if cli.nodeConfig.role.runsSequencer then
    match Sequencer.new batchSink compressor cli.batcherConfig cli.roleCheckpointPath blockRx store now with
    | .error e => .error (.checkpoint e)
    | .ok sequencer => .ok (some (if tui then sequencer.withExecutionCallback.withBatchCallback else sequencer))
  else .ok none

def buildValidator (cli : MontanaCli) (tui : Bool) (batchSource : Source) (compressor : Compressor)
    (executor : Exec) (store : Store) :
    Except Report (Option (Validator Block Source Exec Result Store)) :=
  if cli.nodeConfig.role.runsValidator then
    match Validator.new batchSource compressor cli.roleCheckpointPath executor store with
    | .error e => .error (.checkpoint e)
    | .ok validator => .ok (some (if tui then validator.withDerivationCallback else validator))
  else .ok none

/-- `build_node_common`, with the executor on its databases and the ends of the batch context given. -/
def buildNodeCommon (cli : MontanaCli) (tui : Bool) (blockProducer : Producer) (batchSink : Sink)
    (batchSource : Source) (compressor : Compressor) (blockRx : Receiver Block) (executor : Exec)
    (store : Store) (now : Nat) :
    Except Report (Node Producer (Sequencer Block Sink Store) (Validator Block Source Exec Result Store)
      Store) :=
  match buildSequencer cli tui batchSink compressor blockRx store now with
  | .error e => .error e
  | .ok sequencer =>
    match buildValidator cli tui batchSource compressor executor store with
    | .error e => .error e
    | .ok validator =>
      let syncStage := if cli.skipSync then none
        else some (SyncStage.new blockProducer { syncThreshold := cli.syncThreshold } now)
      let builder : NodeBuilder Producer (Sequencer Block Sink Store)
          (Validator Block Source Exec Result Store) :=
        { config := cli.nodeConfig, syncStage, sequencer, validator }
      match builder.build store now with
      | .error message => .error (.other message)
      | .ok node => .ok node

/-- All three writers are there and save at one path. -/
structure Sharing (path : String) (dual : Node Producer (Sequencer Block Sink Store)
    (Validator Block Source Exec Result Store) Store) : Prop where
  own : dual.config.checkpointPath = path
  sequencer : ∃ there, dual.sequencer = some there ∧ there.checkpointPath = some path ∧
    0 < there.nextSubmissionNumber
  validator : ∃ there, dual.validator = some there ∧ there.checkpointPath = some path

omit [CheckpointStore Store] in
/-- Outside harness mode the roles of a dual node get the path of the node. -/
theorem MontanaCli.dual_frame {cli : MontanaCli} (dual : cli.mode = .dual) (live : cli.withHarness = false) :
    cli.roleCheckpointPath = some cli.checkpointPath ∧ cli.nodeConfig.role.runsSequencer = true ∧
      cli.nodeConfig.role.runsValidator = true := by
  refine ⟨?_, ?_, ?_⟩
  · rw [MontanaCli.roleCheckpointPath, live]
    rfl
  · rw [MontanaCli.nodeConfig, dual]
    rfl
  · rw [MontanaCli.nodeConfig, dual]
    rfl

private theorem buildSequencer_ok {cli : MontanaCli} {tui : Bool} {batchSink : Sink}
    {compressor : Compressor}
    {blockRx : Receiver Block} {store : Store} {now : Nat} {sequencer : Option (Sequencer Block Sink Store)}
    (dual : cli.mode = .dual) (live : cli.withHarness = false)
    (built : buildSequencer cli tui batchSink compressor blockRx store now = .ok sequencer) :
    ∃ there, sequencer = some there ∧ there.checkpointPath = some cli.checkpointPath ∧
      0 < there.nextSubmissionNumber := by
  obtain ⟨path, runs, _⟩ := MontanaCli.dual_frame dual live
  unfold buildSequencer at built
  rw [if_pos runs, path] at built
  split at built
  · cases built
  · rename_i made
    cases built
    refine ⟨_, rfl, ?_⟩
    obtain ⟨checkpoint, rfl⟩ := Sequencer.new_startingFrom made
    cases tui <;> exact ⟨rfl, Nat.one_pos⟩

private theorem buildValidator_ok {cli : MontanaCli} {tui : Bool} {batchSource : Source}
    {compressor : Compressor}
    {executor : Exec} {store : Store} {validator : Option (Validator Block Source Exec Result Store)}
    (dual : cli.mode = .dual) (live : cli.withHarness = false)
    (built : buildValidator cli tui batchSource compressor executor store = .ok validator) :
    ∃ there, validator = some there ∧ there.checkpointPath = some cli.checkpointPath := by
  obtain ⟨path, _, runs⟩ := MontanaCli.dual_frame dual live
  unfold buildValidator at built
  rw [if_pos runs, path] at built
  split at built
  · cases built
  · rename_i made
    cases built
    refine ⟨_, rfl, ?_⟩
    obtain ⟨checkpoint, rfl⟩ := Validator.new_startingFrom made
    cases tui <;> rfl

/-- What `build_node_common` makes of a dual node: three writers that share one path. -/
theorem buildNodeCommon_sharing {cli : MontanaCli} {tui : Bool} {blockProducer : Producer}
    {batchSink : Sink} {batchSource : Source} {compressor : Compressor} {blockRx : Receiver Block}
    {executor : Exec} {store : Store} {now : Nat} {node : Node Producer (Sequencer Block Sink Store)
      (Validator Block Source Exec Result Store) Store}
    (dual : cli.mode = .dual) (live : cli.withHarness = false)
    (built : buildNodeCommon cli tui blockProducer batchSink batchSource compressor blockRx executor
      store now = .ok node) :
    node.Launched ∧ node.store = store ∧ Sharing cli.checkpointPath node := by
  unfold buildNodeCommon at built
  split at built
  · cases built
  · rename_i sequencer made
    obtain ⟨first, rfl, path, numbered⟩ := buildSequencer_ok dual live made
    split at built
    · cases built
    · rename_i validator other
      obtain ⟨second, rfl, same⟩ := buildValidator_ok dual live other
      simp only [] at built
      split at built
      · cases built
      · rename_i assembled
        cases built
        refine ⟨(NodeBuilder.build_launched assembled).1, ?_⟩
        obtain rfl := NodeBuilder.build_startingFrom assembled
        exact ⟨rfl, rfl, ⟨first, rfl, path, numbered⟩, second, rfl, same⟩

end Building

section Turns

variable {Producer Block Seq Val Store SeqMeanwhile ValMeanwhile : Type}

/-- What one of the three writers does in its turn: an iteration of the sync stage, what goes
before the ticks in an iteration of the active stage, a tick of a role, the passing of time,
or a save of the node. -/
inductive Turn (SeqMeanwhile ValMeanwhile : Type) where
  | sync (round : Round SeqMeanwhile ValMeanwhile)
  | pass (round : Round SeqMeanwhile ValMeanwhile)
  | sequencer (meanwhile : SeqMeanwhile)
  | validator (meanwhile : ValMeanwhile)
  | elapse (elapsed : Nat)
  | save

namespace Node

/-- A tick that fails or does not return ends the run. -/
def settle : RoleOutcome × Node Producer Seq Val Store → Node Producer Seq Val Store
  | (.done _, self) => self
  | (.failed report, self) => self.finish (.error report)
  | (.awaited, self) => { self with phase := .awaiting }

variable [BlockProducer Producer Block] [CheckpointStore Store]
variable [Role Seq Store SeqMeanwhile] [Role Val Store ValMeanwhile]

/-- A turn in the active stage. -/
def activeTurn (self : Node Producer Seq Val Store) :
    Turn SeqMeanwhile ValMeanwhile → Node Producer Seq Val Store
  | .sync _ => self
  | .pass round =>
    match (self.arrive round).checkShutdown with
    | (true, self) => self.shutdown
    | (false, self) => self
  | .sequencer meanwhile => settle (self.tickSequencer meanwhile)
  | .validator meanwhile => settle (self.tickValidator meanwhile)
  | .elapse elapsed => self.wait elapsed
  | .save =>
    match self.saveCheckpoint with
    | (.error e, self) => self.finish (.error e)
    | (.ok (), self) => self

def turn (self : Node Producer Seq Val Store) (turn : Turn SeqMeanwhile ValMeanwhile) :
    Node Producer Seq Val Store :=
  match self.phase, turn with
  | .launched, .sync round => self.step round
  | .syncing, .sync round => self.step round
  | .active, turn => self.activeTurn turn
  | _, _ => self

theorem turn_active {self : Node Producer Seq Val Store} (active : self.phase = .active)
    (next : Turn SeqMeanwhile ValMeanwhile) : self.turn next = self.activeTurn next := by
  unfold turn
  rw [active]

theorem turn_sync {self : Node Producer Seq Val Store}
    (opening : self.phase = .launched ∨ self.phase = .syncing)
    (round : Round SeqMeanwhile ValMeanwhile) : self.turn (.sync round) = self.step round := by
  unfold turn
  rcases opening with launched | syncing
  · rw [launched]
  · rw [syncing]

/-- Behind the sync stage: active, in a tick that does not return, or at the end. -/
def Behind (self : Node Producer Seq Val Store) : Prop :=
  self.phase = .active ∨ self.phase = .awaiting ∨ ∃ result, self.phase = .returned result

omit [BlockProducer Producer Block] [CheckpointStore Store] [Role Seq Store SeqMeanwhile]
  [Role Val Store ValMeanwhile] in
theorem Behind.left {self : Node Producer Seq Val Store} (behind : self.Behind) :
    ¬ (self.phase = .launched ∨ self.phase = .syncing) := by
  rintro (launched | syncing)
  · rcases behind with active | awaiting | ⟨_, returned⟩
    · exact nomatch active.symm.trans launched
    · exact nomatch awaiting.symm.trans launched
    · exact nomatch returned.symm.trans launched
  · rcases behind with active | awaiting | ⟨_, returned⟩
    · exact nomatch active.symm.trans syncing
    · exact nomatch awaiting.symm.trans syncing
    · exact nomatch returned.symm.trans syncing

omit [BlockProducer Producer Block] [CheckpointStore Store] [Role Seq Store SeqMeanwhile]
  [Role Val Store ValMeanwhile] in
private theorem settle_behind {outcome : RoleOutcome} {self : Node Producer Seq Val Store}
    (active : self.phase = .active) : (settle (outcome, self)).Behind := by
  cases outcome with
  | done result => exact .inl active
  | failed report => exact .inr (.inr ⟨_, rfl⟩)
  | awaited => exact .inr (.inl rfl)

omit [BlockProducer Producer Block] in
theorem activeTurn_behind {self : Node Producer Seq Val Store} (active : self.phase = .active)
    (next : Turn SeqMeanwhile ValMeanwhile) : (self.activeTurn next).Behind := by
  cases next with
  | sync round => exact .inl active
  | pass round =>
    obtain ⟨shutdownRx, trace, frame⟩ := (self.arrive round).checkShutdown_frame
    unfold activeTurn
    simp only []
    split <;> rename_i asked <;> rw [asked] at frame
    · exact .inr (.inr (shutdown_phase _))
    · exact .inl ((congrArg Node.phase frame).trans active)
  | sequencer meanwhile => exact settle_behind ((self.tickSequencer_phase meanwhile).trans active)
  | validator meanwhile => exact settle_behind ((self.tickValidator_phase meanwhile).trans active)
  | elapse elapsed => exact .inl active
  | save =>
    obtain ⟨lastCheckpointSave, events, same, _⟩ := self.saveCheckpoint_frame
    unfold activeTurn
    simp only []
    split <;> rename_i saved <;> rw [saved] at same
    · exact .inr (.inr ⟨_, rfl⟩)
    · exact .inl ((congrArg Node.phase same).trans active)

def interleave (self : Node Producer Seq Val Store) (turns : List (Turn SeqMeanwhile ValMeanwhile)) :
    Node Producer Seq Val Store :=
  turns.foldl turn self

private theorem interleave_active {self : Node Producer Seq Val Store} (active : self.phase = .active)
    (next : Turn SeqMeanwhile ValMeanwhile) (rest : List (Turn SeqMeanwhile ValMeanwhile)) :
    self.interleave (next :: rest) = (self.activeTurn next).interleave rest := by
  rw [interleave, List.foldl_cons, turn_active active]
  rfl

/-- The end of an iteration of the active loop as turns. -/
theorem save_turns {self : Node Producer Seq Val Store} (active : self.phase = .active)
    (beforeSave : Nat) (moved : Prop) [Decidable moved] :
    ∃ turns : List (Turn SeqMeanwhile ValMeanwhile), self.interleave turns =
      match (self.wait beforeSave).maybeSaveCheckpoint with
      | (.error e, self) => self.finish (.error e)
      | (.ok (), self) => if moved then self else self.wait 10 := by
  have waiting : (self.wait beforeSave).phase = .active := active
  have kept := (self.wait beforeSave).maybeSaveCheckpoint_frame.2.1.trans waiting
  unfold maybeSaveCheckpoint at kept ⊢
  simp only [] at kept ⊢
  by_cases due : (self.wait beforeSave).clock - (self.wait beforeSave).lastCheckpointSave ≥
      (self.wait beforeSave).config.checkpointIntervalSecs * 1000
  · rw [if_pos due] at kept ⊢
    cases saved : (self.wait beforeSave).saveCheckpoint with
    | mk result after =>
      rw [saved] at kept
      cases result with
      | error e =>
        refine ⟨[.elapse beforeSave, .save], ?_⟩
        rw [interleave_active active, activeTurn, interleave_active waiting, activeTurn, saved]
        rfl
      | ok =>
        by_cases busy : moved
        · refine ⟨[.elapse beforeSave, .save], ?_⟩
          rw [interleave_active active, activeTurn, interleave_active waiting, activeTurn, saved]
          exact (if_pos busy).symm
        · refine ⟨[.elapse beforeSave, .save, .elapse 10], ?_⟩
          rw [interleave_active active, activeTurn, interleave_active waiting, activeTurn, saved]
          exact (interleave_active kept _ _).trans (if_neg busy).symm
  · rw [if_neg due]
    by_cases busy : moved
    · exact ⟨[.elapse beforeSave], (interleave_active active _ _).trans (if_pos busy).symm⟩
    · refine ⟨[.elapse beforeSave, .elapse 10], ?_⟩
      rw [interleave_active active]
      exact (interleave_active waiting _ _).trans (if_neg busy).symm

/-- Every round of `run` is a sequence of turns. -/
theorem step_turns (self : Node Producer Seq Val Store) (round : Round SeqMeanwhile ValMeanwhile) :
    ∃ turns, self.interleave turns = self.step round := by
  cases stands : self.phase with
  | launched => exact ⟨[.sync round], turn_sync (.inl stands) round⟩
  | syncing => exact ⟨[.sync round], turn_sync (.inr stands) round⟩
  | active =>
    rw [step, stands]
    have arrived : (self.arrive round).phase = .active := stands
    cases asked : (self.arrive round).checkShutdown with
    | mk stops checked =>
      cases stops with
      | true =>
        refine ⟨[.pass round], ?_⟩
        rw [interleave_active stands, activeTurn, asked, activeIteration_asked asked]
        rfl
      | false =>
        have unasked := (checkShutdown_false asked).1
        rw [unasked] at asked
        have first := (self.arrive round).tickSequencer_phase round.sequencer
        show ∃ turns, self.interleave turns = (self.arrive round).activeIteration round
        unfold activeIteration
        simp only [asked]
        have passed (rest : List (Turn SeqMeanwhile ValMeanwhile)) :
            self.interleave (.pass round :: .sequencer round.sequencer :: rest) =
              (settle ((self.arrive round).tickSequencer round.sequencer)).interleave rest := by
          rw [interleave_active stands, activeTurn, asked]
          exact interleave_active arrived _ _
        split <;> rename_i sequenced <;> rw [sequenced] at passed first
        · exact ⟨_, passed []⟩
        · exact ⟨_, passed []⟩
        · rename_i between
          have second := between.tickValidator_phase round.validator
          have ticked (rest : List (Turn SeqMeanwhile ValMeanwhile)) :
              between.interleave (.validator round.validator :: rest) =
                (settle (between.tickValidator round.validator)).interleave rest :=
            interleave_active (first.trans arrived) _ _
          split <;> rename_i validated <;> rw [validated] at ticked second
          · exact ⟨_, (passed _).trans (ticked [])⟩
          · exact ⟨_, (passed _).trans (ticked [])⟩
          · rename_i result _ other behind
            have active : behind.phase = .active := second.trans (first.trans arrived)
            obtain ⟨turns, saved⟩ := save_turns active round.beforeSave
              (result = .progress || other = .progress)
            exact ⟨_, (passed _).trans ((ticked turns).trans saved)⟩
  | awaiting =>
    refine ⟨[], ?_⟩
    rw [step, stands]
    rfl
  | returned result =>
    refine ⟨[], ?_⟩
    rw [step, stands]
    rfl

end Node

end Turns

end Montana.Lifecycle
