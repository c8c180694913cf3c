import Montana.Node.SyncStage
import Montana.Roles.Sequencer
import Montana.Roles.Validator

/-! The node: its sync stage, the change to the active stage and the loop over its roles. -/

namespace Montana.Lifecycle

open Roles (TickResult RoleCheckpoint TickError ProcessError)

inductive NodeRole where
  | sequencer
  | validator
  | dual
  deriving DecidableEq, Repr

def NodeRole.runsSequencer : NodeRole → Bool
  | .sequencer | .dual => true
  | .validator => false

def NodeRole.runsValidator : NodeRole → Bool
  | .validator | .dual => true
  | .sequencer => false

/-- `{:?}` of a role. -/
def NodeRole.debug : NodeRole → String
  | .sequencer => "Sequencer"
  | .validator => "Validator"
  | .dual => "Dual"

structure NodeConfig where
  role : NodeRole := .dual
  checkpointPath : String := "./data/checkpoint.json"
  checkpointIntervalSecs : Nat := 10
  skipSync : Bool := false
  deriving DecidableEq, Repr

inductive NodeState where
  | starting
  | syncing (progress : SyncProgress)
  | active
  | stopping
  | stopped
  deriving DecidableEq, Repr

/-- The events that the node itself emits. -/
inductive NodeEvent where
  | stateChanged (state : NodeState)
  | checkpointSaved (checkpoint : Checkpoint)
  | syncStarted (startBlock targetBlock : Nat)
  | syncProgress (progress : SyncProgress)
  | syncCompleted (blocksSynced : Nat)
  deriving DecidableEq, Repr

/-- The errors that `eyre::Report` erases. -/
inductive Report where
  | producer (message : String)
  | checkpoint (error : CheckpointError)
  | sequencer (error : TickError)
  | validator (error : ProcessError)
  | other (message : String)
  deriving DecidableEq, Repr

/-- A tick of a role returned, or it is still awaited. -/
inductive RoleOutcome where
  | done (result : TickResult)
  | failed (report : Report)
  | awaited
  deriving DecidableEq, Repr

/-- `Box<dyn Role>`: a tick may use the file system, and what the rest of the process does
meanwhile is its second argument. -/
class Role (Party : Type) (Store Meanwhile : outParam Type) where
  resume : Party → Checkpoint → Except Report Unit × Party
  tick : Party → Meanwhile → Store → RoleOutcome × Party × Store
  checkpoint : Party → RoleCheckpoint

/-- Where `run` stands between two iterations of its loops. -/
inductive Phase where
  | launched
  | syncing
  | active
  | awaiting
  | returned (result : Except Report Unit)
  deriving DecidableEq, Repr

/-- What `run` did that can be seen from outside. -/
inductive Action where
  | emitted (event : NodeEvent)
  | shutdownReceived
  | syncTick
  | sequencerTick
  | validatorTick
  deriving DecidableEq, Repr

structure Node (Producer Seq Val Store : Type) where
  config : NodeConfig
  state : NodeState
  checkpoint : Checkpoint
  syncStage : Option (SyncStage Producer)
  sequencer : Option Seq
  validator : Option Val
  /-- The number of messages that wait in the shutdown channel or before it. -/
  shutdownRx : Nat
  lastCheckpointSave : Nat
  /-- Runtime: the global flag, the time in milliseconds, the time of day and the files. -/
  shutdownRequested : Bool
  clock : Nat
  wallClock : Nat
  store : Store
  phase : Phase
  /-- History: what was done, every value of `checkpoint`, and those given to `resume`. -/
  trace : List Action
  assigned : List Checkpoint
  handed : List Checkpoint

/-- `NodeBuilder`; its observers see the emitted events and change nothing. -/
structure NodeBuilder (Producer Seq Val : Type) where
  config : NodeConfig := {}
  syncStage : Option (SyncStage Producer) := none
  sequencer : Option Seq := none
  validator : Option Val := none

namespace NodeBuilder

variable {Producer Seq Val Store : Type} [CheckpointStore Store]

/-- The node that `build` makes from a checkpoint. -/
def startingFrom (self : NodeBuilder Producer Seq Val) (checkpoint : Checkpoint) (store : Store)
    (now : Nat) : Node Producer Seq Val Store where
  config := self.config
  state := .starting
  checkpoint := checkpoint
  syncStage := self.syncStage
  sequencer := self.sequencer
  validator := self.validator
  shutdownRx := 0
  lastCheckpointSave := now
  shutdownRequested := false
  clock := now
  wallClock := 0
  store := store
  phase := .launched
  trace := []
  assigned := [checkpoint]
  handed := []

def missingSequencer (role : NodeRole) : String :=
  s!"Node role {role.debug} requires a sequencer, but none was provided. " ++
    "Use with_sequencer() to provide one."

def missingValidator (role : NodeRole) : String :=
  s!"Node role {role.debug} requires a validator, but none was provided. " ++
    "Use with_validator() to provide one."

def missingSyncStage : String :=
  "Sync is not skipped but no sync stage was provided. " ++
    "Use with_sync_stage() to provide one or skip_sync() to skip syncing."

/-- A checkpoint that cannot be read counts as none. -/
def loadCheckpoint (store : Store) (checkpointPath : String) : Checkpoint :=
  match CheckpointStore.load store checkpointPath with
  | .ok (some checkpoint) => checkpoint
  | _ => Checkpoint.fresh

def build (self : NodeBuilder Producer Seq Val) (store : Store) (now : Nat) :
    Except String (Node Producer Seq Val Store) :=
  if self.config.role.runsSequencer && self.sequencer.isNone then
    .error (missingSequencer self.config.role)
  else if self.config.role.runsValidator && self.validator.isNone then
    .error (missingValidator self.config.role)
  else if !self.config.skipSync && self.syncStage.isNone then .error missingSyncStage
  else .ok (self.startingFrom (loadCheckpoint store self.config.checkpointPath) store now)

end NodeBuilder

/-- What happens from one iteration of a loop of `run` to the next: messages sent on the
shutdown channel, Ctrl+C, the time that passes before and after the ticks and the time of
day, and what the rest of the process does while a role ticks. -/
structure Round (SeqMeanwhile ValMeanwhile : Type) where
  shutdownSent : Nat := 0
  ctrlC : Bool := false
  beforeTick : Nat := 0
  beforeSave : Nat := 0
  unixSeconds : Nat := 0
  sequencer : SeqMeanwhile
  validator : ValMeanwhile

namespace Node

variable {Producer Block Seq Val Store SeqMeanwhile ValMeanwhile : Type}

def emit (self : Node Producer Seq Val Store) (event : NodeEvent) : Node Producer Seq Val Store :=
  { self with trace := self.trace ++ [.emitted event] }

def setState (self : Node Producer Seq Val Store) (newState : NodeState) :
    Node Producer Seq Val Store :=
  emit { self with state := newState } (.stateChanged newState)

/-- An assignment to `checkpoint`, with its history. -/
def assign (self : Node Producer Seq Val Store) (checkpoint : Checkpoint) :
    Node Producer Seq Val Store :=
  { self with checkpoint, assigned := self.assigned ++ [checkpoint] }

def record (self : Node Producer Seq Val Store) (action : Action) : Node Producer Seq Val Store :=
  { self with trace := self.trace ++ [action] }

def finish (self : Node Producer Seq Val Store) (result : Except Report Unit) :
    Node Producer Seq Val Store :=
  { self with phase := .returned result }

/-- `shutdown_rx.try_recv().is_ok() || is_shutdown_requested()`. -/
def checkShutdown (self : Node Producer Seq Val Store) : Bool × Node Producer Seq Val Store :=
  match self.shutdownRx with
  | 0 => (self.shutdownRequested, self)
  | waiting + 1 => (true, { self with shutdownRx := waiting }.record .shutdownReceived)

def arrive (self : Node Producer Seq Val Store) (round : Round SeqMeanwhile ValMeanwhile) :
    Node Producer Seq Val Store :=
  { self with
    shutdownRx := self.shutdownRx + round.shutdownSent
    shutdownRequested := self.shutdownRequested || round.ctrlC
    clock := self.clock + round.beforeTick
    wallClock := round.unixSeconds }

def wait (self : Node Producer Seq Val Store) (elapsed : Nat) : Node Producer Seq Val Store :=
  { self with clock := self.clock + elapsed }

section Saving

variable [CheckpointStore Store]

def saveCheckpoint (self : Node Producer Seq Val Store) :
    Except Report Unit × Node Producer Seq Val Store :=
  let self := self.assign (self.checkpoint.touch self.wallClock)
  match CheckpointStore.save self.store self.config.checkpointPath self.checkpoint with
  | (.error e, store) => (.error (.checkpoint e), { self with store })
  | (.ok (), store) =>
    let self := { self with store, lastCheckpointSave := self.clock }
    (.ok (), self.emit (.checkpointSaved self.checkpoint))

def maybeSaveCheckpoint (self : Node Producer Seq Val Store) :
    Except Report Unit × Node Producer Seq Val Store :=
  let interval := self.config.checkpointIntervalSecs * 1000
  if self.clock - self.lastCheckpointSave ≥ interval then self.saveCheckpoint else (.ok (), self)

/-- The end of `run`, behind the active stage. -/
def shutdown (self : Node Producer Seq Val Store) : Node Producer Seq Val Store :=
  match (self.setState .stopping).saveCheckpoint with
  | (.error e, self) => self.finish (.error e)
  | (.ok (), self) => (self.setState .stopped).finish (.ok ())

end Saving

section Roles

variable [Role Seq Store SeqMeanwhile] [Role Val Store ValMeanwhile]

def resumeSequencer (self : Node Producer Seq Val Store) :
    Except Report Unit × Node Producer Seq Val Store :=
  match self.sequencer with
  | none => (.ok (), self)
  | some sequencer =>
    match Role.resume sequencer self.checkpoint with
    | (result, sequencer) => (result, { self with
        sequencer := some sequencer
        handed := self.handed ++ [self.checkpoint] })

def resumeValidator (self : Node Producer Seq Val Store) :
    Except Report Unit × Node Producer Seq Val Store :=
  match self.validator with
  | none => (.ok (), self)
  | some validator =>
    match Role.resume validator self.checkpoint with
    | (result, validator) => (result, { self with
        validator := some validator
        handed := self.handed ++ [self.checkpoint] })

/-- The part of `run` between its two stages. -/
def activate (self : Node Producer Seq Val Store) : Node Producer Seq Val Store :=
  match (self.setState .active).resumeSequencer with
  | (.error e, self) => self.finish (.error e)
  | (.ok (), self) =>
    match self.resumeValidator with
    | (.error e, self) => self.finish (.error e)
    | (.ok (), self) => { self with phase := .active }

/-- `if let Some(number) = … { self.checkpoint.record_…(number) }`. -/
def merge (self : Node Producer Seq Val Store) (recordNumber : Checkpoint → Nat → Checkpoint) :
    Option Nat → Node Producer Seq Val Store
  | none => self
  | some number => self.assign (recordNumber self.checkpoint number)

/-- A tick of the sequencer, if there is one, and what it reports. -/
def tickSequencer (self : Node Producer Seq Val Store) (meanwhile : SeqMeanwhile) :
    RoleOutcome × Node Producer Seq Val Store :=
  match self.sequencer with
  | none => (.done .idle, self)
  | some sequencer =>
    match Role.tick sequencer meanwhile self.store with
    | (outcome, sequencer, store) =>
      let self := { self with sequencer := some sequencer, store }.record .sequencerTick
      match outcome with
      | .done result =>
        let reported : RoleCheckpoint := Role.checkpoint sequencer
        (.done result, (self.merge Checkpoint.recordBatchSubmitted reported.lastBatchSubmitted).merge
          Checkpoint.recordBlockExecuted reported.lastBlockProcessed)
      | _ => (outcome, self)

def tickValidator (self : Node Producer Seq Val Store) (meanwhile : ValMeanwhile) :
    RoleOutcome × Node Producer Seq Val Store :=
  match self.validator with
  | none => (.done .idle, self)
  | some validator =>
    match Role.tick validator meanwhile self.store with
    | (outcome, validator, store) =>
      let self := { self with validator := some validator, store }.record .validatorTick
      match outcome with
      | .done result =>
        let reported : RoleCheckpoint := Role.checkpoint validator
        (.done result, (self.merge Checkpoint.recordBatchDerived reported.lastBatchDerived).merge
          Checkpoint.recordBlockExecuted reported.lastBlockProcessed)
      | _ => (outcome, self)

variable [BlockProducer Producer Block] [CheckpointStore Store]

/-- `run` up to the loop of the sync stage, or up to the active stage without one. -/
def launch (self : Node Producer Seq Val Store) : Node Producer Seq Val Store :=
  if self.config.skipSync then self.activate
  else
    match self.syncStage with
    | none => self.activate
    | some syncStage =>
      match syncStage.initializeFrom self.checkpoint.syncedToBlock self.clock with
      | (.error e, syncStage) =>
        { self with syncStage := some syncStage }.finish (.error (.producer e))
      | (.ok (), syncStage) =>
        let self := { self with syncStage := some syncStage, phase := .syncing }
        let progress := syncStage.progress
        (self.emit (.syncStarted progress.startBlock progress.targetBlock)).setState (.syncing progress)

/-- The branch of the sync loop for progress: the save comes before the record. -/
def reportProgress (self : Node Producer Seq Val Store) (progress : SyncProgress) (beforeSave : Nat) :
    Node Producer Seq Val Store :=
  let self := (self.setState (.syncing progress)).emit (.syncProgress progress)
  match (self.wait beforeSave).maybeSaveCheckpoint with
  | (.error e, self) => self.finish (.error e)
  | (.ok (), self) => self.assign (self.checkpoint.recordSyncProgress progress.currentBlock)

/-- The branch of the sync loop for completion: the checkpoint becomes that of the stage. -/
def completeSync (self : Node Producer Seq Val Store) (syncStage : SyncStage Producer) :
    Node Producer Seq Val Store :=
  let progress := syncStage.progress
  let self := self.emit (.syncCompleted (progress.currentBlock - progress.startBlock))
  match (self.assign syncStage.checkpoint).saveCheckpoint with
  | (.error e, self) => self.finish (.error e)
  | (.ok (), self) => self.activate

def syncIteration (self : Node Producer Seq Val Store) (beforeSave : Nat) : Node Producer Seq Val Store :=
  match self.checkShutdown with
  | (true, self) => self.activate
  | (false, self) =>
    match self.syncStage with
    | none => self.activate
    | some syncStage =>
      match syncStage.tick self.clock with
      | (status, syncStage) =>
        let self := { self with syncStage := some syncStage }.record .syncTick
        match status with
        | .error e => self.finish (.error (.producer e))
        | .ok (.syncing progress) => self.reportProgress progress beforeSave
        | .ok .complete => self.completeSync syncStage

/-- Without progress the loop sleeps for ten milliseconds. -/
def activeIteration (self : Node Producer Seq Val Store) (round : Round SeqMeanwhile ValMeanwhile) :
    Node Producer Seq Val Store :=
  match self.checkShutdown with
  | (true, self) => self.shutdown
  | (false, self) =>
    match self.tickSequencer round.sequencer with
    | (.failed report, self) => self.finish (.error report)
    | (.awaited, self) => { self with phase := .awaiting }
    | (.done sequenced, self) =>
      match self.tickValidator round.validator with
      | (.failed report, self) => self.finish (.error report)
      | (.awaited, self) => { self with phase := .awaiting }
      | (.done validated, self) =>
        match (self.wait round.beforeSave).maybeSaveCheckpoint with
        | (.error e, self) => self.finish (.error e)
        | (.ok (), self) =>
          if sequenced = .progress || validated = .progress then self else self.wait 10

def step (self : Node Producer Seq Val Store) (round : Round SeqMeanwhile ValMeanwhile) :
    Node Producer Seq Val Store :=
  match self.phase with
  | .launched => (self.arrive round).launch
  | .syncing => (self.arrive round).syncIteration round.beforeSave
  | .active => (self.arrive round).activeIteration round
  | .awaiting | .returned _ => self

def run (self : Node Producer Seq Val Store) (rounds : List (Round SeqMeanwhile ValMeanwhile)) :
    Node Producer Seq Val Store :=
  rounds.foldl step self

end Roles

/-- `run` was called and did nothing yet. -/
structure Launched (node : Node Producer Seq Val Store) : Prop where
  phase : node.phase = .launched
  trace : node.trace = []
  assigned : node.assigned = [node.checkpoint]
  handed : node.handed = []

end Node

/-- A part that passed its check in `build` is there when it is needed. -/
private theorem present_of_passed {needed : Bool} {part : Option α}
    (passed : ¬(needed && part.isNone) = true) (needs : needed = true) : part.isSome = true := by
  rw [needs, Bool.true_and] at passed
  exact Option.isSome_iff_ne_none.mpr fun missing => passed (by rw [missing]; rfl)

theorem NodeBuilder.build_startingFrom {Producer Seq Val Store : Type} [CheckpointStore Store]
    {builder : NodeBuilder Producer Seq Val} {store : Store} {now : Nat}
    {node : Node Producer Seq Val Store} (built : builder.build store now = .ok node) :
    node = builder.startingFrom (loadCheckpoint store builder.config.checkpointPath) store now := by
  unfold build at built
  split at built
  · cases built
  · split at built
    · cases built
    · split at built
      · cases built
      · exact (Except.ok.inj built).symm

/-- What `build` accepts has the parts that its role needs, and is ready to run. -/
theorem NodeBuilder.build_launched {Producer Seq Val Store : Type} [CheckpointStore Store]
    {builder : NodeBuilder Producer Seq Val} {store : Store} {now : Nat}
    {node : Node Producer Seq Val Store} (built : builder.build store now = .ok node) :
    node.Launched ∧ (node.config.role.runsSequencer = true → node.sequencer.isSome = true) ∧
      (node.config.role.runsValidator = true → node.validator.isSome = true) ∧
      (node.config.skipSync = false → node.syncStage.isSome = true) := by
  unfold build at built
  split at built
  · cases built
  · rename_i sequencing
    split at built
    · cases built
    · rename_i validating
      split at built
      · cases built
      · rename_i syncing
        cases built
        refine ⟨⟨rfl, rfl, rfl, rfl⟩, present_of_passed sequencing, present_of_passed validating,
          fun kept => present_of_passed syncing ?_⟩
        rw [show builder.config.skipSync = false from kept]
        rfl

end Montana.Lifecycle
