import Montana.Lib.Runs
import Montana.Tui.EventLoop

/-! What the dashboard shows, as a replay of what it heard since it was last reset. -/

namespace Montana.Tui

/-- What a reset keeps. -/
structure Mode where
  nodeRole : String
  startBlock : Option Nat
  skipSync : Bool
  harnessMode : Bool
  deriving DecidableEq, Repr

section Modes

variable {F : Type}

def Mode.hear (self : Mode) : TuiEvent F → Mode
  | .modeInfo nodeRole startBlock skipSync => { self with nodeRole, startBlock, skipSync }
  | .harnessModeEnabled => { self with harnessMode := true }
  | _ => self

def App.mode (self : App F) : Mode := ⟨self.nodeRole, self.startBlock, self.skipSync, self.harnessMode⟩

/-- A new dashboard that knows the mode already. -/
def App.fresh (mode : Mode) : App F :=
  { App.new with
    nodeRole := mode.nodeRole
    startBlock := mode.startBlock
    skipSync := mode.skipSync
    harnessMode := mode.harnessMode }

def App.withPaused (self : App F) (isPaused : Bool) : App F := { self with isPaused }

private theorem App.reset_eq_fresh (self : App F) :
    self.reset = (App.fresh self.mode).withPaused self.isPaused := rfl

/-! No method but the toggle looks at the pause or changes it, and none looks at the rest
of the mode but at the harness. -/

variable {limits : Limits} (self : App F)

private theorem App.recordBatchDerived_withPaused (batchNumber : Nat) (now : Instant) (isPaused : Bool) :
    (self.withPaused isPaused).recordBatchDerived limits batchNumber now =
      (self.recordBatchDerived limits batchNumber now).withPaused isPaused := by
  have same : (self.withPaused isPaused).batchSubmitTimes = self.batchSubmitTimes := rfl
  unfold recordBatchDerived
  rw [same]
  cases self.batchSubmitTimes.lookup batchNumber <;> rfl

private theorem App.recordBatchDerivationOrigin_withPaused (batchNumber : Nat) (isPaused : Bool) :
    (self.withPaused isPaused).recordBatchDerivationOrigin batchNumber =
      (self.recordBatchDerivationOrigin batchNumber).withPaused isPaused := by
  have same : (self.withPaused isPaused).batchToL1Block = self.batchToL1Block := rfl
  unfold recordBatchDerivationOrigin
  rw [same]
  cases self.batchToL1Block.lookup batchNumber <;> rfl

private theorem App.recordL1Block_withPaused (blockNumber : Nat) (isPaused : Bool) :
    (self.withPaused isPaused).recordL1Block limits blockNumber =
      (self.recordL1Block limits blockNumber).withPaused isPaused := by
  unfold recordL1Block
  rw [apply_ite (App.withPaused · isPaused)]
  rfl

private theorem App.recordBatchInL1Block_withPaused (l1BlockNumber batchNumber blockCount : Nat)
    (isPaused : Bool) :
    (self.withPaused isPaused).recordBatchInL1Block limits l1BlockNumber batchNumber blockCount =
      (self.recordBatchInL1Block limits l1BlockNumber batchNumber blockCount).withPaused isPaused := by
  unfold recordBatchInL1Block
  dsimp only
  rw [apply_ite (App.withPaused · isPaused)]
  rfl

private theorem App.recordBatchDerived_mode (batchNumber : Nat) (now : Instant) :
    (self.recordBatchDerived limits batchNumber now).mode = self.mode := by
  unfold recordBatchDerived
  cases self.batchSubmitTimes.lookup batchNumber <;> rfl

private theorem App.recordBatchDerivationOrigin_mode (batchNumber : Nat) :
    (self.recordBatchDerivationOrigin batchNumber).mode = self.mode := by
  unfold recordBatchDerivationOrigin
  cases self.batchToL1Block.lookup batchNumber <;> rfl

private theorem App.recordL1Block_mode (blockNumber : Nat) :
    (self.recordL1Block limits blockNumber).mode = self.mode := by
  unfold recordL1Block
  split <;> rfl

private theorem App.recordBatchInL1Block_mode (l1BlockNumber batchNumber blockCount : Nat) :
    (self.recordBatchInL1Block limits l1BlockNumber batchNumber blockCount).mode = self.mode := by
  unfold recordBatchInL1Block
  dsimp only
  split <;> rfl

end Modes

/-- The mode at the last reset, and the events since that were not lost. -/
structure Trace (F : Type) where
  mode : Mode
  paused : Bool
  heard : List (Readings × TuiEvent F)

namespace Trace

variable {F : Type}

def start : Trace F := ⟨⟨"Unknown", none, false, false⟩, false, []⟩

def currentMode (self : Trace F) : Mode := self.heard.foldl (fun mode arrived => mode.hear arrived.2) self.mode

def forget (self : Trace F) : Trace F := { self with mode := self.currentMode, heard := [] }

def hear (self : Trace F) (arrived : Readings × TuiEvent F) : Trace F :=
  if self.paused then self
  else match arrived.2 with
    | .togglePause => { self with paused := true }
    | .reset => self.forget
    | _ => { self with heard := self.heard ++ [arrived] }

def press (self : Trace F) : Option KeyCode → Trace F
  | some (.char 'p') => { self with paused := !self.paused }
  | some (.char 'r') => self.forget
  | _ => self

/-- A pass that does not end the loop. -/
def onePass (self : Trace F) (pass : Pass F) : Trace F :=
  match pass.terminal with
  | .error _ => self
  | .ok key => pass.events.foldl hear (self.press key)

def listen (passes : List (Pass F)) : Trace F := passes.foldl onePass start

private theorem hear_kept {trace : Trace F} {arrived : Readings × TuiEvent F}
    (kept : ∀ heard ∈ trace.heard, heard.2 ≠ .reset) :
    ∀ heard ∈ (trace.hear arrived).heard, heard.2 ≠ .reset := by
  unfold hear
  split
  · exact kept
  · split
    · exact kept
    · nofun
    · rename_i other
      intro heard member
      rcases List.mem_append.mp member with earlier | here
      · exact kept heard earlier
      · rw [List.mem_singleton.mp here]
        exact other

/-- A reset is not on the trace that it begins. -/
theorem listen_kept (passes : List (Pass F)) : ∀ heard ∈ (listen passes).heard, heard.2 ≠ .reset := by
  apply Runs.invariant_run (fun trace : Trace F => ∀ heard ∈ trace.heard, heard.2 ≠ .reset) passes
  · intro trace pass _ kept
    unfold onePass
    split
    · exact kept
    · rename_i key _
      apply Runs.invariant_run (fun trace : Trace F => ∀ heard ∈ trace.heard, heard.2 ≠ .reset) pass.events
      · intro trace arrived _ kept
        exact hear_kept kept
      · unfold press
        split
        · exact kept
        · nofun
        · exact kept
  · nofun

end Trace

section Replays

variable {F : Type} [F64 F] (limits : Limits)

def replay (app : App F) : List (Readings × TuiEvent F) → Option (App F)
  | [] => some app
  | (clock, event) :: rest => (processEvent limits app clock event).bind fun next => replay next rest

/-- The dashboard that has heard just what is on the trace. -/
def Trace.shown (self : Trace F) : Option (App F) :=
  (replay limits (App.fresh self.mode) self.heard).map (·.withPaused self.paused)

variable {limits}

theorem replay_append (app : App F) (events : List (Readings × TuiEvent F))
    (arrived : Readings × TuiEvent F) :
    replay limits app (events ++ [arrived]) =
      (replay limits app events).bind fun next => processEvent limits next arrived.1 arrived.2 := by
  induction events generalizing app with
  | nil => simp [replay]
  | cons first rest ih =>
    simp only [List.cons_append, replay, ih, Option.bind_assoc]

private theorem processEvent_withPaused (app : App F) (clock : Readings) {event : TuiEvent F}
    (other : event ≠ .togglePause) (isPaused : Bool) :
    processEvent limits (app.withPaused isPaused) clock event =
      (processEvent limits app clock event).map (·.withPaused isPaused) := by
  cases event with
  | togglePause => exact absurd rfl other
  | batchDerived batchNumber blockCount firstBlock lastBlock =>
    have moved := App.recordBatchDerivationOrigin_withPaused
      ((app.recordBatchDerived limits batchNumber (clock 0)).setFinalizedHead lastBlock) batchNumber isPaused
    simp only [processEvent, Option.map_some, App.recordBatchDerived_withPaused]
    exact congrArg (fun app : App F => some (app.logDerivation limits _)) moved
  | blockBuilderInit rpcUrl pollIntervalMs =>
    simp only [processEvent, Option.map_map]
    congr 1
    funext displayUrl
    rw [Function.comp_apply, apply_ite (App.withPaused · isPaused)]
    rfl
  | waitingForChain service =>
    simp only [processEvent, Option.map_some]
    repeat' split
    all_goals rfl
  | l1BlockProduced blockNumber =>
    exact congrArg some (App.recordL1Block_withPaused app blockNumber isPaused)
  | batchIncludedInL1 l1BlockNumber batchNumber blockCount =>
    exact congrArg some
      (App.recordBatchInL1Block_withPaused app l1BlockNumber batchNumber blockCount isPaused)
  | syncProgress _ _ _ _ | blockBuilt _ _ _ _ | sequencerInit _ _ _ _ | validatorInit _
  | executionInit _ _ _ =>
    rw [processEvent, processEvent, Option.map_some, apply_ite (App.withPaused · isPaused)]
    rfl
  | _ => rfl

private theorem processEvent_mode {app next : App F} {clock : Readings} {event : TuiEvent F}
    (processed : processEvent limits app clock event = some next) : next.mode = app.mode.hear event := by
  cases event with
  | batchDerived batchNumber blockCount firstBlock lastBlock =>
    cases processed
    exact (App.recordBatchDerivationOrigin_mode _ batchNumber).trans
      (App.recordBatchDerived_mode app batchNumber (clock 0))
  | blockBuilderInit rpcUrl pollIntervalMs =>
    obtain ⟨displayUrl, _, rfl⟩ := Option.map_eq_some_iff.mp processed
    dsimp only
    split <;> rfl
  | l1BlockProduced blockNumber =>
    cases processed
    exact App.recordL1Block_mode app blockNumber
  | batchIncludedInL1 l1BlockNumber batchNumber blockCount =>
    cases processed
    exact App.recordBatchInL1Block_mode app l1BlockNumber batchNumber blockCount
  | syncProgress _ _ _ _ | blockBuilt _ _ _ _ | sequencerInit _ _ _ _ | validatorInit _
  | executionInit _ _ _ | waitingForChain _ =>
    rw [← Option.some.inj processed]
    repeat' split
    all_goals rfl
  | _ =>
    cases processed
    rfl

private theorem replay_mode {events : List (Readings × TuiEvent F)} {app next : App F}
    (replayed : replay limits app events = some next) :
    next.mode = events.foldl (fun mode arrived => mode.hear arrived.2) app.mode := by
  induction events generalizing app with
  | nil =>
    cases replayed
    rfl
  | cons arrived rest ih =>
    obtain ⟨between, processed, replayed⟩ := Option.bind_eq_some_iff.mp replayed
    rw [ih replayed, processEvent_mode processed]
    rfl

/-- The dashboard is the one that the trace tells of. -/
def Shows (limits : Limits) (trace : Trace F) (app : App F) : Prop := trace.shown limits = some app

theorem Shows.replayed {trace : Trace F} {app : App F} (shows : Shows limits trace app) :
    ∃ replayed, replay limits (App.fresh trace.mode) trace.heard = some replayed ∧
      app = replayed.withPaused trace.paused := by
  obtain ⟨replayed, same, rfl⟩ := Option.map_eq_some_iff.mp shows
  exact ⟨replayed, same, rfl⟩

theorem Shows.togglePause {trace : Trace F} {app : App F} (shows : Shows limits trace app) :
    Shows limits { trace with paused := !trace.paused } app.togglePause := by
  obtain ⟨replayed, same, rfl⟩ := shows.replayed
  exact Option.map_eq_some_iff.mpr ⟨replayed, same, rfl⟩

theorem Shows.reset {trace : Trace F} {app : App F} (shows : Shows limits trace app) :
    Shows limits trace.forget app.reset := by
  obtain ⟨replayed, same, rfl⟩ := shows.replayed
  have mode : replayed.mode = trace.currentMode := replay_mode same
  refine Option.map_eq_some_iff.mpr ⟨App.fresh trace.currentMode, rfl, ?_⟩
  rw [App.reset_eq_fresh, ← mode]
  rfl

/-- An event that the dashboard processes is one more on the trace. -/
theorem Shows.hear {trace : Trace F} {app next : App F} {arrived : Readings × TuiEvent F}
    (shows : Shows limits trace app) (listening : app.isPaused = false)
    (processed : processEvent limits app arrived.1 arrived.2 = some next) :
    Shows limits (trace.hear arrived) next := by
  obtain ⟨replayed, same, rfl⟩ := shows.replayed
  have running : trace.paused = false := listening
  unfold Trace.hear
  rw [if_neg (by simp [running])]
  split
  · rename_i toggles
    rw [toggles] at processed
    cases processed
    have flips : (!trace.paused) = true := congrArg not running
    have toggled := shows.togglePause
    rwa [flips] at toggled
  · rename_i resets
    rw [resets] at processed
    cases processed
    exact shows.reset
  · rename_i stays _
    rw [processEvent_withPaused replayed arrived.1 stays] at processed
    obtain ⟨after, step, rfl⟩ := Option.map_eq_some_iff.mp processed
    refine Option.map_eq_some_iff.mpr ⟨after, ?_, rfl⟩
    show replay limits (App.fresh trace.mode) (trace.heard ++ [arrived]) = some after
    rw [replay_append, same]
    exact step

theorem Shows.drain {events : List (Readings × TuiEvent F)} {trace : Trace F} {app next : App F}
    (shows : Shows limits trace app) (drained : drain limits app events = .running next) :
    Shows limits (events.foldl Trace.hear trace) next := by
  induction events generalizing trace app with
  | nil =>
    cases drained
    exact shows
  | cons arrived rest ih =>
    unfold Tui.drain at drained
    by_cases paused : app.isPaused
    · rw [if_pos paused] at drained
      obtain ⟨replayed, _, rfl⟩ := shows.replayed
      have deaf : trace.hear arrived = trace := if_pos paused
      rw [List.foldl_cons, deaf]
      exact ih shows drained
    · rw [if_neg paused] at drained
      split at drained
      · cases drained
      · rename_i processed
        exact ih (shows.hear (Bool.eq_false_iff.mpr paused) processed) drained

theorem Shows.onePass {pass : Pass F} {trace : Trace F} {app next : App F}
    (shows : Shows limits trace app) (passed : onePass limits app pass = .running next) :
    Shows limits (trace.onePass pass) next := by
  unfold Tui.onePass at passed
  unfold Trace.onePass
  split at passed
  · cases passed
  · split at passed
    · cases passed
    · cases passed
    · cases passed
    · rename_i pressed
      rw [pressed]
      exact shows.togglePause.drain passed
    · rename_i pressed
      rw [pressed]
      exact shows.reset.drain passed
    · rename_i key quits escapes pauses resets pressed
      rw [pressed]
      have silent : trace.press key = trace := by
        unfold Trace.press
        split
        · exact absurd rfl pauses
        · exact absurd rfl resets
        · rfl
      dsimp only
      rw [silent]
      exact shows.drain passed

theorem Shows.eventLoop {passes : List (Pass F)} {trace : Trace F} {app next : App F}
    (shows : Shows limits trace app) (running : eventLoop limits app passes = .running next) :
    Shows limits (passes.foldl Trace.onePass trace) next := by
  induction passes generalizing trace app with
  | nil =>
    cases running
    exact shows
  | cons pass rest ih =>
    unfold Tui.eventLoop at running
    split at running
    · rename_i passed
      exact ih (shows.onePass passed) running
    · rename_i stopped
      exact absurd running (stopped _)

/-- What the dashboard shows between two passes is a replay of the events that arrived
since the last reset while it was not paused, on a dashboard that knows the mode. -/
theorem eventLoop_replays {passes : List (Pass F)} {app : App F}
    (running : eventLoop limits App.new passes = .running app) :
    (Trace.listen passes).shown limits = some app := by
  have initially : Shows limits Trace.start (App.new : App F) := rfl
  exact initially.eventLoop running

end Replays

section Examples

/-- Whole numbers in place of `f64`. -/
instance : F64 Nat where
  ofNat n := n
  ofNanos duration := duration / 10 ^ 9
  positive n := n > 0
  fixed _ n := toString n

/-- Everything at one time. -/
def heardAt (now : Instant) (event : TuiEvent Nat) : Readings × TuiEvent Nat := (fun _ => now, event)

/-- A batch is submitted, the display is paused for a pass, and the batch is derived. -/
def watched : List (Pass Nat) := [
  ⟨false, .ok none, [heardAt 1000000 (.modeInfo "Dual" none true), heardAt 2000000 (.batchSubmitted 1 2 7 8 90 30),
    heardAt 2000000 (.batchIncludedInL1 3 1 2)]⟩,
  ⟨false, .ok (some (.char 'p')), [heardAt 3000000 (.l1BlockProduced 5)]⟩,
  ⟨false, .ok (some (.char 'p')), [heardAt 9000000 (.batchDerived 1 2 7 8), heardAt 9000000 (.l1BlockProduced 4)]⟩]

/-- What the dashboard shows after the three passes. -/
def watchedApp : App Nat :=
  match eventLoop .source App.new watched with
  | .running app => app
  | _ => App.new

theorem watched_replays : (Trace.listen watched).shown .source = some watchedApp := eventLoop_replays rfl

end Examples

end Montana.Tui
