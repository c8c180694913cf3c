import Montana.Tui.App

/-! The event loop of the dashboard, and how it compares with one that forgets nothing. -/

namespace Montana.Tui

open SlidingWindow (last modifyFirst push last_suffix modifyFirst_eq_map modifyFirst_last push_last)

inductive KeyCode where
  | char (c : Char)
  | esc
  | other
  deriving DecidableEq, Repr

/-- What one pass through the loop meets: the global flag, a press or an error of the
terminal, and the events that `try_recv` gives out. -/
structure Pass (F : Type) where
  shutdownRequested : Bool
  terminal : Except String (Option KeyCode)
  events : List (Readings × TuiEvent F)

/-- How the loop returned. After `quit` the other components are asked to stop as well. -/
inductive Exit where
  | shutdown
  | quit
  | failed (message : String)
  deriving DecidableEq, Repr

inductive Outcome (F : Type) where
  | running (app : App F)
  | returned (exit : Exit) (app : App F)
  | panicked

def Outcome.map {F : Type} (view : App F → App F) : Outcome F → Outcome F
  | .running app => .running (view app)
  | .returned exit app => .returned exit (view app)
  | .panicked => .panicked

section EventLoop

variable {F : Type} [F64 F] (limits : Limits)

/-- The events that arrive while the display is paused are lost. -/
def drain (app : App F) : List (Readings × TuiEvent F) → Outcome F
  | [] => .running app
  | (clock, event) :: rest =>
    if app.isPaused then drain app rest
    else match processEvent limits app clock event with
      | none => .panicked
      | some app => drain app rest

/-- One pass through `event_loop`. -/
def onePass (app : App F) (pass : Pass F) : Outcome F :=
  if pass.shutdownRequested then .returned .shutdown app
  else match pass.terminal with
    | .error message => .returned (.failed message) app
    | .ok (some (.char 'q')) | .ok (some .esc) => .returned .quit app
    | .ok (some (.char 'p')) => drain limits app.togglePause pass.events
    | .ok (some (.char 'r')) => drain limits app.reset pass.events
    | .ok _ => drain limits app pass.events

def eventLoop (app : App F) : List (Pass F) → Outcome F
  | [] => .running app
  | pass :: rest =>
    match onePass limits app pass with
    | .running app => eventLoop app rest
    | stopped => stopped

end EventLoop

section Windows

variable {F : Type}

/-- The last entries of each buffer. -/
def App.window (limits : Limits) (self : App F) : App F :=
  { self with
    executionTimes := last limits.executions self.executionTimes
    recentGasUsed := last limits.executions self.recentGasUsed
    executionLogs := last limits.logEntries self.executionLogs
    roundTripLatencies := last limits.samples self.roundTripLatencies
    compressionRatios := last limits.samples self.compressionRatios
    syncLogs := last limits.logEntries self.syncLogs
    blockBuilderLogs := last limits.logEntries self.blockBuilderLogs
    batchLogs := last limits.logEntries self.batchLogs
    derivationLogs := last limits.logEntries self.derivationLogs
    derivationExecutionLogs := last limits.logEntries self.derivationExecutionLogs
    harnessLogs := last limits.logEntries self.harnessLogs
    l1Blocks := last limits.l1Blocks self.l1Blocks }

/-- The L1 blocks are in ascending order, up to the head. -/
structure App.Ascending (app : App F) : Prop where
  distinct : (app.l1Blocks.map (·.number)).Pairwise (· < ·)
  below : ∀ block ∈ app.l1Blocks, block.number ≤ app.l1Head

namespace App

theorem Ascending.new : Ascending (new : App F) := ⟨.nil, nofun⟩

variable (limits : Limits) (self : App F)

/-! One lemma for each method: the window moves with it. -/

@[simp] theorem window_isPaused : (self.window limits).isPaused = self.isPaused := rfl

@[simp] theorem window_harnessMode : (self.window limits).harnessMode = self.harnessMode := rfl

@[simp] theorem window_harnessBlock : (self.window limits).harnessBlock = self.harnessBlock := rfl

@[simp] theorem window_isAfterHarnessInit (blockNumber : Nat) :
    (self.window limits).isAfterHarnessInit blockNumber = self.isAfterHarnessInit blockNumber := rfl

private theorem window_new : (new : App F).window limits = new := by
  simp [window, new]

@[simp] theorem window_reset : (self.window limits).reset = self.reset.window limits := by
  simp [reset, window]

@[simp] theorem window_togglePause :
    (self.window limits).togglePause = self.togglePause.window limits := rfl

@[simp] theorem window_setModeInfo (nodeRole : String) (startBlock : Option Nat) (skipSync : Bool) :
    (self.window limits).setModeInfo nodeRole startBlock skipSync =
      (self.setModeInfo nodeRole startBlock skipSync).window limits := rfl

@[simp] theorem window_updateSyncProgress (currentBlock targetBlock : Nat) (blocksPerSecond : F)
    (eta : Option Duration) :
    (self.window limits).updateSyncProgress currentBlock targetBlock blocksPerSecond eta =
      (self.updateSyncProgress currentBlock targetBlock blocksPerSecond eta).window limits := rfl

@[simp] theorem window_completeSync (blocksSynced : Nat) (durationSecs : F) :
    (self.window limits).completeSync blocksSynced durationSecs =
      (self.completeSync blocksSynced durationSecs).window limits := rfl

@[simp] theorem window_setUnsafeHead (head : Nat) :
    (self.window limits).setUnsafeHead head = (self.setUnsafeHead head).window limits := rfl

@[simp] theorem window_setSafeHead (head : Nat) :
    (self.window limits).setSafeHead head = (self.setSafeHead head).window limits := rfl

@[simp] theorem window_setFinalizedHead (head : Nat) :
    (self.window limits).setFinalizedHead head = (self.setFinalizedHead head).window limits := rfl

@[simp] theorem window_recordTransactionsReceived (txCount : Nat) (now : Instant) :
    (self.window limits).recordTransactionsReceived txCount now =
      (self.recordTransactionsReceived txCount now).window limits := rfl

@[simp] theorem window_recordBatchSubmit (batchNumber : Nat) (now : Instant) :
    (self.window limits).recordBatchSubmit batchNumber now =
      (self.recordBatchSubmit batchNumber now).window limits := rfl

@[simp] theorem window_updateBacklog (blocksFetched lastFetchedBlock : Nat) :
    (self.window limits).updateBacklog blocksFetched lastFetchedBlock =
      (self.updateBacklog blocksFetched lastFetchedBlock).window limits := rfl

@[simp] theorem window_completeHarnessInit (finalBlock : Nat) :
    (self.window limits).completeHarnessInit finalBlock =
      (self.completeHarnessInit finalBlock).window limits := rfl

@[simp] theorem window_startSync [F64 F] (startBlock targetBlock : Nat) (now : Instant) :
    (self.window limits).startSync startBlock targetBlock now =
      (self.startSync startBlock targetBlock now).window limits := rfl

@[simp] theorem window_backlogSize : (self.window limits).backlogSize = self.backlogSize := rfl

@[simp] theorem window_executionRate [F64 F] (now : Instant) :
    (self.window limits).executionRate now = self.executionRate now := rfl

@[simp] theorem window_mgasPerSecond [F64 F] (now : Instant) :
    (self.window limits).mgasPerSecond now = self.mgasPerSecond now := rfl

@[simp] theorem window_logSync (entry : LogEntry) :
    (self.window limits).logSync limits entry = (self.logSync .unbounded entry).window limits := by
  simp [logSync, window, push_last, Limits.unbounded]

@[simp] theorem window_logBlock (entry : LogEntry) :
    (self.window limits).logBlock limits entry = (self.logBlock .unbounded entry).window limits := by
  simp [logBlock, window, push_last, Limits.unbounded]

@[simp] theorem window_logBatch (entry : LogEntry) :
    (self.window limits).logBatch limits entry = (self.logBatch .unbounded entry).window limits := by
  simp [logBatch, window, push_last, Limits.unbounded]

@[simp] theorem window_logDerivation (entry : LogEntry) :
    (self.window limits).logDerivation limits entry =
      (self.logDerivation .unbounded entry).window limits := by
  simp [logDerivation, window, push_last, Limits.unbounded]

@[simp] theorem window_logDerivationExecution (entry : LogEntry) :
    (self.window limits).logDerivationExecution limits entry =
      (self.logDerivationExecution .unbounded entry).window limits := by
  simp [logDerivationExecution, window, push_last, Limits.unbounded]

@[simp] theorem window_logExecution (entry : LogEntry) :
    (self.window limits).logExecution limits entry =
      (self.logExecution .unbounded entry).window limits := by
  simp [logExecution, window, push_last, Limits.unbounded]

@[simp] theorem window_logHarness (entry : LogEntry) :
    (self.window limits).logHarness limits entry = (self.logHarness .unbounded entry).window limits := by
  simp [logHarness, window, push_last, Limits.unbounded]

@[simp] theorem window_recordHarnessBlock (blockNumber txCount : Nat) :
    (self.window limits).recordHarnessBlock limits blockNumber txCount =
      (self.recordHarnessBlock .unbounded blockNumber txCount).window limits :=
  window_logHarness limits { self with harnessBlock := blockNumber } _

@[simp] theorem window_recordCompressionRatio (ratio : F) :
    (self.window limits).recordCompressionRatio limits ratio =
      (self.recordCompressionRatio .unbounded ratio).window limits := by
  simp [recordCompressionRatio, window, push_last, Limits.unbounded]

private theorem window_recordLatency (latencyMs : Nat) :
    (self.window limits).recordLatency limits latencyMs =
      (self.recordLatency .unbounded latencyMs).window limits := by
  simp [recordLatency, window, push_last, Limits.unbounded]

@[simp] theorem window_recordBatchDerived (batchNumber : Nat) (now : Instant) :
    (self.window limits).recordBatchDerived limits batchNumber now =
      (self.recordBatchDerived .unbounded batchNumber now).window limits := by
  have same : (self.window limits).batchSubmitTimes = self.batchSubmitTimes := rfl
  unfold recordBatchDerived
  rw [same]
  cases self.batchSubmitTimes.lookup batchNumber with
  | none => rfl
  | some submitTime =>
    have recorded := window_recordLatency limits
      { self with batchSubmitTimes := self.batchSubmitTimes.erase batchNumber }
      (Duration.asMillis (now - submitTime))
    exact congrArg (fun app : App F => { app with batchesDerived := app.batchesDerived + 1 }) recorded

@[simp] theorem window_recordBlockExecuted (blockNumber executionTimeUs gasUsed : Nat) (clock : Readings) :
    (self.window limits).recordBlockExecuted limits blockNumber executionTimeUs gasUsed clock =
      (self.recordBlockExecuted .unbounded blockNumber executionTimeUs gasUsed clock).window limits := by
  simp [recordBlockExecuted, window, push_last, Limits.unbounded]

@[simp] theorem window_recordL1Block (blockNumber : Nat) :
    (self.window limits).recordL1Block limits blockNumber =
      (self.recordL1Block .unbounded blockNumber).window limits := by
  by_cases fresh : blockNumber > self.l1Head
  · have fresh' : blockNumber > (self.window limits).l1Head := fresh
    simp only [recordL1Block, if_pos fresh, if_pos fresh']
    simp [window, push_last, Limits.unbounded]
  · have old : ¬ blockNumber > (self.window limits).l1Head := fresh
    simp only [recordL1Block, if_neg fresh, if_neg old]

variable {self}

private theorem window_recordBatchInL1Block (ascending : self.Ascending)
    (l1BlockNumber batchNumber blockCount : Nat) :
    (self.window limits).recordBatchInL1Block limits l1BlockNumber batchNumber blockCount =
      (self.recordBatchInL1Block .unbounded l1BlockNumber batchNumber blockCount).window limits := by
  by_cases fresh : l1BlockNumber > self.l1Head
  · have fresh' : l1BlockNumber > (self.window limits).l1Head := fresh
    simp only [recordBatchInL1Block, if_pos fresh, if_pos fresh']
    simp [window, push_last, Limits.unbounded]
  · have old : ¬ l1BlockNumber > (self.window limits).l1Head := fresh
    simp only [recordBatchInL1Block, if_neg fresh, if_neg old]
    simp [window, modifyFirst_last ascending.distinct]

private theorem window_recordBatchDerivationOrigin (ascending : self.Ascending) (batchNumber : Nat) :
    (self.window limits).recordBatchDerivationOrigin batchNumber =
      (self.recordBatchDerivationOrigin batchNumber).window limits := by
  have same : (self.window limits).batchToL1Block = self.batchToL1Block := rfl
  unfold recordBatchDerivationOrigin
  rw [same]
  cases self.batchToL1Block.lookup batchNumber with
  | none => rfl
  | some l1Block => simp [recordDerivationOrigin, window, modifyFirst_last ascending.distinct]

theorem Ascending.of_same {next : App F} (ascending : self.Ascending)
    (blocks : next.l1Blocks = self.l1Blocks) (head : next.l1Head = self.l1Head) : next.Ascending :=
  ⟨blocks ▸ ascending.distinct, blocks ▸ head ▸ ascending.below⟩

/-- A change in place keeps the numbers. -/
theorem Ascending.modifyFirst {next : App F} {sought : Nat} {change : L1Block → L1Block}
    (ascending : self.Ascending)
    (blocks : next.l1Blocks =
      SlidingWindow.modifyFirst (fun block => block.number == sought) change self.l1Blocks)
    (head : next.l1Head = self.l1Head) (keeps : ∀ block, (change block).number = block.number) :
    next.Ascending := by
  rw [modifyFirst_eq_map ascending.distinct] at blocks
  have numbers : next.l1Blocks.map (·.number) = self.l1Blocks.map (·.number) := by
    rw [blocks, List.map_map]
    apply List.map_congr_left
    intro block _
    by_cases found : block.number = sought
    · simp [found, keeps]
    · simp [found]
  constructor
  · exact numbers ▸ ascending.distinct
  · intro block member
    have listed : block.number ∈ next.l1Blocks.map (·.number) := List.mem_map_of_mem member
    rw [numbers] at listed
    obtain ⟨before, earlier, same⟩ := List.mem_map.mp listed
    rw [head, ← same]
    exact ascending.below before earlier

/-- A block above the head becomes the last one and the head. -/
theorem Ascending.concat {next : App F} {block : L1Block} (ascending : self.Ascending)
    (blocks : next.l1Blocks = self.l1Blocks ++ [block]) (head : next.l1Head = block.number)
    (higher : block.number > self.l1Head) : next.Ascending := by
  constructor
  · rw [blocks, List.map_append]
    apply List.pairwise_append.mpr
    refine ⟨ascending.distinct, List.pairwise_singleton _ _, ?_⟩
    intro number member last here
    obtain ⟨before, listed, rfl⟩ := List.mem_map.mp member
    rw [List.mem_singleton.mp here]
    exact Nat.lt_of_le_of_lt (ascending.below before listed) higher
  · intro other member
    rw [blocks] at member
    rw [head]
    rcases List.mem_append.mp member with earlier | last
    · exact Nat.le_of_lt (Nat.lt_of_le_of_lt (ascending.below other earlier) higher)
    · exact Nat.le_of_eq (congrArg L1Block.number (List.mem_singleton.mp last))

theorem Ascending.togglePause (ascending : self.Ascending) : self.togglePause.Ascending :=
  ascending.of_same rfl rfl

theorem Ascending.reset (app : App F) : app.reset.Ascending := ⟨.nil, nofun⟩

theorem Ascending.recordL1Block (blockNumber : Nat) (ascending : self.Ascending) :
    (self.recordL1Block .unbounded blockNumber).Ascending := by
  unfold App.recordL1Block
  split
  · rename_i higher
    exact ascending.concat rfl rfl higher
  · exact ascending

theorem Ascending.recordBatchInL1Block (l1BlockNumber batchNumber blockCount : Nat)
    (ascending : self.Ascending) :
    (self.recordBatchInL1Block .unbounded l1BlockNumber batchNumber blockCount).Ascending := by
  unfold App.recordBatchInL1Block
  dsimp only
  split
  · rename_i higher
    exact ascending.concat rfl rfl higher
  · exact ascending.modifyFirst rfl rfl fun _ => rfl

theorem Ascending.recordBatchDerivationOrigin (batchNumber : Nat) (ascending : self.Ascending) :
    (self.recordBatchDerivationOrigin batchNumber).Ascending := by
  unfold App.recordBatchDerivationOrigin
  split
  · exact ascending.modifyFirst rfl rfl fun _ => rfl
  · exact ascending

theorem recordBatchDerived_l1Blocks (limits : Limits) (batchNumber : Nat) (now : Instant) :
    (self.recordBatchDerived limits batchNumber now).l1Blocks = self.l1Blocks := by
  unfold recordBatchDerived
  cases self.batchSubmitTimes.lookup batchNumber <;> rfl

theorem recordBatchDerived_l1Head (limits : Limits) (batchNumber : Nat) (now : Instant) :
    (self.recordBatchDerived limits batchNumber now).l1Head = self.l1Head := by
  unfold recordBatchDerived
  cases self.batchSubmitTimes.lookup batchNumber <;> rfl

theorem recordBatchDerived_batchToL1Block (limits : Limits) (batchNumber : Nat) (now : Instant) :
    (self.recordBatchDerived limits batchNumber now).batchToL1Block = self.batchToL1Block := by
  unfold recordBatchDerived
  cases self.batchSubmitTimes.lookup batchNumber <;> rfl

theorem Ascending.recordBatchDerived (batchNumber : Nat) (now : Instant) (ascending : self.Ascending) :
    (self.recordBatchDerived .unbounded batchNumber now).Ascending :=
  ascending.of_same (recordBatchDerived_l1Blocks ..) (recordBatchDerived_l1Head ..)

end App

section Runs

variable [F64 F]

/-- The events after which the L1 blocks may be others. -/
def TuiEvent.aboutL1 : TuiEvent F → Bool
  | .l1BlockProduced _ | .batchIncludedInL1 .. | .batchDerived .. | .reset => true
  | _ => false

theorem processEvent_l1 {limits : Limits} {app next : App F} {clock : Readings} {event : TuiEvent F}
    (processed : processEvent limits app clock event = some next) (other : event.aboutL1 = false) :
    next.l1Blocks = app.l1Blocks ∧ next.l1Head = app.l1Head ∧
      next.batchToL1Block = app.batchToL1Block := by
  cases event with
  | l1BlockProduced _ | batchIncludedInL1 _ _ _ | batchDerived _ _ _ _ | reset => cases other
  | blockBuilderInit rpcUrl pollIntervalMs =>
    obtain ⟨displayUrl, _, rfl⟩ := Option.map_eq_some_iff.mp processed
    dsimp only
    split <;> exact ⟨rfl, rfl, rfl⟩
  | syncProgress _ _ _ _ | blockBuilt _ _ _ _ | sequencerInit _ _ _ _ | validatorInit _
  | executionInit _ _ _ | waitingForChain _ =>
    rw [← Option.some.inj processed]
    repeat' split
    all_goals exact ⟨rfl, rfl, rfl⟩
  | _ =>
    cases processed
    exact ⟨rfl, rfl, rfl⟩

theorem App.Ascending.processEvent {app next : App F} {clock : Readings} {event : TuiEvent F}
    (ascending : app.Ascending) (processed : processEvent .unbounded app clock event = some next) :
    next.Ascending := by
  cases event with
  | batchDerived batchNumber blockCount firstBlock lastBlock =>
    cases processed
    have recorded := ascending.recordBatchDerived batchNumber (clock 0)
    have finalized : ((app.recordBatchDerived .unbounded batchNumber (clock 0)).setFinalizedHead
        lastBlock).Ascending := recorded.of_same rfl rfl
    exact (finalized.recordBatchDerivationOrigin batchNumber).of_same rfl rfl
  | l1BlockProduced blockNumber =>
    cases processed
    exact ascending.recordL1Block blockNumber
  | batchIncludedInL1 l1BlockNumber batchNumber blockCount =>
    cases processed
    exact ascending.recordBatchInL1Block l1BlockNumber batchNumber blockCount
  | reset =>
    cases processed
    exact Ascending.reset app
  | _ =>
    obtain ⟨blocks, head, _⟩ := processEvent_l1 processed rfl
    exact ascending.of_same blocks head

/-- What an event does is seen through the window. -/
theorem processEvent_window (limits : Limits) {app : App F} (ascending : app.Ascending)
    (clock : Readings) (event : TuiEvent F) :
    processEvent limits (app.window limits) clock event =
      (processEvent .unbounded app clock event).map (App.window limits) := by
  cases event with
  | batchDerived batchNumber blockCount firstBlock lastBlock =>
    have recorded := ascending.recordBatchDerived batchNumber (clock 0)
    have finalized : ((app.recordBatchDerived .unbounded batchNumber (clock 0)).setFinalizedHead
        lastBlock).Ascending := recorded.of_same rfl rfl
    simp [processEvent, App.window_recordBatchDerivationOrigin limits finalized]
  | batchIncludedInL1 l1BlockNumber batchNumber blockCount =>
    simp [processEvent, App.window_recordBatchInL1Block limits ascending]
  | waitingForChain service =>
    simp only [processEvent, Option.map_some]
    repeat' split
    all_goals simp
  | harnessModeEnabled => rfl
  | blockBuilderInit rpcUrl pollIntervalMs =>
    simp only [processEvent, Option.map_map]
    congr 1
    funext displayUrl
    rw [Function.comp_apply, App.window_logBlock, apply_ite (App.window limits), App.window_logBlock]
    rfl
  | harnessInitProgress currentBlock totalBlocks message =>
    simp only [processEvent, App.window_logHarness]
    rfl
  | _ => simp [processEvent, apply_ite (App.window limits)]

theorem App.Ascending.drain {events : List (Readings × TuiEvent F)} {app next : App F}
    (ascending : app.Ascending) (drained : drain .unbounded app events = .running next) :
    next.Ascending := by
  induction events generalizing app with
  | nil =>
    cases drained
    exact ascending
  | cons arrived rest ih =>
    unfold Tui.drain at drained
    split at drained
    · exact ih ascending drained
    · split at drained
      · cases drained
      · rename_i processed
        exact ih (ascending.processEvent processed) drained

private theorem drain_window (limits : Limits) {app : App F} (ascending : app.Ascending)
    (events : List (Readings × TuiEvent F)) :
    drain limits (app.window limits) events =
      (drain .unbounded app events).map (App.window limits) := by
  induction events generalizing app with
  | nil => rfl
  | cons arrived rest ih =>
    obtain ⟨clock, event⟩ := arrived
    unfold drain
    rw [App.window_isPaused]
    by_cases paused : app.isPaused
    · rw [if_pos paused, if_pos paused]
      exact ih ascending
    · rw [if_neg paused, if_neg paused, processEvent_window limits ascending]
      cases processed : processEvent .unbounded app clock event with
      | none => rfl
      | some next => exact ih (ascending.processEvent processed)

private theorem onePass_window (limits : Limits) {app : App F} (ascending : app.Ascending) (pass : Pass F) :
    onePass limits (app.window limits) pass =
      (onePass .unbounded app pass).map (App.window limits) := by
  unfold onePass
  split
  · rfl
  · split
    · rfl
    · rfl
    · rfl
    · rw [App.window_togglePause]
      exact drain_window limits ascending.togglePause pass.events
    · rw [App.window_reset]
      exact drain_window limits (App.Ascending.reset app) pass.events
    · exact drain_window limits ascending pass.events

theorem App.Ascending.onePass {app next : App F} {pass : Pass F}
    (ascending : app.Ascending) (passed : onePass .unbounded app pass = .running next) :
    next.Ascending := by
  unfold Tui.onePass at passed
  split at passed
  · cases passed
  · split at passed
    · cases passed
    · cases passed
    · cases passed
    · exact ascending.togglePause.drain passed
    · exact (App.Ascending.reset app).drain passed
    · exact ascending.drain passed

private theorem eventLoop_window (limits : Limits) {app : App F} (ascending : app.Ascending)
    (passes : List (Pass F)) :
    eventLoop limits (app.window limits) passes =
      (eventLoop .unbounded app passes).map (App.window limits) := by
  induction passes generalizing app with
  | nil => rfl
  | cons pass rest ih =>
    unfold eventLoop
    rw [onePass_window limits ascending]
    cases passed : onePass .unbounded app pass with
    | running next => exact ih (ascending.onePass passed)
    | returned exit app => rfl
    | panicked => rfl

theorem running_window {limits : Limits} {passes : List (Pass F)} {app : App F}
    (running : eventLoop limits App.new passes = .running app) :
    ∃ whole, eventLoop .unbounded App.new passes = .running whole ∧ app = whole.window limits := by
  have windows := eventLoop_window limits (@App.Ascending.new F) passes
  rw [App.window_new, running] at windows
  cases unbounded : eventLoop .unbounded App.new passes with
  | running whole =>
    rw [unbounded] at windows
    cases windows
    exact ⟨whole, rfl, rfl⟩
  | returned exit whole =>
    rw [unbounded] at windows
    cases windows
  | panicked =>
    rw [unbounded] at windows
    cases windows

/-- The dashboard shows, of everything it was ever told, the last entries of each buffer
and all the rest: whatever keys are pressed, whatever arrives and however the loop ends. -/
theorem shows_last_entries (limits : Limits) (passes : List (Pass F)) :
    eventLoop limits App.new passes =
      (eventLoop .unbounded App.new passes).map (App.window limits) := by
  have windows := eventLoop_window limits (@App.Ascending.new F) passes
  rwa [App.window_new] at windows

end Runs

end Windows

end Montana.Tui
