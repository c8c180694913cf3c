import Montana.Node.SyncStage

/-! The progress of the sync stage, told by what it asked its block producer and what it
was answered. -/

namespace Montana.Lifecycle

/-- A block producer with a record of the tips it gave and of the blocks asked of it. -/
structure Recorded (Producer Block : Type) where
  producer : Producer
  tips : List (Except String Nat) := []
  requests : List (Nat × Except String (Option Block)) := []

namespace Recorded

variable {Producer Block : Type}

instance [BlockProducer Producer Block] : BlockProducer (Recorded Producer Block) Block where
  getChainTip self :=
    match BlockProducer.getChainTip self.producer with
    | (answer, producer) => (answer, { self with producer, tips := self.tips ++ [answer] })
  getBlock self number :=
    match BlockProducer.getBlock self.producer number with
    | (answer, producer) =>
      (answer, { self with producer, requests := self.requests ++ [(number, answer)] })

/-- The request was answered with a block. -/
def Request.obtains (request : Nat × Except String (Option Block)) : Bool :=
  match request.2 with
  | .ok (some _) => true
  | _ => false

/-- The numbers under which blocks were obtained. -/
def obtained (requests : List (Nat × Except String (Option Block))) : List Nat :=
  (requests.filter Request.obtains).map (·.1)

/-- The largest target seen; the stage starts with 0. -/
def largestTip (tips : List (Except String Nat)) : Nat :=
  (tips.map fun answer => answer.toOption.getD 0).foldl max 0

/-- Each request is for the block after the last one obtained. -/
def InTurn (startBlock : Nat) (requests : List (Nat × Except String (Option Block))) : Prop :=
  ∀ before request after, requests = before ++ request :: after →
    request.1 = startBlock + (obtained before).length + 1

private theorem largestTip_concat (tips : List (Except String Nat)) (answer : Except String Nat) :
    largestTip (tips ++ [answer]) = max (largestTip tips) (answer.toOption.getD 0) := by
  simp [largestTip]

theorem InTurn.concat {startBlock : Nat} {requests : List (Nat × Except String (Option Block))}
    {request : Nat × Except String (Option Block)} (inTurn : InTurn startBlock requests)
    (next : request.1 = startBlock + (obtained requests).length + 1) :
    InTurn startBlock (requests ++ [request]) := by
  intro before other after same
  rcases List.eq_nil_or_concat after with rfl | ⟨rest, last, rfl⟩
  · obtain ⟨rfl, one⟩ := List.append_inj' same rfl
    cases one
    exact next
  · rw [List.concat_eq_append, ← List.cons_append, ← List.append_assoc] at same
    exact inTurn before other rest (List.append_inj' same rfl).1

private theorem obtained_concat (requests : List (Nat × Except String (Option Block)))
    (request : Nat × Except String (Option Block)) :
    obtained (requests ++ [request]) =
      if Request.obtains request then obtained requests ++ [request.1] else obtained requests := by
  unfold obtained
  rw [List.filter_append, List.map_append]
  split
  · rename_i taken
    rw [List.filter_cons_of_pos taken]
    rfl
  · rename_i refused
    rw [List.filter_cons_of_neg refused]
    exact List.append_nil _

private theorem getChainTip_eq [BlockProducer Producer Block] {self : Recorded Producer Block}
    {answer : Except String Nat} {producer : Producer}
    (got : BlockProducer.getChainTip self.producer = (answer, producer)) :
    BlockProducer.getChainTip self = (answer, { self with producer, tips := self.tips ++ [answer] }) := by
  simp only [BlockProducer.getChainTip, got]

private theorem getBlock_eq [BlockProducer Producer Block] {self : Recorded Producer Block} {number : Nat}
    {answer : Except String (Option Block)} {producer : Producer}
    (got : BlockProducer.getBlock self.producer number = (answer, producer)) :
    BlockProducer.getBlock self number =
      (answer, { self with producer, requests := self.requests ++ [(number, answer)] }) := by
  simp only [BlockProducer.getBlock, got]

end Recorded

namespace SyncStage

variable {Producer Block : Type} [BlockProducer Producer Block]

/-- The same stage without the record. -/
def forget (self : SyncStage (Recorded Producer Block)) : SyncStage Producer where
  blockProducer := self.blockProducer.producer
  config := self.config
  startBlock := self.startBlock
  currentBlock := self.currentBlock
  targetBlock := self.targetBlock
  lastTipRefresh := self.lastTipRefresh
  blocksSynced := self.blocksSynced
  eventTx := self.eventTx

/-- The ticks of a stage at these times, whatever they return. -/
def run (self : SyncStage Producer) (times : List Nat) : SyncStage Producer :=
  times.foldl (fun stage now => (stage.tick now).2) self

/-- With and without the record the stage does the same. -/
theorem forget_refreshTip (self : SyncStage (Recorded Producer Block)) (now : Nat) :
    self.forget.refreshTip now = ((self.refreshTip now).1, (self.refreshTip now).2.forget) := by
  cases got : BlockProducer.getChainTip self.blockProducer.producer with
  | mk answer producer =>
    have plain : BlockProducer.getChainTip self.forget.blockProducer = (answer, producer) := got
    simp only [refreshTip, plain, Recorded.getChainTip_eq got]
    cases answer <;> rfl

private theorem forget_processBlocks (limit : Nat) (self : SyncStage (Recorded Producer Block)) :
    processBlocks limit self.forget =
      ((processBlocks limit self).1, (processBlocks limit self).2.forget) := by
  induction limit generalizing self with
  | zero => rfl
  | succ limit ih =>
    have synced : self.forget.isSynced = self.isSynced := rfl
    unfold processBlocks
    rw [synced]
    split
    · rfl
    · cases got : BlockProducer.getBlock self.blockProducer.producer (self.currentBlock + 1) with
      | mk answer producer =>
        have plain : BlockProducer.getBlock self.forget.blockProducer (self.forget.currentBlock + 1) =
            (answer, producer) := got
        simp only [plain, Recorded.getBlock_eq got]
        rcases answer with e | _ | block
        · rfl
        · rfl
        · exact ih { self with
            blockProducer := { self.blockProducer with
              producer
              requests := self.blockProducer.requests ++ [(self.currentBlock + 1, .ok (some block))] }
            currentBlock := self.currentBlock + 1
            blocksSynced := self.blocksSynced + 1 }

private theorem forget_refreshIfDue (self : SyncStage (Recorded Producer Block)) (now : Nat) :
    self.forget.refreshIfDue now = ((self.refreshIfDue now).1, (self.refreshIfDue now).2.forget) := by
  have due : self.forget.shouldRefreshTip now = self.shouldRefreshTip now := rfl
  unfold refreshIfDue
  rw [due]
  split
  · exact self.forget_refreshTip now
  · rfl

private theorem forget_tick (self : SyncStage (Recorded Producer Block)) (now : Nat) :
    self.forget.tick now = ((self.tick now).1, (self.tick now).2.forget) := by
  unfold tick
  rw [forget_refreshIfDue]
  cases self.refreshIfDue now with
  | mk result refreshed =>
    cases result with
    | error e => rfl
    | ok =>
      have synced : refreshed.forget.isSynced = refreshed.isSynced := rfl
      simp only [synced]
      split
      · rfl
      · have same := forget_processBlocks refreshed.config.blocksPerTick refreshed
        have limit : refreshed.forget.config = refreshed.config := rfl
        rw [limit, same]
        cases processBlocks refreshed.config.blocksPerTick refreshed with
        | mk result processed => cases result <;> rfl

private theorem forget_initializeFrom (self : SyncStage (Recorded Producer Block)) (startBlock now : Nat) :
    (self.forget.initializeFrom startBlock now).2 = (self.initializeFrom startBlock now).2.forget := by
  have same := forget_refreshTip { self with startBlock, currentBlock := startBlock } now
  have moved : forget { self with startBlock, currentBlock := startBlock } =
      { self.forget with startBlock, currentBlock := startBlock } := rfl
  rw [moved] at same
  unfold initializeFrom
  rw [same]
  cases refreshTip { self with startBlock, currentBlock := startBlock } now with
  | mk result refreshed => cases result <;> rfl

private theorem forget_run (self : SyncStage (Recorded Producer Block)) (times : List Nat) :
    self.forget.run times = (self.run times).forget := by
  unfold run
  induction times generalizing self with
  | nil => rfl
  | cons now rest ih =>
    rw [List.foldl_cons, List.foldl_cons, forget_tick]
    exact ih (self.tick now).2

/-- What a stage has to show for its requests since it was initialized. -/
structure Progressed (startBlock : Nat) (stage : SyncStage (Recorded Producer Block)) : Prop where
  started : stage.startBlock = startBlock
  current : stage.currentBlock = startBlock + stage.blocksSynced
  obtained : Recorded.obtained stage.blockProducer.requests =
    List.range' (startBlock + 1) stage.blocksSynced
  requested : Recorded.InTurn startBlock stage.blockProducer.requests
  target : stage.targetBlock ≤ Recorded.largestTip stage.blockProducer.tips
  bounded : stage.currentBlock ≤
    max startBlock (Recorded.largestTip stage.blockProducer.tips - stage.config.syncThreshold)

section Steps

variable {startBlock : Nat} {self : SyncStage (Recorded Producer Block)}

omit [BlockProducer Producer Block] in
private theorem Progressed.inTurn (progressed : self.Progressed startBlock)
    (answer : Except String (Option Block)) : Recorded.InTurn startBlock
      (self.blockProducer.requests ++ [(self.currentBlock + 1, answer)]) := by
  refine progressed.requested.concat ?_
  rw [progressed.obtained, List.length_range', progressed.current]

theorem Progressed.refreshTip (progressed : self.Progressed startBlock) (now : Nat) :
    (self.refreshTip now).2.Progressed startBlock := by
  obtain ⟨started, current, obtained, requested, target, bounded⟩ := progressed
  cases got : BlockProducer.getChainTip self.blockProducer.producer with
  | mk answer producer =>
    have larger := Recorded.largestTip_concat self.blockProducer.tips answer
    simp only [SyncStage.refreshTip, Recorded.getChainTip_eq got]
    cases answer with
    | error e =>
      refine ⟨started, current, obtained, requested, ?_, ?_⟩
      · simp only [larger]
        omega
      · simp only [larger]
        omega
    | ok tip =>
      refine ⟨started, current, obtained, requested, ?_, ?_⟩
      · simp only [larger]
        exact Nat.le_max_right _ _
      · simp only [larger]
        omega

theorem Progressed.refreshIfDue (progressed : self.Progressed startBlock) (now : Nat) :
    (self.refreshIfDue now).2.Progressed startBlock := by
  unfold SyncStage.refreshIfDue
  split
  · exact progressed.refreshTip now
  · exact progressed

omit [BlockProducer Producer Block] in
/-- An answer without a block is recorded, and nothing else happens. -/
theorem Progressed.refused (progressed : self.Progressed startBlock) {producer : Producer}
    {answer : Except String (Option Block)} (nothing : Recorded.Request.obtains
      (self.currentBlock + 1, answer) = false) : Progressed startBlock { self with
        blockProducer := { self.blockProducer with
          producer
          requests := self.blockProducer.requests ++ [(self.currentBlock + 1, answer)] } } where
  started := progressed.started
  current := progressed.current
  obtained := by
    simp only [Recorded.obtained_concat, nothing, Bool.false_eq_true, if_false]
    exact progressed.obtained
  requested := progressed.inTurn answer
  target := progressed.target
  bounded := progressed.bounded

omit [BlockProducer Producer Block] in
/-- A block is taken while more than the threshold of them are missing. -/
theorem Progressed.processed (progressed : self.Progressed startBlock) (behind : ¬ self.isSynced = true)
    {producer : Producer} {block : Block} : Progressed startBlock { self with
      blockProducer := { self.blockProducer with
        producer
        requests := self.blockProducer.requests ++ [(self.currentBlock + 1, .ok (some block))] }
      currentBlock := self.currentBlock + 1
      blocksSynced := self.blocksSynced + 1 } where
  started := progressed.started
  current := by
    simp only [progressed.current]
    omega
  obtained := by
    have next : self.currentBlock + 1 = startBlock + 1 + self.blocksSynced := by
      rw [progressed.current]
      omega
    simp only [Recorded.obtained_concat, Recorded.Request.obtains, if_true, progressed.obtained, next]
    exact (List.range'_1_concat).symm
  requested := progressed.inTurn _
  target := progressed.target
  bounded := by
    have target := progressed.target
    have missing : self.currentBlock + self.config.syncThreshold < self.targetBlock := by
      simpa [isSynced] using behind
    show self.currentBlock + 1 ≤ max startBlock
      (Recorded.largestTip self.blockProducer.tips - self.config.syncThreshold)
    omega

theorem Progressed.processBlocks (limit : Nat) {self : SyncStage (Recorded Producer Block)}
    (progressed : self.Progressed startBlock) : (processBlocks limit self).2.Progressed startBlock ∧
      self.currentBlock ≤ (SyncStage.processBlocks limit self).2.currentBlock ∧
      (SyncStage.processBlocks limit self).2.currentBlock ≤ self.currentBlock + limit := by
  induction limit generalizing self with
  | zero => exact ⟨progressed, Nat.le_refl _, Nat.le_refl _⟩
  | succ limit ih =>
    unfold SyncStage.processBlocks
    split
    · exact ⟨progressed, Nat.le_refl _, Nat.le_add_right _ _⟩
    · rename_i behind
      cases got : BlockProducer.getBlock self.blockProducer.producer (self.currentBlock + 1) with
      | mk answer producer =>
        simp only [Recorded.getBlock_eq got]
        rcases answer with e | _ | block
        · exact ⟨progressed.refused rfl, Nat.le_refl _, Nat.le_add_right _ _⟩
        · exact ⟨progressed.refused rfl, Nat.le_refl _, Nat.le_add_right _ _⟩
        · obtain ⟨later, onward, limited⟩ := ih (progressed.processed behind)
          exact ⟨later, by simp only [] at onward ⊢; omega, by simp only [] at limited ⊢; omega⟩

/-- What one tick does to the stage, whatever it returns. -/
structure Ticked (before : SyncStage Producer) (result : Except String SyncStatus)
    (after : SyncStage Producer) : Prop where
  config : after.config = before.config
  kept : before.currentBlock ≤ after.currentBlock
  limited : after.currentBlock ≤ before.currentBlock + before.config.blocksPerTick
  complete : result = .ok .complete →
    after.targetBlock - after.currentBlock ≤ after.config.syncThreshold

private theorem refreshTip_config (self : SyncStage Producer) (now : Nat) :
    (self.refreshTip now).2.config = self.config := by
  unfold SyncStage.refreshTip
  split <;> rfl

private theorem refreshIfDue_config (self : SyncStage Producer) (now : Nat) :
    (self.refreshIfDue now).2.config = self.config := by
  unfold SyncStage.refreshIfDue
  split
  · exact self.refreshTip_config now
  · rfl

private theorem processBlocks_config (limit : Nat) (self : SyncStage Producer) :
    (SyncStage.processBlocks limit self).2.config = self.config := by
  induction limit generalizing self with
  | zero => rfl
  | succ limit ih =>
    unfold SyncStage.processBlocks
    split
    · rfl
    · simp only []
      split
      · rfl
      · rfl
      · exact ih _

/-- A tick takes the stage a little further, or leaves it where it is. -/
theorem Progressed.tick (progressed : self.Progressed startBlock) (now : Nat) :
    (self.tick now).2.Progressed startBlock ∧ Ticked self (self.tick now).1 (self.tick now).2 := by
  have refreshes := progressed.refreshIfDue now
  have stands := self.refreshIfDue_currentBlock now
  have keeps := self.refreshIfDue_config now
  unfold SyncStage.tick
  cases answer : self.refreshIfDue now with
  | mk result refreshed =>
    rw [answer] at refreshes stands keeps
    simp only [] at refreshes stands keeps
    cases result with
    | error e => exact ⟨refreshes, keeps, by simp only [stands]; omega, by simp only [stands]; omega, nofun⟩
    | ok =>
      simp only []
      by_cases synced : refreshed.isSynced = true
      · rw [if_pos synced]
        have near : refreshed.targetBlock - refreshed.currentBlock ≤ refreshed.config.syncThreshold := by
          simp only [isSynced, decide_eq_true_eq] at synced
          omega
        exact ⟨{ refreshes with }, keeps, Nat.le_of_eq stands.symm,
          Nat.le_trans (Nat.le_of_eq stands) (Nat.le_add_right _ _), fun _ => near⟩
      · rw [if_neg synced]
        obtain ⟨later, onward, limited⟩ := refreshes.processBlocks refreshed.config.blocksPerTick
        have config := processBlocks_config refreshed.config.blocksPerTick refreshed
        rw [stands] at onward limited
        cases processed : SyncStage.processBlocks refreshed.config.blocksPerTick refreshed with
        | mk result after =>
          rw [processed] at later onward limited config
          rw [keeps] at limited
          cases result with
          | error e => exact ⟨later, config.trans keeps, onward, limited, nofun⟩
          | ok => exact ⟨{ later with }, config.trans keeps, onward, limited, nofun⟩

theorem Progressed.run (progressed : self.Progressed startBlock) (times : List Nat) :
    (self.run times).Progressed startBlock ∧ (self.run times).config = self.config := by
  unfold SyncStage.run
  induction times generalizing self with
  | nil => exact ⟨progressed, rfl⟩
  | cons now rest ih =>
    obtain ⟨ticked, same⟩ := progressed.tick now
    obtain ⟨later, kept⟩ := ih ticked
    exact ⟨later, kept.trans same.config⟩

/-- A stage as its constructors make it, with a record of its block producer. -/
def watched (producer : Producer) (config : SyncConfig) (created : Nat)
    (eventTx : Option (List SyncEvent)) : SyncStage (Recorded Producer Block) :=
  { new { producer } config created with eventTx }

/-- Initializing sets the start block, whether or not the chain tip is told. -/
theorem watched_progressed (producer : Producer) (config : SyncConfig) (created : Nat)
    (eventTx : Option (List SyncEvent)) (startBlock now : Nat) :
    ((watched producer config created eventTx : SyncStage (Recorded Producer Block)).initializeFrom
      startBlock now).2.Progressed startBlock ∧
    ((watched producer config created eventTx : SyncStage (Recorded Producer Block)).initializeFrom
      startBlock now).2.config = config := by
  let entered : SyncStage (Recorded Producer Block) :=
    { watched producer config created eventTx with startBlock, currentBlock := startBlock }
  have nothing : Recorded.InTurn startBlock entered.blockProducer.requests := by
    intro before request after none
    exact absurd none.symm (List.append_ne_nil_of_right_ne_nil before (List.cons_ne_nil _ _))
  have progressed : entered.Progressed startBlock :=
    ⟨rfl, rfl, rfl, nothing, Nat.zero_le _, Nat.le_max_left _ _⟩
  have refreshed := progressed.refreshTip now
  have same := entered.refreshTip_config now
  unfold initializeFrom
  cases answer : SyncStage.refreshTip entered now with
  | mk result after =>
    rw [answer] at refreshed same
    cases result with
    | error e => exact ⟨refreshed, same⟩
    | ok => exact ⟨{ refreshed with }, same⟩

/-- From its initialization on, a stage obtains the blocks after its start block one by one,
in turn and not beyond the threshold below the largest target seen; a tick that fails keeps
what it has, and only a stage near its target is complete. The stage is new and initialized
once: a second initialization would keep its count of synced blocks. -/
theorem sync_progresses (producer : Producer) (config : SyncConfig) (created : Nat)
    (eventTx : Option (List SyncEvent)) (startBlock initialized : Nat) (times : List Nat) :
    ∃ stage : SyncStage (Recorded Producer Block),
      stage = ((watched producer config created eventTx).initializeFrom startBlock initialized).2.run times ∧
      ({ new producer config created with eventTx }.initializeFrom startBlock initialized).2.run times =
        stage.forget ∧
      stage.Progressed startBlock ∧ stage.config = config ∧
      ∀ now, Ticked stage (stage.tick now).1 (stage.tick now).2 := by
  obtain ⟨progressed, same⟩ := watched_progressed producer config created eventTx startBlock
    initialized
  obtain ⟨later, kept⟩ := progressed.run times
  refine ⟨_, rfl, ?_, later, kept.trans same, fun now => (later.tick now).2⟩
  rw [← forget_run, ← forget_initializeFrom]
  rfl

end Steps

end SyncStage

end Montana.Lifecycle
