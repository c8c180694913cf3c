import Montana.Adapters.Telemetry
import Montana.Node.L1Pipeline

/-! What the dashboard is told by the callbacks of the two roles at the ends of the inbox,
whatever the order in which the roles are scheduled. -/

namespace Montana.Node

open Adapters Anvil Outstanding Roles Vm
open Relation (ReflTransGen)
open BlockTxCountStore (numbered)

/-- The blocks are numbered one after the other, with 64-bit numbers. -/
def Consecutive [BlockResponse Block Tx] (blocks : List Block) : Prop :=
  ∃ first, blocks.map BlockResponse.number = List.range' first blocks.length ∧
    first + blocks.length ≤ 2 ^ 64

section Blocks

variable {Block Tx : Type} [BlockResponse Block Tx]

theorem Consecutive.of_infix {blocks part : List Block} (consecutive : Consecutive blocks)
    (inside : part <:+: blocks) : Consecutive part := by
  obtain ⟨first, numbers, bound⟩ := consecutive
  obtain ⟨before, after, rfl⟩ := inside
  simp only [List.map_append, List.length_append] at numbers bound
  obtain ⟨count, _, front, _⟩ := List.range'_eq_append_iff.mp numbers.symm
  obtain ⟨skipped, _, earlier, here⟩ := List.range'_eq_append_iff.mp front.symm
  have length := congrArg List.length earlier
  have inner := congrArg List.length here
  simp only [List.length_map, List.length_range'] at length inner
  refine ⟨first + skipped, ?_, by omega⟩
  rw [here, inner, Nat.mul_one]

theorem Consecutive.nodup {blocks : List Block} (consecutive : Consecutive blocks) :
    (blocks.map BlockResponse.number).Nodup := by
  obtain ⟨first, numbers, _⟩ := consecutive
  rw [numbers]
  exact List.nodup_range'

/-- `record_batch` counts from the first block on, which gives each block its own number. -/
theorem Consecutive.numbered {blocks : List Block} (consecutive : Consecutive blocks) :
    numbered ((blocks.head?.map BlockResponse.number).getD 0)
      (blocks.map fun block => (BlockResponse.transactions block).length) = blocks.map telling := by
  obtain ⟨first, numbers, bound⟩ := consecutive
  have head : ∀ index (inside : index < blocks.length), BlockResponse.number blocks[index] = first + index := by
    intro index inside
    have number := congrArg (·[index]?) numbers
    simp only [List.getElem?_map, List.getElem?_eq_getElem inside, Option.map_some] at number
    rw [List.getElem?_eq_getElem (by simpa using inside), List.getElem_range'] at number
    simpa using Option.some.inj number
  apply List.ext_getElem
  · simp [BlockTxCountStore.numbered]
  · intro index here inside
    have inside : index < blocks.length := by simpa using inside
    have start : (blocks.head?.map BlockResponse.number).getD 0 = first := by
      have some : 0 < blocks.length := by omega
      rw [List.head?_eq_getElem?, List.getElem?_eq_getElem some]
      simpa using head 0 some
    simp [BlockTxCountStore.numbered, telling, start, head index inside]
    omega

private theorem Consecutive.le_last {blocks : List Block} (consecutive : Consecutive blocks) :
    ∀ block ∈ blocks, BlockResponse.number block ≤ (blocks.getLast?.map BlockResponse.number).getD 0 := by
  obtain ⟨first, numbers, _⟩ := consecutive
  intro block member
  have some : blocks.length ≠ 0 := by
    intro none
    rw [List.length_eq_zero_iff.mp none] at member
    cases member
  have listed : BlockResponse.number block ∈ List.range' first blocks.length :=
    numbers ▸ List.mem_map_of_mem member
  rw [← List.getLast?_map, numbers, List.getLast?_range', if_neg some]
  have below := (List.mem_range'_1.mp listed).2
  simp only [Option.getD_some]
  omega

theorem Consecutive.ascending {blocks : List Block} (consecutive : Consecutive blocks) :
    blocks.Pairwise fun earlier later => BlockResponse.number earlier < BlockResponse.number later := by
  obtain ⟨first, numbers, _⟩ := consecutive
  rw [← List.pairwise_map, numbers]
  exact List.pairwise_lt_range'

end Blocks

namespace L1Pipeline

variable {Block Exec Result SequencerStore ValidatorStore Tx F : Type}
variable [BlockResponse Block Tx] [BlockJson Block]

/-- A call of the batch callback tells of the blocks of this batch. -/
structure Tells {Sink : Type} (sequencer : Sequencer Block Sink SequencerStore) (call : BatchSubmittedCall)
    (batch : CompressedBatch) : Prop where
  consecutive : Consecutive (sequencer.blocksOf batch.batchNumber)
  header : BatchHeader.ofCall call = .ofBatch batch
  counts : numbered call.firstBlock call.blockTxCounts = (sequencer.blocksOf batch.batchNumber).map telling
  last : call.lastBlock = ((sequencer.blocksOf batch.batchNumber).getLast?.map BlockResponse.number).getD 0

section Calls

variable {Sink : Type} {sequencer : Sequencer Block Sink SequencerStore}

private theorem tells_of_announces {call : BatchSubmittedCall} {entry} (ledger : sequencer.Ledger)
    (announces : sequencer.Announces call entry)
    (consecutive : Consecutive (sequencer.blocksOf entry.1.batchNumber)) : Tells sequencer call entry.1 := by
  obtain ⟨prepared, l1BlockNumber, ⟨worker, spawned, success⟩, same, rfl⟩ := announces
  have blocks := ledger.cut.blocksOf_worker spawned
  have shaped := ledger.encoded.shaped worker spawned
  obtain ⟨batchData, compressedData, _, _, rfl⟩ := Sequencer.prepareBatchSync_ok success
  rw [← same] at consecutive ⊢
  have contained : sequencer.blocksOf worker.batchNumber = worker.blocks := blocks
  simp only [contained] at consecutive
  constructor
  · simp only [contained]
    exact consecutive
  · rfl
  · simp only [contained, Sequencer.callOf]
    rw [shaped]
    exact consecutive.numbered
  · simp only [contained, Sequencer.callOf]
    rw [shaped]
    rfl

omit [BlockJson Block] in
theorem Tells.within {call : BatchSubmittedCall} {batch : CompressedBatch} (tells : Tells sequencer call batch) :
    ∀ entry ∈ numbered call.firstBlock call.blockTxCounts, entry.1 ≤ call.lastBlock := by
  obtain ⟨consecutive, _, counts, last⟩ := tells
  intro entry counted
  rw [counts] at counted
  obtain ⟨block, member, rfl⟩ := List.mem_map.mp counted
  rw [last]
  exact consecutive.le_last block member

/-- What every call says, all along the submissions. -/
theorem announced_tells (orderly : sequencer.Orderly) (clean : sequencer.faults = [])
    (announced : sequencer.Announced) (consecutive : Consecutive sequencer.sent) :
    List.Forall₂ (fun call entry => Tells sequencer call entry.1) sequencer.batchCalls sequencer.submissions := by
  have ordered := orderly.ordered clean
  have inside : ∀ entry ∈ sequencer.submissions, Consecutive (sequencer.blocksOf entry.1.batchNumber) := by
    intro entry member
    apply consecutive.of_infix
    refine List.IsInfix.trans ?_ (submittedBlocks_isPrefix orderly clean).isInfix
    have listed : entry.1.batchNumber ∈ sequencer.submittedNumbers := by
      rw [← ordered.submissions_all]
      exact List.mem_map_of_mem member
    obtain ⟨before, after, split⟩ := List.append_of_mem listed
    rw [Sequencer.submittedBlocks, split, List.flatMap_append, List.flatMap_cons]
    exact ⟨before.flatMap sequencer.blocksOf, after.flatMap sequencer.blocksOf, by simp⟩
  have announces := announced.calls
  generalize sequencer.batchCalls = calls, sequencer.submissions = submissions at announces inside
  induction announces with
  | nil => exact .nil
  | cons first _ ih =>
    refine .cons ?_ (ih fun entry member => inside entry (List.mem_cons_of_mem _ member))
    exact tells_of_announces orderly.ledger first (inside _ List.mem_cons_self)

/-- The calls recorded every block submitted, with its number and the number of its transactions. -/
theorem recorded_submitted (orderly : sequencer.Orderly) (clean : sequencer.faults = [])
    (announced : sequencer.Announced) (consecutive : Consecutive sequencer.sent) :
    recorded sequencer.batchCalls = sequencer.submittedBlocks.map telling := by
  have tells := announced_tells orderly clean announced consecutive
  rw [Sequencer.submittedBlocks, ← (orderly.ordered clean).submissions_all]
  generalize sequencer.batchCalls = calls, sequencer.submissions = submissions at tells
  induction tells with
  | nil => rfl
  | cons first _ ih =>
    rw [recorded, List.flatMap_cons, List.map_cons, List.flatMap_cons, List.map_append, ← ih, first.counts]
    rfl

private theorem distinct_submitted (orderly : sequencer.Orderly) (clean : sequencer.faults = [])
    (announced : sequencer.Announced) (consecutive : Consecutive sequencer.sent) :
    Distinct sequencer.batchCalls := by
  have tells := announced_tells orderly clean announced consecutive
  constructor
  · rw [recorded_submitted orderly clean announced consecutive, List.map_map]
    exact (consecutive.of_infix (submittedBlocks_isPrefix orderly clean).isInfix).nodup
  · have within := tells.imp fun call entry told => And.intro told.within told
    exact ((List.forall₂_and_left _ _).mp within).1

theorem headers_submitted (orderly : sequencer.Orderly) (clean : sequencer.faults = [])
    (announced : sequencer.Announced) (consecutive : Consecutive sequencer.sent) :
    sequencer.batchCalls.map BatchHeader.ofCall =
      sequencer.submissions.map fun entry => BatchHeader.ofBatch entry.1 := by
  have tells := announced_tells orderly clean announced consecutive
  have headers : List.Forall₂ Eq (sequencer.batchCalls.map BatchHeader.ofCall)
      (sequencer.submissions.map fun entry => BatchHeader.ofBatch entry.1) := by
    rw [List.forall₂_map_left_iff, List.forall₂_map_right_iff]
    exact tells.imp fun call entry told => told.header
  rwa [List.forall₂_eq_eq_eq] at headers

/-- The validator's calls follow the sequencer's. -/
theorem derivable_calls [LawfulBlockJson Block] {Source : Type}
    {validator : Validator Block Source Exec Result ValidatorStore} (derives : Derives sequencer validator)
    (orderly : sequencer.Orderly) (clean : sequencer.faults = []) (roundtrips : sequencer.compressor.Roundtrips)
    (announced : sequencer.Announced) (reported : validator.Reported) (consecutive : Consecutive sequencer.sent) :
    Derivable sequencer.batchCalls validator.derivationCalls := by
  constructor
  · have executed := (derives.executed_submitted orderly clean roundtrips).map telling
    rw [List.map_map] at executed
    rw [reported.blocks, recorded_submitted orderly clean announced consecutive]
    exact executed
  · rw [headers_submitted orderly clean announced consecutive]
    have batches := derives.batches.map BatchHeader.ofBatch
    rw [List.map_map, List.map_map] at batches
    exact reported.batches.trans batches.sublist

end Calls

section Runs

variable [CheckpointStore SequencerStore] [Executor Exec Block Result] [CheckpointStore ValidatorStore]

/-- A system whose callbacks report to the dashboard. -/
structure Observed (Block Exec Result SequencerStore ValidatorStore F : Type) where
  system : L1Pipeline Block Exec Result SequencerStore ValidatorStore
  telemetry : Telemetry F

/-- The roles take turns, and each of them calls its callback where it is. -/
def Observed.step (measured : Nat → Nat)
    (self : Observed Block Exec Result SequencerStore ValidatorStore F) (input : Input Block) :
    Observed Block Exec Result SequencerStore ValidatorStore F :=
  let system := self.system.step input
  { system
    telemetry := self.telemetry.hear measured
      (system.sequencer.batchCalls.drop self.system.sequencer.batchCalls.length)
      (system.validator.derivationCalls.drop self.system.validator.derivationCalls.length) }

def Observed.run (measured : Nat → Nat)
    (self : Observed Block Exec Result SequencerStore ValidatorStore F) (inputs : List (Input Block)) :
    Observed Block Exec Result SequencerStore ValidatorStore F :=
  inputs.foldl (Observed.step measured) self

/-- The callbacks change nothing that the roles do. -/
theorem Observed.run_system (measured : Nat → Nat) (inputs : List (Input Block))
    (self : Observed Block Exec Result SequencerStore ValidatorStore F) :
    (self.run measured inputs).system = self.system.run inputs := by
  induction inputs generalizing self with
  | nil => rfl
  | cons input rest ih => exact ih (self.step measured input)

/-- The telemetry is that of a system whose roles agree. -/
structure Watched (observed : Observed Block Exec Result SequencerStore ValidatorStore F) : Prop where
  linked : observed.system.Linked
  announced : observed.system.sequencer.faults = [] → observed.system.sequencer.Announced
  reported : observed.system.validator.Reported
  tracks : Regular observed.system.sequencer → Consecutive observed.system.sequencer.sent →
    Tracks observed.system.sequencer.batchCalls observed.system.validator.derivationCalls observed.telemetry

variable [LawfulBlockJson Block]

omit [Executor Exec Block Result] [CheckpointStore ValidatorStore] in
theorem Watched.derivable {self : Observed Block Exec Result SequencerStore ValidatorStore F}
    (watched : Watched self) (regular : Regular self.system.sequencer)
    (consecutive : Consecutive self.system.sequencer.sent) :
    Derivable self.system.sequencer.batchCalls self.system.validator.derivationCalls :=
  derivable_calls (watched.linked.derives regular) watched.linked.submits.orderly regular.clean
    watched.linked.roundtrips (watched.announced regular.clean) watched.reported consecutive

omit [Executor Exec Block Result] [CheckpointStore ValidatorStore] in
/-- What the telemetry heard of a step is what the step added to the calls. -/
theorem Watched.hear {self : Observed Block Exec Result SequencerStore ValidatorStore F}
    {next : L1Pipeline Block Exec Result SequencerStore ValidatorStore} (measured : Nat → Nat)
    (watched : Watched self) (linked : next.Linked)
    (announced : next.sequencer.faults = [] → next.sequencer.Announced)
    (reported : next.validator.Reported) (before : Regular next.sequencer → Regular self.system.sequencer)
    (sent : self.system.sequencer.sent <+: next.sequencer.sent)
    (batches : self.system.sequencer.batchCalls <+: next.sequencer.batchCalls)
    (derivation : self.system.validator.derivationCalls <+: next.validator.derivationCalls) :
    Watched ⟨next, self.telemetry.hear measured
      (next.sequencer.batchCalls.drop self.system.sequencer.batchCalls.length)
      (next.validator.derivationCalls.drop self.system.validator.derivationCalls.length)⟩ := by
  refine ⟨linked, announced, reported, fun regular consecutive => ?_⟩
  have earlier := consecutive.of_infix sent.isInfix
  have derivable := derivable_calls (linked.derives regular) linked.submits.orderly regular.clean
    linked.roundtrips (announced regular.clean) reported consecutive
  have distinct := distinct_submitted linked.submits.orderly regular.clean (announced regular.clean) consecutive
  have tracks := watched.tracks (before regular) earlier
  have derivableBefore := watched.derivable (before regular) earlier
  obtain ⟨more, batches⟩ := batches
  obtain ⟨later, derivation⟩ := derivation
  dsimp only
  rw [← batches, ← derivation] at derivable ⊢
  rw [← batches] at distinct
  rw [List.drop_left, List.drop_left]
  exact tracks.hear measured distinct derivableBefore derivable

omit [Executor Exec Block Result] [CheckpointStore ValidatorStore] [LawfulBlockJson Block] in
private theorem announced_steps {self next : Sequencer Block AnvilBatchSink SequencerStore}
    (submits : Submits self)
    (announced : self.faults = [] → self.Announced) (steps : Sequencer.Steps self next) :
    next.faults = [] → next.Announced := by
  refine (Runs.invariant_steps (fun reached : Sequencer Block AnvilBatchSink SequencerStore =>
    Submits reached ∧ (reached.faults = [] → reached.Announced)) ?_ steps ⟨submits, announced⟩).2
  intro before after step ⟨submits, announced⟩
  refine ⟨submits.step step, fun clean => ?_⟩
  have earlier := Sequencer.faults_mono step clean
  exact (announced earlier).step step submits.orderly.ledger.encoded (submits.orderly.ordered earlier) clean

omit [CheckpointStore SequencerStore] [LawfulBlockJson Block] in
private theorem reported_steps {self next : Validator Block AnvilBatchSource Exec Result ValidatorStore}
    (steps : ReflTransGen Validator.Step self next) (reported : self.Reported) :
    next.Reported ∧ self.derivationCalls <+: next.derivationCalls := by
  induction steps with
  | refl => exact ⟨reported, List.prefix_rfl⟩
  | tail _ last ih =>
    obtain ⟨reported, grown⟩ := ih
    exact ⟨reported.step last, grown.trans (Validator.step_derivationCalls last)⟩

theorem Watched.step {self : Observed Block Exec Result SequencerStore ValidatorStore F} (measured : Nat → Nat)
    (watched : Watched self) (input : Input Block) (lifetime : input.restarts = false)
    (foreign : input.Foreign self.system.sequencer.batchSink.batchInbox) : Watched (self.step measured input) := by
  have linked := (watched.linked.step input lifetime foreign).1
  cases input with
  | sequencer input =>
    have steps := Sequencer.step_steps self.system.sequencer input
      (fun checkpoint same => by rw [same] at lifetime; cases lifetime)
    obtain ⟨batches, sent⟩ := Sequencer.steps_grow steps
    have announced := announced_steps watched.linked.submits watched.announced steps
    exact watched.hear measured linked announced watched.reported (fun regular => regular.of_steps steps) sent
      batches List.prefix_rfl
  | validator input =>
    have steps := Validator.step_steps self.system.reader input
      (fun checkpoint same => by rw [same] at lifetime; cases lifetime)
    have looking : self.system.reader.Reported :=
      ⟨watched.reported.attached, watched.reported.blocks, watched.reported.batches⟩
    obtain ⟨reported, derivation⟩ := reported_steps steps looking
    refine watched.hear measured linked ?_ reported ?_ List.prefix_rfl List.prefix_rfl derivation
    · intro clean
      exact (watched.announced clean).same rfl rfl rfl (List.Subset.refl _)
    · intro regular
      exact ⟨regular.clean, regular.bounded⟩
  | network schedule =>
    refine watched.hear measured linked ?_ watched.reported ?_ List.prefix_rfl List.prefix_rfl List.prefix_rfl
    · intro clean
      exact (watched.announced clean).same rfl rfl rfl (List.Subset.refl _)
    · intro regular
      exact ⟨regular.clean, regular.bounded⟩

/-- Both roles are new and have their callbacks, and nothing was told yet. -/
structure Observed.Opened (observed : Observed Block Exec Result SequencerStore ValidatorStore F) : Prop where
  system : observed.system.Opened
  batchCallback : observed.system.sequencer.batchCallback = some []
  derivationCallback : observed.system.validator.derivationCallback = some []
  telemetry : observed.telemetry = .new

omit [Executor Exec Block Result] [LawfulBlockJson Block] in
theorem Observed.Opened.watched {self : Observed Block Exec Result SequencerStore ValidatorStore F}
    (opened : self.Opened) (roundtrips : self.system.sequencer.compressor.Roundtrips) : Watched self := by
  obtain ⟨system, batchCallback, derivationCallback, telemetry⟩ := opened
  obtain ⟨_, _, _, _, _, _, _, _, _, submissions, _, _⟩ := system.sequencer.start
  obtain ⟨executions, derivations, _⟩ := system.validator.start
  have batches : self.system.sequencer.batchCalls = [] := by
    rw [Sequencer.batchCalls, batchCallback]
    rfl
  have derivation : self.system.validator.derivationCalls = [] := by
    rw [Validator.derivationCalls, derivationCallback]
    rfl
  refine ⟨system.linked roundtrips, fun _ => ⟨?_, ?_⟩, ⟨?_, ?_, ?_⟩, fun _ _ => ?_⟩
  · rw [batchCallback]
    rfl
  · rw [batches, submissions]
    exact .nil
  · rw [derivationCallback]
    rfl
  · rw [derivation, executions]
    rfl
  · rw [derivation]
    exact List.nil_sublist _
  · rw [batches, derivation, telemetry]
    exact tracks_new

theorem Observed.Opened.watched_run {start : Observed Block Exec Result SequencerStore ValidatorStore F}
    (opened : start.Opened) (roundtrips : start.system.sequencer.compressor.Roundtrips) (measured : Nat → Nat)
    (inputs : List (Input Block)) (lifetime : ∀ input ∈ inputs, input.restarts = false)
    (foreign : ∀ input ∈ inputs, input.Foreign start.system.sequencer.batchSink.batchInbox) :
    Watched (start.run measured inputs) := by
  suffices Watched (start.run measured inputs) ∧
      (start.run measured inputs).system.sequencer.batchSink.batchInbox =
        start.system.sequencer.batchSink.batchInbox from this.1
  refine Runs.invariant_run (fun reached : Observed Block Exec Result SequencerStore ValidatorStore F =>
    Watched reached ∧ reached.system.sequencer.batchSink.batchInbox =
      start.system.sequencer.batchSink.batchInbox) inputs ?_ ⟨opened.watched roundtrips, rfl⟩
  intro reached input arrives ⟨watched, inbox⟩
  have outside : input.Foreign reached.system.sequencer.batchSink.batchInbox := by
    rw [inbox]
    exact foreign input arrives
  exact ⟨watched.step measured input (lifetime input arrives) outside,
    (watched.linked.step input (lifetime input arrives) outside).2.trans inbox⟩

/-- The dashboard is told of every block that the validator executes, in their order and each
with the number of its own transactions, which the callback looks up: however the roles are
scheduled, the store has just the blocks that were submitted and not executed yet. -/
theorem telemetry_counts {start : Observed Block Exec Result SequencerStore ValidatorStore F}
    (opened : start.Opened) (roundtrips : start.system.sequencer.compressor.Roundtrips) (measured : Nat → Nat)
    (inputs : List (Input Block)) (lifetime : ∀ input ∈ inputs, input.restarts = false)
    (foreign : ∀ input ∈ inputs, input.Foreign start.system.sequencer.batchSink.batchInbox)
    (regular : Regular (start.run measured inputs).system.sequencer)
    (consecutive : Consecutive (start.run measured inputs).system.sequencer.sent) :
    (start.run measured inputs).telemetry.sent.filterMap blockReport =
        (start.run measured inputs).system.validator.executions.map (fun execution => telling execution.block) ∧
      Holds (start.run measured inputs).telemetry.txCountStore.txCounts
        (((start.run measured inputs).system.sequencer.submittedBlocks.drop
          (start.run measured inputs).system.validator.executions.length).map telling) := by
  have watched := opened.watched_run roundtrips measured inputs lifetime foreign
  have tracks := watched.tracks regular consecutive
  have blocks := watched.reported.blocks
  have reached : progress (start.run measured inputs).system.validator.derivationCalls =
      (start.run measured inputs).system.validator.executions.length := by
    rw [progress, blocks, List.length_map]
  refine ⟨tracks.blocks.trans blocks, ?_⟩
  have waiting := tracks.waiting
  rw [recorded_submitted watched.linked.submits.orderly regular.clean (watched.announced regular.clean)
    consecutive, reached, ← List.map_drop] at waiting
  exact waiting

end Runs

section Examples

open Reference

/-- A block with as many transactions as its number says. -/
structure BusyBlock where
  number : UInt8
  deriving DecidableEq, Repr

instance : BlockResponse BusyBlock Unit where
  number block := block.number.toNat
  timestamp block := block.number.toNat
  gasUsed _ := 0
  transactions block := List.replicate block.number.toNat ()

instance : BlockJson BusyBlock where
  blockToVec block := .ok [block.number]
  toBytes batch := .ok (batch.blocks.map (·.number))
  fromBytes bytes := .ok ⟨bytes.map BusyBlock.mk⟩

instance : LawfulBlockJson BusyBlock where
  roundtrip batch bytes written := by
    cases written
    cases batch with
    | mk blocks => simp [BlockJson.fromBytes, Function.comp_def]

/-- Both roles at the two ends of the inbox at address 1, with their callbacks. -/
def busyRoles : Observed BusyBlock (PersistentExecutor Nat BusyBlock) Unit Files Files Nat where
  system := {
    sequencer := (Sequencer.startingFrom .fresh sinkAt1 noop { maxBlocksPerBatch := 1, minBatchSize := 1 }
      (some "checkpoint") { queue := [] } ⟨[]⟩ 0).withBatchCallback
    validator := (Validator.startingFrom .fresh (.new (.fresh []) 1) noop (some "checkpoint")
      { state := 0, execute := fun executed _ => .ok (executed + 1) } ⟨[]⟩).withDerivationCallback }
  telemetry := .new

theorem busyRoles_opened : busyRoles.Opened :=
  ⟨⟨.withBatchCallback (.startingFrom rfl), .withDerivationCallback (.startingFrom rfl), rfl, rfl, rfl,
    ⟨rfl, rfl, rfl, nofun⟩⟩, rfl, rfl, rfl⟩

/-- The validator looks at L1 after the first of two batches; a third one is not looked for. -/
def busyInputs : List (Input BusyBlock) :=
  [.sequencer (.environment (.blockSent ⟨7⟩)), .sequencer (.tick [] 0),
    .sequencer (.environment (.workerDone 0 none)), .sequencer (.tick [] 0), .validator .tick,
    .sequencer (.environment (.blockSent ⟨8⟩)), .sequencer (.tick [] 0),
    .sequencer (.environment (.workerDone 0 none)), .sequencer (.tick [] 0), .validator .tick,
    .sequencer (.environment (.blockSent ⟨9⟩)), .sequencer (.tick [] 0),
    .sequencer (.environment (.workerDone 0 none)), .sequencer (.tick [] 0)]

def busy : Observed BusyBlock (PersistentExecutor Nat BusyBlock) Unit Files Files Nat :=
  busyRoles.run (fun _ => 3) busyInputs

theorem busyInputs_foreign : ∀ input ∈ busyInputs, input.Foreign 1 := by
  simp [busyInputs, Input.Foreign]

theorem busy_regular : Regular busy.system.sequencer := ⟨by decide +kernel, by decide +kernel⟩

theorem busy_consecutive : Consecutive busy.system.sequencer.sent := ⟨7, by decide +kernel, by decide⟩

theorem busy_counts :
    busy.telemetry.sent.filterMap blockReport = [(7, 7), (8, 8)] ∧
      Holds busy.telemetry.txCountStore.txCounts [(9, 9)] := by
  obtain ⟨blocks, waiting⟩ := telemetry_counts busyRoles_opened noop_roundtrips (fun _ => 3) busyInputs
    (by decide) busyInputs_foreign busy_regular busy_consecutive
  have executed : busy.system.validator.executions.map (fun execution => telling execution.block) =
      [(7, 7), (8, 8)] := by decide +kernel
  have remaining : (busy.system.sequencer.submittedBlocks.drop busy.system.validator.executions.length).map
      telling = [(9, 9)] := by decide +kernel
  exact ⟨blocks.trans executed, remaining ▸ waiting⟩

end Examples

end L1Pipeline

end Montana.Node
