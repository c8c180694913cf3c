import Mathlib.Data.List.Basic
import Montana.Anvil.Inbox
import Montana.Lib.Runs

/-! Which inbox transactions the scan returns: at most the first one of each block. -/

namespace Montana.Anvil

def sentTo (batchInbox : Address) (block : L1Block) : List L1Transaction :=
  block.filter (·.destination = some batchInbox)

@[simp] theorem sentTo_append (batchInbox : Address) (first second : L1Block) :
    sentTo batchInbox (first ++ second) = sentTo batchInbox first ++ sentTo batchInbox second :=
  List.filter_append ..

/-- The transactions sent to the inbox, by block and then by position in the block. -/
def inboxTransactions (batchInbox : Address) (chain : List L1Block) : List L1Transaction :=
  chain.flatMap (sentTo batchInbox)

/-- No transaction in the genesis block is sent to the inbox, and at most one in every other. -/
structure AtMostOne (batchInbox : Address) (genesis : L1Block) (blocks : List L1Block) : Prop where
  genesis : sentTo batchInbox genesis = []
  blocks : ∀ block ∈ blocks, (sentTo batchInbox block).length ≤ 1

/-- The transactions that a look for the first one in each block finds. -/
def firstTransactions (batchInbox : Address) (blocks : List L1Block) : List L1Transaction :=
  blocks.filterMap (List.find? (·.destination = some batchInbox))

private theorem firstTransactions_cons (batchInbox : Address) (block : L1Block) (rest : List L1Block) :
    firstTransactions batchInbox (block :: rest) =
      (sentTo batchInbox block).take 1 ++ firstTransactions batchInbox rest := by
  unfold firstTransactions sentTo
  rw [List.filterMap_cons, ← List.head?_filter]
  cases block.filter (·.destination = some batchInbox) <;> rfl

private theorem firstTransactions_eq {batchInbox : Address} {blocks : List L1Block}
    (single : ∀ block ∈ blocks, (sentTo batchInbox block).length ≤ 1) :
    firstTransactions batchInbox blocks = inboxTransactions batchInbox blocks := by
  induction blocks with
  | nil => rfl
  | cons block rest ih =>
    obtain ⟨here, later⟩ := List.forall_mem_cons.mp single
    rw [firstTransactions_cons, ih later, List.take_of_length_le here]
    rfl

/-- Where a second transaction is in some block, fewer are found than were sent. -/
theorem single_of_length_le {batchInbox : Address} {blocks : List L1Block} :
    (firstTransactions batchInbox blocks).length ≤ (inboxTransactions batchInbox blocks).length ∧
      ((inboxTransactions batchInbox blocks).length ≤ (firstTransactions batchInbox blocks).length →
        ∀ block ∈ blocks, (sentTo batchInbox block).length ≤ 1) := by
  induction blocks with
  | nil => simp [firstTransactions]
  | cons block rest ih =>
    have all : (inboxTransactions batchInbox (block :: rest)).length =
        (sentTo batchInbox block).length + (inboxTransactions batchInbox rest).length := by
      simp [inboxTransactions]
    rw [firstTransactions_cons, List.length_append, List.length_take, all]
    refine ⟨by omega, fun enough => List.forall_mem_cons.mpr ⟨by omega, ih.2 (by omega)⟩⟩

/-- The batches in these transactions, numbered from 1. -/
def numbered (transactions : List L1Transaction) : List CompressedBatch :=
  (transactions.zipIdx 1).map fun (tx, number) => decodeBatch number tx.input

private theorem numbered_append (first second : List L1Transaction) :
    numbered (first ++ second) = numbered first ++
      (second.zipIdx (first.length + 1)).map fun (tx, number) => decodeBatch number tx.input := by
  rw [numbered, List.zipIdx_append, List.map_append, Nat.add_comm]
  rfl

@[simp] theorem length_numbered (transactions : List L1Transaction) :
    (numbered transactions).length = transactions.length := by
  simp [numbered]

theorem numbered_mono {first second : List L1Transaction} (initial : first <+: second) :
    numbered first <+: numbered second := by
  obtain ⟨rest, rfl⟩ := initial
  rw [numbered_append]
  exact List.prefix_append _ _

namespace Provider

def chain (self : Provider) : List L1Block := self.genesis :: self.blocks

/-- The chain may have grown; no block of it has changed. -/
structure Extends (before after : Provider) : Prop where
  genesis : after.genesis = before.genesis
  blocks : before.blocks <+: after.blocks

theorem Extends.refl (self : Provider) : self.Extends self := ⟨rfl, List.prefix_refl _⟩

theorem Extends.trans {first second third : Provider} (earlier : first.Extends second)
    (later : second.Extends third) : first.Extends third :=
  ⟨later.genesis.trans earlier.genesis, earlier.blocks.trans later.blocks⟩

theorem Extends.chain {before after : Provider} (grown : before.Extends after) :
    before.chain <+: after.chain := by
  rw [Provider.chain, Provider.chain, grown.genesis]
  exact List.cons_prefix_cons.mpr ⟨rfl, grown.blocks⟩

private theorem mineAll_extends (mined : List Mined) (self : Provider) :
    self.Extends (mined.foldl mine self) := by
  induction mined generalizing self with
  | nil => exact .refl self
  | cons first rest ih =>
    have mined : self.Extends (self.mine first) := ⟨rfl, List.prefix_append _ _⟩
    exact mined.trans (ih (self.mine first))

theorem turn_extends (self : Provider) : self.Extends self.turn.2 := by
  unfold turn
  split
  · exact .refl self
  · rename_i turn rest _
    have mined := mineAll_extends turn.mined { self with schedule := rest }
    exact ⟨mined.genesis, mined.blocks⟩

/-- What calls that only read do to the provider. -/
def Turns : Provider → Provider → Prop :=
  Relation.ReflTransGen fun before after => after = before.turn.2

theorem Turns.extends {before after : Provider} (turns : before.Turns after) : before.Extends after := by
  induction turns with
  | refl => exact .refl before
  | tail _ last ih =>
    subst last
    exact ih.trans (turn_extends _)

theorem getBlockNumber_answered {self : Provider} (answered : self.turn.1.failure = none) :
    self.getBlockNumber = (.ok self.turn.2.blocks.length, self.turn.2) := by
  simp only [getBlockNumber, answer, answered]

private theorem getBlockNumber_cases (self : Provider) :
    (∃ e, self.getBlockNumber = (.error e, self.turn.2)) ∨
      self.getBlockNumber = (.ok self.turn.2.blocks.length, self.turn.2) := by
  cases failed : self.turn.1.failure with
  | some e => exact .inl ⟨e, by simp only [getBlockNumber, answer, failed]⟩
  | none => exact .inr (getBlockNumber_answered failed)

/-- A block below the head is there whatever happened in the meantime. -/
theorem getBlockByNumber_answered {self : Provider} {number : Nat} (below : number < self.blocks.length)
    (answered : self.turn.1.failure = none) :
    ∃ block, self.turn.2.blocks[number]? = some block ∧
      self.getBlockByNumber (number + 1) = (.ok (some block), self.turn.2) := by
  have longer := (turn_extends self).blocks.length_le
  have inside : number < self.turn.2.blocks.length := by omega
  refine ⟨self.turn.2.blocks[number], List.getElem?_eq_getElem inside, ?_⟩
  simp only [getBlockByNumber, answer, answered]
  simp [inside]

private theorem getBlockByNumber_cases {self : Provider} {number : Nat}
    (below : number < self.blocks.length) :
    (∃ e, self.getBlockByNumber (number + 1) = (.error e, self.turn.2)) ∨
      ∃ block, self.turn.2.blocks[number]? = some block ∧
        self.getBlockByNumber (number + 1) = (.ok (some block), self.turn.2) := by
  cases failed : self.turn.1.failure with
  | some e => exact .inl ⟨e, by simp only [getBlockByNumber, answer, failed]⟩
  | none => exact .inr (getBlockByNumber_answered below failed)

end Provider

namespace AnvilBatchSource

/-- The batches returned so far are the inbox transactions of the chain, each exactly
once and in order, and a call that finds nothing more has left nothing out. -/
structure Faithful (source : AnvilBatchSource) : Prop where
  returned : source.returned <+: numbered (inboxTransactions source.batchInbox source.provider.chain)
  drained : ∀ head ∈ source.drained,
    numbered (inboxTransactions source.batchInbox (source.provider.chain.take (head + 1))) <+:
      source.returned

/-- What the scan of a run has in hand: the first inbox transaction of each block up to
its position. -/
structure Scanned (source : AnvilBatchSource) : Prop where
  below : source.lastScannedBlock ≤ source.provider.blocks.length
  next : source.nextBatchNumber = source.returned.length + 1
  returned : source.returned = numbered (firstTransactions source.batchInbox
    (source.provider.blocks.take source.lastScannedBlock))
  drained : ∀ head ∈ source.drained, head ≤ source.lastScannedBlock

theorem Scanned.extend {self : AnvilBatchSource} (scanned : self.Scanned) {provider : Provider}
    (grown : self.provider.Extends provider) : Scanned { self with provider } := by
  obtain ⟨below, next, returned, drained⟩ := scanned
  obtain ⟨more, longer⟩ := grown.blocks
  refine ⟨Nat.le_trans below grown.blocks.length_le, next, ?_, drained⟩
  show self.returned = _
  rw [returned, ← longer, List.take_append_of_le_length below]

/-- One block further: its first inbox transaction, if it has one, was returned. -/
theorem firstTransactions_take_succ {batchInbox : Address} {blocks : List L1Block} {block : L1Block}
    {number : Nat} (here : blocks[number]? = some block) :
    firstTransactions batchInbox (blocks.take (number + 1)) =
      firstTransactions batchInbox (blocks.take number) ++
        (block.find? (·.destination = some batchInbox)).toList := by
  unfold firstTransactions
  rw [List.take_add_one, List.filterMap_append, here]
  cases found : block.find? (·.destination = some batchInbox) <;> simp [found]

theorem Scanned.scan {currentBlock remaining : Nat} {self : AnvilBatchSource} (scanned : self.Scanned)
    (reach : self.lastScannedBlock + remaining = currentBlock)
    (head : currentBlock ≤ self.provider.blocks.length) :
    Scanned (scan currentBlock remaining (self.lastScannedBlock + 1) self).2 := by
  induction remaining generalizing self with
  | zero =>
    obtain ⟨below, next, returned, drained⟩ := scanned
    refine ⟨below, next, returned, ?_⟩
    intro other member
    rcases List.mem_append.mp member with old | new
    · exact drained other old
    · rw [List.mem_singleton.mp new]
      exact Nat.le_of_eq reach.symm
  | succ remaining ih =>
    have scanned := scanned.extend self.provider.turn_extends
    have longer := self.provider.turn_extends.blocks.length_le
    have below : self.lastScannedBlock < self.provider.blocks.length := by omega
    have inside : self.lastScannedBlock + 1 ≤ self.provider.turn.2.blocks.length := by omega
    unfold AnvilBatchSource.scan
    rcases Provider.getBlockByNumber_cases below with ⟨e, failed⟩ | ⟨block, here, got⟩
    · rw [failed]
      exact scanned
    · rw [got]
      obtain ⟨_, next, returned, drained⟩ := scanned
      have further := @firstTransactions_take_succ self.batchInbox _ _ _ here
      have kept : ∀ head ∈ self.drained, head ≤ self.lastScannedBlock + 1 :=
        fun head member => Nat.le_succ_of_le (drained head member)
      cases found : block.find? (·.destination = some self.batchInbox) with
      | some tx =>
        simp only [found]
        refine ⟨inside, by simpa using next, ?_, kept⟩
        · rw [found] at further
          have count := congrArg List.length returned
          rw [length_numbered] at count
          simp only [] at returned count next ⊢
          rw [further, numbered_append, ← returned, ← count, next]
          rfl
      | none =>
        rw [found] at further
        simp only [found]
        refine @ih { self with
          provider := self.provider.turn.2, lastScannedBlock := self.lastScannedBlock + 1 }
          ⟨inside, next, ?_, kept⟩ ?_ ?_
        · show self.returned = _
          rw [further]
          simpa using returned
        · show self.lastScannedBlock + 1 + remaining = currentBlock
          omega
        · show currentBlock ≤ self.provider.turn.2.blocks.length
          omega

theorem Scanned.nextBatch {self : AnvilBatchSource} (scanned : self.Scanned) :
    Scanned self.nextBatch.2 := by
  have scanned := scanned.extend self.provider.turn_extends
  unfold AnvilBatchSource.nextBatch
  rcases self.provider.getBlockNumber_cases with ⟨e, failed⟩ | answered
  · rw [failed]
    exact scanned
  · rw [answered]
    simp only []
    split
    · rename_i nothing
      obtain ⟨below, next, returned, drained⟩ := scanned
      refine ⟨below, next, returned, ?_⟩
      intro head member
      rcases List.mem_append.mp member with old | new
      · exact drained head old
      · rw [List.mem_singleton.mp new]
        exact nothing
    · rename_i more
      refine scanned.scan ?_ (Nat.le_refl _)
      simp only []
      omega

/-- What a call leaves as it was: the provider has only taken turns. -/
structure Continues (before after : AnvilBatchSource) : Prop where
  batchInbox : after.batchInbox = before.batchInbox
  provider : before.provider.Turns after.provider
  drained : before.drained <+: after.drained

private theorem scan_continues (currentBlock remaining blockNum : Nat) (self : AnvilBatchSource) :
    self.Continues (scan currentBlock remaining blockNum self).2 := by
  induction remaining generalizing blockNum self with
  | zero => exact ⟨rfl, .refl, List.prefix_append _ _⟩
  | succ remaining ih =>
    have taken : self.provider.Turns self.provider.turn.2 := .single rfl
    have further (lastScannedBlock : Nat) : self.Continues (scan currentBlock remaining (blockNum + 1)
        { self with provider := self.provider.turn.2, lastScannedBlock }).2 := by
      have rest := ih (blockNum + 1) { self with provider := self.provider.turn.2, lastScannedBlock }
      exact ⟨rest.batchInbox, taken.trans rest.provider, rest.drained⟩
    unfold AnvilBatchSource.scan
    split <;> rename_i got <;> cases congrArg Prod.snd got
    · exact ⟨rfl, taken, List.prefix_refl _⟩
    · exact further self.lastScannedBlock
    · split
      · exact ⟨rfl, taken, List.prefix_refl _⟩
      · exact further blockNum

theorem nextBatch_continues (self : AnvilBatchSource) : self.Continues self.nextBatch.2 := by
  have taken : self.provider.Turns self.provider.turn.2 := .single rfl
  unfold AnvilBatchSource.nextBatch
  rcases self.provider.getBlockNumber_cases with ⟨e, failed⟩ | answered
  · rw [failed]
    exact ⟨rfl, taken, List.prefix_refl _⟩
  · rw [answered]
    simp only []
    split
    · exact ⟨rfl, taken, List.prefix_append _ _⟩
    · have rest := scan_continues self.provider.turn.2.blocks.length
        (self.provider.turn.2.blocks.length - self.lastScannedBlock) (self.lastScannedBlock + 1)
        { self with provider := self.provider.turn.2 }
      exact ⟨rest.batchInbox, taken.trans rest.provider, rest.drained⟩

theorem Scanned.faithful {self : AnvilBatchSource} (scanned : self.Scanned)
    (single : AtMostOne self.batchInbox self.provider.genesis self.provider.blocks) : self.Faithful := by
  obtain ⟨_, _, returned, drained⟩ := scanned
  have seen (number : Nat) : inboxTransactions self.batchInbox (self.provider.chain.take (number + 1)) =
      firstTransactions self.batchInbox (self.provider.blocks.take number) := by
    rw [firstTransactions_eq fun block member => single.blocks block (List.mem_of_mem_take member)]
    simp [Provider.chain, inboxTransactions, single.genesis]
  have grows {first second : List L1Block} (initial : first <+: second) :
      inboxTransactions self.batchInbox first <+: inboxTransactions self.batchInbox second := by
    obtain ⟨rest, rfl⟩ := initial
    rw [inboxTransactions, inboxTransactions, List.flatMap_append]
    exact List.prefix_append _ _
  refine ⟨?_, ?_⟩
  · rw [returned, ← seen]
    exact numbered_mono (grows (List.take_prefix _ _))
  · intro head member
    rw [returned, ← seen]
    have earlier : head + 1 ≤ self.lastScannedBlock + 1 := Nat.succ_le_succ (drained head member)
    exact numbered_mono (grows (List.take_prefix_take_left earlier))

/-- A source that found nothing more up to the head has shown what it left out, if anything. -/
theorem Scanned.atMostOne {self : AnvilBatchSource} (scanned : self.Scanned) (faithful : self.Faithful)
    (end_ : self.provider.blocks.length ∈ self.drained) :
    AtMostOne self.batchInbox self.provider.genesis self.provider.blocks := by
  obtain ⟨below, _, returned, drained⟩ := scanned
  have at_head : self.lastScannedBlock = self.provider.blocks.length :=
    Nat.le_antisymm below (drained _ end_)
  have all := (faithful.drained _ end_).length_le
  rw [returned, at_head, List.take_length] at all
  simp only [Provider.chain, length_numbered, List.take_succ_cons, List.take_length] at all
  have counts := @single_of_length_le self.batchInbox self.provider.blocks
  have split : (inboxTransactions self.batchInbox (self.provider.genesis :: self.provider.blocks)).length =
      (sentTo self.batchInbox self.provider.genesis).length +
        (inboxTransactions self.batchInbox self.provider.blocks).length := by
    simp [inboxTransactions]
  refine ⟨List.length_eq_zero_iff.mp (by omega), counts.2 (by omega)⟩

/-- Without any turn of the network, a call finds nothing more or gets further. -/
theorem scan_quiet {currentBlock remaining : Nat} {self : AnvilBatchSource}
    (quiet : self.provider.schedule = []) (reach : self.lastScannedBlock + remaining = currentBlock)
    (head : currentBlock ≤ self.provider.blocks.length) :
    (scan currentBlock remaining (self.lastScannedBlock + 1) self).2.provider = self.provider ∧
      (currentBlock ∈ (scan currentBlock remaining (self.lastScannedBlock + 1) self).2.drained ∨
        self.lastScannedBlock <
          (scan currentBlock remaining (self.lastScannedBlock + 1) self).2.lastScannedBlock) := by
  have still : self.provider.turn = ({}, self.provider) := by simp [Provider.turn, quiet]
  induction remaining generalizing self with
  | zero => exact ⟨rfl, .inl (List.mem_append_right _ (by simp))⟩
  | succ remaining ih =>
    have inside : self.lastScannedBlock < self.provider.blocks.length := by omega
    have got : self.provider.getBlockByNumber (self.lastScannedBlock + 1) =
        (.ok (some self.provider.blocks[self.lastScannedBlock]), self.provider) := by
      simp [Provider.getBlockByNumber, still, Provider.answer, inside]
    unfold AnvilBatchSource.scan
    rw [got]
    simp only []
    split
    · exact ⟨rfl, .inr (Nat.lt_succ_self _)⟩
    · obtain ⟨same, progress⟩ := @ih { self with lastScannedBlock := self.lastScannedBlock + 1 } quiet
        (by show self.lastScannedBlock + 1 + remaining = currentBlock; omega) head still
      exact ⟨same, progress.imp_right fun further => Nat.lt_of_succ_lt further⟩

theorem nextBatch_quiet {self : AnvilBatchSource} (quiet : self.provider.schedule = []) :
    self.nextBatch.2.provider = self.provider ∧
      (self.provider.blocks.length ∈ self.nextBatch.2.drained ∨
        self.lastScannedBlock < self.nextBatch.2.lastScannedBlock) := by
  have got : self.provider.getBlockNumber = (.ok self.provider.blocks.length, self.provider) := by
    simp [Provider.getBlockNumber, Provider.turn, quiet, Provider.answer]
  unfold AnvilBatchSource.nextBatch
  rw [got]
  simp only []
  split
  · exact ⟨rfl, .inl (List.mem_append_right _ (by simp))⟩
  · exact scan_quiet quiet (by omega) (Nat.le_refl _)

private theorem run_frame (self : AnvilBatchSource) (calls : List (List Turn)) :
    (self.run calls).batchInbox = self.batchInbox ∧ self.provider.Extends (self.run calls).provider ∧
      self.drained <+: (self.run calls).drained := by
  refine Runs.invariant_run (fun reached : AnvilBatchSource => reached.batchInbox = self.batchInbox ∧
    self.provider.Extends reached.provider ∧ self.drained <+: reached.drained) calls ?_
    ⟨rfl, .refl _, List.prefix_refl _⟩
  intro reached schedule _ ⟨batchInbox, provider, drained⟩
  have called := nextBatch_continues { reached with provider := { reached.provider with schedule } }
  have grown := called.provider.extends
  exact ⟨called.batchInbox.trans batchInbox, provider.trans ⟨grown.genesis, grown.blocks⟩,
    drained.trans called.drained⟩

theorem Scanned.run {self : AnvilBatchSource} (scanned : self.Scanned) (calls : List (List Turn)) :
    (self.run calls).Scanned := by
  refine Runs.invariant_run Scanned calls ?_ scanned
  intro state schedule _ reached
  have ready : Scanned { state with provider := { state.provider with schedule } } :=
    reached.extend ⟨rfl, List.prefix_refl _⟩
  exact ready.nextBatch

theorem run_quiet_succ {self : AnvilBatchSource} (quiet : self.provider.schedule = []) (count : Nat) :
    self.run (List.replicate (count + 1) []) = self.nextBatch.2.run (List.replicate count []) := by
  have unchanged : { self with provider := { self.provider with schedule := [] } } = self := by
    rw [← quiet]
  rw [List.replicate_succ, AnvilBatchSource.run, List.foldl_cons, unchanged]
  rfl

private theorem run_quiet_provider {self : AnvilBatchSource} (quiet : self.provider.schedule = [])
    (count : Nat) :
    (self.run (List.replicate count [])).provider = self.provider := by
  induction count generalizing self with
  | zero => rfl
  | succ count ih =>
    have same := (nextBatch_quiet quiet).1
    rw [run_quiet_succ quiet, ih (by rw [same]; exact quiet), same]

/-- Enough calls on a chain that has stopped growing find nothing more in the end. -/
theorem run_quiet_drained {self : AnvilBatchSource} (scanned : self.Scanned)
    (quiet : self.provider.schedule = []) (count : Nat)
    (enough : self.provider.blocks.length < self.lastScannedBlock + count) :
    self.provider.blocks.length ∈ (self.run (List.replicate count [])).drained := by
  induction count generalizing self with
  | zero => exact absurd scanned.below (Nat.not_le.mpr enough)
  | succ count ih =>
    obtain ⟨same, progress⟩ := nextBatch_quiet quiet
    rw [run_quiet_succ quiet]
    rcases progress with ended | further
    · exact (run_frame self.nextBatch.2 (List.replicate count [])).2.2.subset ended
    · have rest := ih scanned.nextBatch (by rw [same]; exact quiet) (by rw [same]; omega)
      rwa [same] at rest

theorem scanned_new (provider : Provider) (batchInbox : Address) : (new provider batchInbox).Scanned :=
  ⟨Nat.zero_le _, rfl, rfl, by simp [new]⟩

/-- L1 is read faithfully in all runs on a chain exactly when no block of it holds two
inbox transactions: the scan goes on after the block of the first one. -/
theorem faithful_iff_atMostOne (batchInbox : Address) (genesis : L1Block) (blocks : List L1Block) :
    (∀ (provider : Provider) (calls : List (List Turn)), provider.genesis = genesis →
        ((new provider batchInbox).run calls).provider.blocks <+: blocks →
          ((new provider batchInbox).run calls).Faithful) ↔
      AtMostOne batchInbox genesis blocks := by
  constructor
  · intro always
    let whole : Provider := { genesis, blocks, mempool := [], schedule := [] }
    have scanned := scanned_new whole batchInbox
    have same := @run_quiet_provider (new whole batchInbox) rfl (blocks.length + 1)
    have drained := run_quiet_drained scanned rfl (blocks.length + 1) (by simp [whole, new])
    have faithful := always whole (List.replicate (blocks.length + 1) []) rfl
      (by rw [same]; exact List.prefix_refl _)
    have single := (scanned.run _).atMostOne faithful (by rw [same]; exact drained)
    rwa [(run_frame _ _).1, same] at single
  · intro single provider calls rooted reached
    obtain ⟨inbox, grown, _⟩ := run_frame (new provider batchInbox) calls
    refine ((scanned_new provider batchInbox).run calls).faithful ?_
    rw [inbox, grown.genesis]
    exact ⟨by rw [← rooted] at single; exact single.genesis,
      fun block member => single.blocks block (reached.subset member)⟩

section Examples

/-- A chain of one block with these transactions to the inbox at address 1. -/
def oneBlock (inputs : List Bytes) : Provider :=
  { genesis := [], blocks := [inputs.map fun input => ⟨0, some 1, input⟩], mempool := [], schedule := [] }

example : ((new (oneBlock [[7]]) 1).run [[], []]).returned = [⟨1, [7], 1, 0, 0⟩] := by decide

/-- The second transaction of the block is never returned, and the next call finds nothing more. -/
theorem second_transaction_skipped :
    ((new (oneBlock [[7], [8]]) 1).run [[], []]).returned = [⟨1, [7], 1, 0, 0⟩] ∧
      ((new (oneBlock [[7], [8]]) 1).run [[], []]).drained = [1] ∧
      ¬ ((new (oneBlock [[7], [8]]) 1).run [[], []]).Faithful := by
  refine ⟨by decide, by decide, fun faithful => ?_⟩
  exact absurd (faithful.drained 1 (by decide)).length_le (by decide)

end Examples

end AnvilBatchSource

end Montana.Anvil
