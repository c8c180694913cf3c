import Mathlib.Data.List.Nodup
import Montana.Anvil.Scan

/-! A party that submits batches to L1 and a source that reads them there. The number
of a batch does not travel with it: the source counts for itself. -/

namespace Montana.Anvil

open Relation (ReflTransGen)

/-- A party with a sink on L1. -/
class Submitter (Party : Type) (Input : outParam Type) where
  advance : Party → Input → Party
  sink : Party → AnvilBatchSink
  withSink : Party → AnvilBatchSink → Party
  /-- The batches to which it has given a number and a payload so far. -/
  batches : Party → List CompressedBatch

/-- One call of `submit`. -/
def Submission (before after : AnvilBatchSink) : Prop := ∃ batch, after = (before.submit batch).2

/-- The party does nothing to its sink but submit. -/
class LawfulSubmitter (Party : Type) {Input : Type} [Submitter Party Input] : Prop where
  sink_withSink : ∀ (party : Party) (sink : AnvilBatchSink),
    Submitter.sink (Submitter.withSink party sink) = sink
  sink_advance : ∀ (party : Party) (input : Input),
    ReflTransGen Submission (Submitter.sink party) (Submitter.sink (Submitter.advance party input))

/-- The provider of the submitter's sink stands for the chain that both see. -/
structure Channel (Party : Type) where
  submitter : Party
  source : AnvilBatchSource

namespace Channel

variable {Party Input : Type} [Submitter Party Input]

inductive Event (Input : Type) where
  | submitter (input : Input)
  | network (schedule : List Turn)
  | nextBatch

def sink (self : Channel Party) : AnvilBatchSink := Submitter.sink self.submitter

def withProvider (self : Channel Party) (provider : Provider) : Channel Party :=
  { self with submitter := Submitter.withSink self.submitter { self.sink with provider } }

/-- The source as it sees the chain. -/
def reader (self : Channel Party) : AnvilBatchSource :=
  { self.source with provider := self.sink.provider }

def step (self : Channel Party) : Event Input → Channel Party
  | .submitter input => { self with submitter := Submitter.advance self.submitter input }
  | .network schedule => self.withProvider { self.sink.provider with schedule }
  | .nextBatch =>
    let source := self.reader.nextBatch.2
    { self.withProvider source.provider with source }

def run (self : Channel Party) (events : List (Event Input)) : Channel Party :=
  events.foldl step self

/-- Every batch returned is the one that the submitter gave that number. -/
def Agrees (channel : Channel Party) : Prop :=
  ∀ batch ∈ channel.source.returned, batch ∈ Submitter.batches channel.submitter

end Channel

/-- The batch of the second number has the same data, block count and bounds as the
one of the first. -/
def SameContent (batches : List CompressedBatch) (first second : Nat) : Prop :=
  ∃ batch ∈ batches, batch.batchNumber = second ∧ { batch with batchNumber := first } ∈ batches

/-- The fields of the header are 64-bit numbers. -/
structure Bounded (batch : CompressedBatch) : Prop where
  blockCount : batch.blockCount < 2 ^ 64
  firstBlock : batch.firstBlock < 2 ^ 64
  lastBlock : batch.lastBlock < 2 ^ 64

instance (batch : CompressedBatch) : Decidable (Bounded batch) :=
  decidable_of_iff (batch.blockCount < 2 ^ 64 ∧ batch.firstBlock < 2 ^ 64 ∧ batch.lastBlock < 2 ^ 64)
    ⟨fun ⟨blockCount, firstBlock, lastBlock⟩ => ⟨blockCount, firstBlock, lastBlock⟩,
      fun ⟨blockCount, firstBlock, lastBlock⟩ => ⟨blockCount, firstBlock, lastBlock⟩⟩

theorem decodeBatch_encodeBatch {batch : CompressedBatch} (bounded : Bounded batch) (number : Nat) :
    decodeBatch number (encodeBatch batch) = { batch with batchNumber := number } := by
  have fits {value : Nat} (small : value < 2 ^ 64) :
      LittleEndian.decode (LittleEndian.encode 8 value) = value := LittleEndian.decode_encode_of_lt small
  have header : (encodeBatch batch).length ≥ 24 := by
    simp [encodeBatch]
    omega
  have past (skipped : Nat) (long : 8 ≤ skipped) (value : Nat) :
      (LittleEndian.encode 8 value).drop skipped = [] := by simp [long]
  rw [decodeBatch, if_pos header]
  simp [encodeBatch, List.append_assoc, List.drop_append, fits bounded.blockCount,
    fits bounded.firstBlock, fits bounded.lastBlock, past]

/-- No transaction of others goes to the inbox. -/
def Turn.Foreign (batchInbox : Address) (turn : Turn) : Prop :=
  ∀ mined ∈ turn.mined, sentTo batchInbox mined.before = [] ∧ sentTo batchInbox mined.after = []

namespace Provider

/-- The inbox transactions on the chain, and then those that wait to be mined. -/
def accepted (batchInbox : Address) (self : Provider) : List L1Transaction :=
  inboxTransactions batchInbox self.chain ++ sentTo batchInbox self.mempool

/-- Only the submitter sends to the inbox from now on. -/
def Foreign (batchInbox : Address) (self : Provider) : Prop :=
  ∀ turn ∈ self.schedule, turn.Foreign batchInbox

theorem accepted_eq (batchInbox : Address) (self : Provider) : self.accepted batchInbox =
    sentTo batchInbox self.genesis ++ self.blocks.flatMap (sentTo batchInbox) ++
      sentTo batchInbox self.mempool := rfl

private theorem mineAll_accepted {batchInbox : Address} {mined : List Mined}
    (foreign : ∀ each ∈ mined, sentTo batchInbox each.before = [] ∧ sentTo batchInbox each.after = [])
    (self : Provider) : (mined.foldl mine self).accepted batchInbox = self.accepted batchInbox := by
  induction mined generalizing self with
  | nil => rfl
  | cons first rest ih =>
    obtain ⟨⟨before, after⟩, others⟩ := List.forall_mem_cons.mp foreign
    have here : (self.mine first).accepted batchInbox = self.accepted batchInbox := by
      have moved : sentTo batchInbox (self.mempool.take first.taken) ++
          sentTo batchInbox (self.mempool.drop first.taken) = sentTo batchInbox self.mempool := by
        rw [← sentTo_append, List.take_append_drop]
      rw [accepted_eq, accepted_eq, ← moved]
      simp [mine, before, after]
    exact (ih others (self.mine first)).trans here

theorem mineAll_schedule (mined : List Mined) (self : Provider) :
    (mined.foldl mine self).schedule = self.schedule := by
  induction mined generalizing self with
  | nil => rfl
  | cons first rest ih => exact ih (self.mine first)

theorem turn_accepted {batchInbox : Address} {self : Provider} (foreign : self.Foreign batchInbox) :
    self.turn.2.accepted batchInbox = self.accepted batchInbox ∧ self.turn.2.Foreign batchInbox := by
  unfold Foreign at foreign
  unfold turn
  cases next : self.schedule with
  | nil => exact ⟨rfl, foreign⟩
  | cons turn rest =>
    rw [next] at foreign
    obtain ⟨here, later⟩ := List.forall_mem_cons.mp foreign
    refine ⟨mineAll_accepted here { self with schedule := rest }, ?_⟩
    unfold Foreign
    rw [mineAll_schedule]
    exact later

theorem sendTransaction_accepted {batchInbox : Address} {self : Provider} {tx : L1Transaction}
    (foreign : self.Foreign batchInbox) (inbox : tx.destination = some batchInbox) :
    (self.sendTransaction tx).2.accepted batchInbox =
        self.accepted batchInbox ++ (if self.reaches then [tx] else []) ∧
      (self.sendTransaction tx).2.Foreign batchInbox := by
  obtain ⟨same, still⟩ := turn_accepted foreign
  unfold sendTransaction
  by_cases reaches : self.reaches
  · simp only [if_pos reaches]
    refine ⟨?_, still⟩
    rw [← same, accepted_eq, accepted_eq]
    simp [sentTo, inbox]
  · simp only [if_neg reaches]
    exact ⟨by simpa using same, still⟩

private theorem getReceipt_accepted {batchInbox : Address} {self : Provider}
    (foreign : self.Foreign batchInbox) :
    self.getReceipt.2.accepted batchInbox = self.accepted batchInbox ∧
      self.getReceipt.2.Foreign batchInbox := by
  obtain ⟨same, still⟩ := turn_accepted foreign
  unfold getReceipt
  cases failed : self.turn.1.failure with
  | some e =>
    simp only [failed]
    exact ⟨same, still⟩
  | none =>
    simp only [failed]
    have singles : (self.turn.2.mempool.map ([·])).flatMap (sentTo batchInbox) =
        sentTo batchInbox self.turn.2.mempool := by
      induction self.turn.2.mempool with
      | nil => rfl
      | cons tx rest ih =>
        rw [List.map_cons, List.flatMap_cons, ih, ← sentTo_append]
        rfl
    refine ⟨?_, still⟩
    rw [← same, accepted_eq, accepted_eq]
    simp [singles]
    rfl

end Provider

/-- The node holds for the inbox what the sink sent there, in the same order. -/
structure Delivering (sink : AnvilBatchSink) : Prop where
  accepted : sink.provider.accepted sink.batchInbox = sink.sent.map sink.txRequest
  foreign : sink.provider.Foreign sink.batchInbox

theorem Delivering.submit {self : AnvilBatchSink} (delivering : Delivering self) (batch : CompressedBatch) :
    Delivering (self.submit batch).2 := by
  obtain ⟨accepted, foreign⟩ := delivering
  obtain ⟨sent, quiet⟩ := @Provider.sendTransaction_accepted self.batchInbox self.provider
    (self.txRequest batch) foreign rfl
  have grown : (self.provider.sendTransaction (self.txRequest batch)).2.accepted self.batchInbox =
      (if self.provider.reaches then self.sent ++ [batch] else self.sent).map self.txRequest := by
    rw [sent, accepted]
    split <;> simp
  unfold AnvilBatchSink.submit
  simp only []
  split <;> rename_i answered <;> cases congrArg Prod.snd answered
  · exact ⟨grown, quiet⟩
  · obtain ⟨same, still⟩ := Provider.getReceipt_accepted quiet
    split <;> rename_i receipt <;> cases congrArg Prod.snd receipt
    · exact ⟨same.trans grown, still⟩
    · exact ⟨same.trans grown, still⟩

theorem Delivering.turns {self : AnvilBatchSink} (delivering : Delivering self) {provider : Provider}
    (turns : self.provider.Turns provider) : Delivering { self with provider } := by
  induction turns with
  | refl => exact delivering
  | tail _ last ih =>
    subst last
    obtain ⟨same, still⟩ := Provider.turn_accepted ih.foreign
    exact ⟨same.trans ih.accepted, still⟩

private theorem sendTransaction_extends (self : Provider) (tx : L1Transaction) :
    self.Extends (self.sendTransaction tx).2 := by
  have grown := self.turn_extends
  unfold Provider.sendTransaction
  simp only []
  split
  · exact ⟨grown.genesis, grown.blocks⟩
  · exact grown

private theorem getReceipt_extends (self : Provider) : self.Extends self.getReceipt.2 := by
  have grown := self.turn_extends
  unfold Provider.getReceipt
  simp only []
  split
  · exact grown
  · exact ⟨grown.genesis, grown.blocks.trans (List.prefix_append _ _)⟩

private theorem submit_frame (self : AnvilBatchSink) (batch : CompressedBatch) :
    ∃ provider sent, self.provider.Extends provider ∧
      (self.submit batch).2 = { self with provider, sent } := by
  have sending := sendTransaction_extends self.provider (self.txRequest batch)
  unfold AnvilBatchSink.submit
  simp only []
  split <;> rename_i answered <;> cases congrArg Prod.snd answered
  · exact ⟨_, _, sending, rfl⟩
  · have waiting := sending.trans (getReceipt_extends _)
    split <;> rename_i receipt <;> cases congrArg Prod.snd receipt <;> exact ⟨_, _, waiting, rfl⟩

namespace Channel

variable {Party Input : Type} [Submitter Party Input]

/-- What the source has read is on the chain, and what is there the sink has sent. -/
structure Linked (channel : Channel Party) : Prop where
  inbox : channel.source.batchInbox = channel.sink.batchInbox
  scanned : channel.reader.Scanned
  delivering : Delivering channel.sink

/-- Others never send to the inbox, whatever is scheduled. -/
def Event.Foreign (batchInbox : Address) : Event Input → Prop
  | .network schedule => ∀ turn ∈ schedule, turn.Foreign batchInbox
  | _ => True

/-- A fresh inbox: the sink has sent nothing, the source has read nothing, nothing of
others is on the chain or will be sent. -/
structure Opened (channel : Channel Party) : Prop where
  sent : channel.sink.sent = []
  source : channel.source = .new channel.source.provider channel.sink.batchInbox
  accepted : channel.sink.provider.accepted channel.sink.batchInbox = []
  foreign : channel.sink.provider.Foreign channel.sink.batchInbox

theorem Opened.linked {self : Channel Party} (opened : self.Opened) : self.Linked := by
  obtain ⟨sent, source, accepted, foreign⟩ := opened
  refine ⟨by rw [source]; rfl, ?_, ⟨by rw [accepted, sent]; rfl, foreign⟩⟩
  unfold reader
  rw [source]
  exact AnvilBatchSource.scanned_new _ _

/-- Every block holds at most one inbox transaction, and the fields of the submitter's
batches are 64-bit numbers. -/
structure Regular (channel : Channel Party) : Prop where
  single : AtMostOne channel.sink.batchInbox channel.sink.provider.genesis channel.sink.provider.blocks
  bounded : ∀ batch ∈ Submitter.batches channel.submitter, Bounded batch

theorem Linked.submissions {self : Channel Party} (linked : self.Linked) {sink : AnvilBatchSink}
    (submissions : ReflTransGen Submission self.sink sink) :
    Delivering sink ∧ sink.batchInbox = self.sink.batchInbox ∧ self.sink.provider.Extends sink.provider := by
  induction submissions with
  | refl => exact ⟨linked.delivering, rfl, .refl _⟩
  | @tail middle last _ submitted ih =>
    obtain ⟨delivering, inbox, grown⟩ := ih
    obtain ⟨batch, rfl⟩ := submitted
    have next := delivering.submit batch
    obtain ⟨provider, sent, further, same⟩ := submit_frame middle batch
    rw [same] at next ⊢
    exact ⟨next, inbox, grown.trans further⟩

theorem Linked.step [LawfulSubmitter Party] {self : Channel Party} (linked : self.Linked)
    (event : Event Input) (foreign : event.Foreign self.sink.batchInbox) :
    (self.step event).Linked ∧ (self.step event).sink.batchInbox = self.sink.batchInbox := by
  cases event with
  | submitter input =>
    obtain ⟨delivering, inbox, grown⟩ :=
      linked.submissions (LawfulSubmitter.sink_advance self.submitter input)
    exact ⟨⟨linked.inbox.trans inbox.symm, linked.scanned.extend grown, delivering⟩, inbox⟩
  | network schedule =>
    have kept : (self.step (.network schedule)).sink =
        { self.sink with provider := { self.sink.provider with schedule } } :=
      LawfulSubmitter.sink_withSink _ _
    refine ⟨⟨?_, ?_, ?_⟩, by rw [kept]⟩
    · rw [kept]
      exact linked.inbox
    · unfold reader
      rw [kept]
      exact linked.scanned.extend ⟨rfl, List.prefix_refl _⟩
    · rw [kept]
      exact ⟨linked.delivering.accepted, foreign⟩
  | nextBatch =>
    have called := AnvilBatchSource.nextBatch_continues self.reader
    have kept : (self.step .nextBatch).sink =
        { self.sink with provider := self.reader.nextBatch.2.provider } :=
      LawfulSubmitter.sink_withSink _ _
    refine ⟨⟨?_, ?_, ?_⟩, by rw [kept]⟩
    · rw [kept]
      exact called.batchInbox.trans linked.inbox
    · unfold reader
      rw [kept]
      exact linked.scanned.nextBatch
    · rw [kept]
      exact linked.delivering.turns called.provider

/-- What both ends keep in every run, besides what the submitter keeps for itself. -/
theorem Linked.run [LawfulSubmitter Party] {start : Channel Party} (linked : start.Linked)
    (Valid : Party → Prop) (allowed : Input → Prop)
    (advance : ∀ party input, allowed input → Valid party → Valid (Submitter.advance party input))
    (rewire : ∀ party provider, Valid party →
      Valid (Submitter.withSink party { Submitter.sink party with provider }))
    (initially : Valid start.submitter) (events : List (Event Input))
    (foreign : ∀ event ∈ events, event.Foreign start.sink.batchInbox)
    (permitted : ∀ input, .submitter input ∈ events → allowed input) :
    (start.run events).Linked ∧ (start.run events).sink.batchInbox = start.sink.batchInbox ∧
      Valid (start.run events).submitter := by
  refine Runs.invariant_run (fun reached : Channel Party => reached.Linked ∧
    reached.sink.batchInbox = start.sink.batchInbox ∧ Valid reached.submitter) events ?_
    ⟨linked, rfl, initially⟩
  intro reached event arrives ⟨linked, inbox, valid⟩
  obtain ⟨next, same⟩ := linked.step event (by rw [inbox]; exact foreign event arrives)
  refine ⟨next, same.trans inbox, ?_⟩
  cases event with
  | submitter input => exact advance _ _ (permitted input arrives) valid
  | network schedule => exact rewire _ _ valid
  | nextBatch => exact rewire _ _ valid

/-- The batches that the sink sent, as the source counts them. -/
def renumbered (sent : List CompressedBatch) : List CompressedBatch :=
  (sent.zipIdx 1).map fun (batch, number) => { batch with batchNumber := number }

theorem Linked.returned {self : Channel Party} (linked : self.Linked)
    (single : AtMostOne self.sink.batchInbox self.sink.provider.genesis self.sink.provider.blocks)
    (bounded : ∀ batch ∈ self.sink.sent, Bounded batch) :
    self.source.returned <+: renumbered self.sink.sent := by
  have decoded : numbered (self.sink.sent.map self.sink.txRequest) = renumbered self.sink.sent := by
    rw [numbered, renumbered, List.zipIdx_map, List.map_map]
    refine List.map_congr_left fun entry member => ?_
    exact decodeBatch_encodeBatch (bounded entry.1 (List.fst_mem_of_mem_zipIdx member)) entry.2
  have faithful := (linked.scanned.faithful (by rw [reader, linked.inbox]; exact single)).returned
  have accepted := linked.delivering.accepted
  rw [Provider.accepted] at accepted
  rw [← decoded, ← accepted]
  have inbox : self.reader.batchInbox = self.sink.batchInbox := linked.inbox
  rw [inbox] at faithful
  exact faithful.trans (numbered_mono (List.prefix_append _ _))

theorem Linked.returned_at {self : Channel Party} (linked : self.Linked)
    (single : AtMostOne self.sink.batchInbox self.sink.provider.genesis self.sink.provider.blocks)
    (bounded : ∀ batch ∈ self.sink.sent, Bounded batch) {index : Nat}
    (inside : index < self.source.returned.length) :
    ∃ batch, self.sink.sent[index]? = some batch ∧
      self.source.returned[index]? = some { batch with batchNumber := index + 1 } := by
  have initial := linked.returned single bounded
  have count := initial.length_le
  simp only [renumbered, List.length_map, List.length_zipIdx] at count
  have sent : index < self.sink.sent.length := by omega
  refine ⟨self.sink.sent[index], List.getElem?_eq_getElem sent, ?_⟩
  rw [List.getElem?_eq_getElem inside, initial.getElem inside]
  simp [renumbered, Nat.add_comm 1]

/-- The two sides agree exactly where the submitter's own batches do, under the number
that the source counts and under the one that the batch was given. -/
theorem Linked.agrees_iff {self : Channel Party} (linked : self.Linked)
    (regular : self.Regular)
    (known : ∀ batch ∈ self.sink.sent, batch ∈ Submitter.batches self.submitter)
    (unique : ((Submitter.batches self.submitter).map (·.batchNumber)).Nodup) :
    self.Agrees ↔ ∀ index < self.source.returned.length, ∀ batch, self.sink.sent[index]? = some batch →
      SameContent (Submitter.batches self.submitter) (index + 1) batch.batchNumber := by
  have bounded : ∀ batch ∈ self.sink.sent, Bounded batch :=
    fun batch member => regular.bounded batch (known batch member)
  constructor
  · intro agrees index inside batch sent
    obtain ⟨other, here, returned⟩ := linked.returned_at regular.single bounded inside
    cases here.symm.trans sent
    exact ⟨batch, known batch (List.mem_of_getElem? sent), rfl, agrees _ (List.mem_of_getElem? returned)⟩
  · intro same returned member
    obtain ⟨index, inside, found⟩ := List.getElem_of_mem member
    obtain ⟨batch, sent, here⟩ := linked.returned_at regular.single bounded inside
    obtain ⟨other, listed, number, present⟩ := same index inside batch sent
    have identical : other = batch :=
      List.inj_on_of_nodup_map unique listed (known batch (List.mem_of_getElem? sent)) number
    rw [List.getElem?_eq_getElem inside, found] at here
    rwa [Option.some.inj here, ← identical]

end Channel

end Montana.Anvil
