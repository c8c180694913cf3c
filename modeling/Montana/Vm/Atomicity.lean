import Montana.Storage.CodeHashes
import Montana.Vm.Coherence

/-! What a failed block leaves behind: each transaction that ran before the failure has
written to the caches. -/

namespace Montana.Vm

open Storage (Address AccountInfo B256 Bytecode CachedDatabase Database EvmState Read StateAddressed
  TrieDatabase TrieDb TrieTransaction KeyValueDatabase LawfulKeyValueDatabase LawfulTransaction
  LawfulTrieDb U256 writtenCode writtenInfo writtenSlot)

/-- The same values are read from both databases. -/
structure SameReads [Database DB] (before after : DB) : Prop where
  accounts : ∀ address, (Database.basicRef after address).1.map (Option.map AccountInfo.body) =
    (Database.basicRef before address).1.map (Option.map AccountInfo.body)
  storage : ∀ address slot, (Database.storageRef after address slot).1 =
    (Database.storageRef before address slot).1
  code : ∀ codeHash, (Database.codeByHashRef after codeHash).1 = (Database.codeByHashRef before codeHash).1

/-- The last that the states write to an account, a slot or a code is what is read there. -/
structure Repeats [Database DB] (db : DB) (states : List EvmState) : Prop where
  accounts : ∀ address info, writtenInfo states address = some info →
    (Database.basicRef db address).1.map (Option.map AccountInfo.body) = .ok (some info.body)
  storage : ∀ address slot value, writtenSlot states address slot = some value →
    (Database.storageRef db address slot).1 = .ok value
  code : ∀ codeHash code, writtenCode states codeHash = some code →
    (Database.codeByHashRef db codeHash).1 = .ok code

/-- The database after a block that failed with these states: the caches have them, the
trie is the old one, and the store may have their code. -/
structure Abandoned {Trie Txn KV : Type} [TrieTransaction Txn] [TrieDb Trie Txn] [KeyValueDatabase KV]
    (before : CachedDatabase (TrieDatabase Trie KV)) (states : List EvmState)
    (after : CachedDatabase (TrieDatabase Trie KV)) : Prop where
  trie : after.inner.inner = before.inner.inner
  kvdb : Storage.CodeFrom (states.flatMap AList.entries) before.inner.kvdb after.inner.kvdb
  accounts : Overlaid (fun address info => before.inner.basicRef address = .ok (some info))
    before.accounts (writtenInfo states) after.accounts
  storage : ∀ address, Overlaid (fun slot value => before.inner.storageRef address slot = .ok value)
    (before.storage address) (writtenSlot states address) (after.storage address)
  code : Overlaid (fun codeHash code => KeyValueDatabase.getCode before.inner.kvdb codeHash = .ok (some code))
    before.code (writtenCode states) after.code

namespace Abandoned

variable {Trie Txn KV : Type} [TrieTransaction Txn] [TrieDb Trie Txn] [KeyValueDatabase KV]
variable {before after : CachedDatabase (TrieDatabase Trie KV)} {states : List EvmState}

section Reads

variable [LawfulTransaction Txn] [LawfulTrieDb Trie Txn]

/-- The last write to an account is read, or else what was read before. -/
theorem basicRef_eq (readable : TrieDatabase.Readable Trie KV) (abandoned : Abandoned before states after)
    (address : Address) :
    (after.basicRef address).1.map (Option.map AccountInfo.body) =
      (writtenInfo states address).elim ((before.basicRef address).1.map (Option.map AccountInfo.body))
        fun info => .ok (some info.body) := by
  cases last : writtenInfo states address with
  | some info => rw [CachedDatabase.basicRef_hit (abandoned.accounts.of_written last)]; rfl
  | none =>
    rw [Option.elim_none]
    rcases abandoned.accounts.of_unwritten last with same | ⟨miss, info, answered, filled⟩
    · cases cached : before.accounts address with
      | some info =>
        rw [CachedDatabase.basicRef_hit cached, CachedDatabase.basicRef_hit (same.trans cached)]
      | none =>
        rw [CachedDatabase.basicRef_miss cached, CachedDatabase.basicRef_miss (same.trans cached)]
        obtain ⟨old, readOld⟩ := readable.basicRef before.inner address
        obtain ⟨new, readNew⟩ := readable.basicRef after.inner address
        have accounts : after.inner.accounts = before.inner.accounts :=
          congrArg LawfulTrieDb.view abandoned.trie
        rw [readOld, readNew, Except.map, Except.map, TrieDatabase.basicRef_accounts readOld,
          TrieDatabase.basicRef_accounts readNew, accounts]
    · rw [CachedDatabase.basicRef_hit filled, CachedDatabase.basicRef_miss miss, answered]

theorem storageRef_eq (readable : TrieDatabase.Readable Trie KV) (abandoned : Abandoned before states after)
    (address : Address) (slot : U256) :
    (after.storageRef address slot).1 =
      (writtenSlot states address slot).elim (before.storageRef address slot).1 .ok := by
  have overlaid := abandoned.storage address
  cases last : writtenSlot states address slot with
  | some value => exact CachedDatabase.storageRef_hit (overlaid.of_written last)
  | none =>
    rw [Option.elim_none]
    rcases overlaid.of_unwritten last with same | ⟨miss, value, answered, filled⟩
    · cases cached : before.storage address slot with
      | some value =>
        rw [CachedDatabase.storageRef_hit cached, CachedDatabase.storageRef_hit (same.trans cached)]
      | none =>
        rw [CachedDatabase.storageRef_miss cached, CachedDatabase.storageRef_miss (same.trans cached)]
        obtain ⟨old, readOld⟩ := readable.storageRef before.inner address slot
        obtain ⟨new, readNew⟩ := readable.storageRef after.inner address slot
        have accounts : after.inner.accounts = before.inner.accounts :=
          congrArg LawfulTrieDb.view abandoned.trie
        rw [readOld, readNew, TrieDatabase.storageRef_accounts readOld,
          TrieDatabase.storageRef_accounts readNew, accounts]
    · rw [CachedDatabase.storageRef_hit filled, CachedDatabase.storageRef_miss miss, answered]

end Reads

theorem codeByHashRef_eq (abandoned : Abandoned before states after) (codeHash : B256) :
    (after.codeByHashRef codeHash).1 =
      (writtenCode states codeHash).elim (before.codeByHashRef codeHash).1 .ok := by
  cases last : writtenCode states codeHash with
  | some code => exact CachedDatabase.codeByHashRef_hit (abandoned.code.of_written last)
  | none =>
    rw [Option.elim_none]
    rcases abandoned.code.of_unwritten last with same | ⟨miss, code, answered, filled⟩
    · cases cached : before.code codeHash with
      | some code =>
        rw [CachedDatabase.codeByHashRef_hit cached, CachedDatabase.codeByHashRef_hit (same.trans cached)]
      | none =>
        rw [CachedDatabase.codeByHashRef_miss cached, CachedDatabase.codeByHashRef_miss (same.trans cached),
          TrieDatabase.codeByHashRef, TrieDatabase.codeByHashRef, abandoned.kvdb.kept codeHash]
        rwa [writtenCode, List.getLast?_eq_none_iff, List.filterMap_eq_nil_iff] at last
    · rw [CachedDatabase.codeByHashRef_hit filled, CachedDatabase.codeByHashRef_miss miss,
        TrieDatabase.codeByHashRef, answered]
      rfl

/-- Where keys read as last written, they all read as before if and only if the writes
repeat what was read. -/
private theorem unchanged_iff {Key Value Result : Type} {now before : Key → Result}
    {written : Key → Option Value} {result : Value → Result}
    (reads : ∀ key, now key = (written key).elim (before key) result) :
    (∀ key, now key = before key) ↔ ∀ key value, written key = some value → before key = result value := by
  refine forall_congr' fun key => ?_
  rw [reads key]
  cases written key with
  | none => simp
  | some value => simp [eq_comm]

variable [LawfulTransaction Txn] [LawfulTrieDb Trie Txn]

/-- A failed block leaves all reads as they were if and only if its states repeat them. -/
theorem sameReads_iff (readable : TrieDatabase.Readable Trie KV) (abandoned : Abandoned before states after) :
    SameReads before after ↔ Repeats before states := by
  have accounts := unchanged_iff (abandoned.basicRef_eq readable)
  have storage := fun address => unchanged_iff (abandoned.storageRef_eq readable address)
  have code := unchanged_iff abandoned.codeByHashRef_eq
  constructor
  · intro same
    exact ⟨accounts.mp same.accounts, fun address => (storage address).mp (same.storage address),
      code.mp same.code⟩
  · intro repeats
    exact ⟨accounts.mpr repeats.accounts, fun address => (storage address).mpr (repeats.storage address),
      code.mpr repeats.code⟩

end Abandoned

namespace BlockExecutor

variable {Trie Txn KV Block Tx : Type} [TrieTransaction Txn] [TrieDb Trie Txn] [KeyValueDatabase KV]
variable [BlockResponse Block Tx] [Evm Block Tx]

variable (Trie KV Block Tx) in
/-- As long as all code that the EVM reads is the code of its hash, all code that it
returns is. -/
def EvmAddressed (codeOf : B256 → Bytecode) : Prop :=
  ∀ (cfg : CfgEnv) (block : Block) (tx : Tx) (db : CachedDatabase (TrieDatabase Trie KV)) result,
    CachedDatabase.Addressed codeOf db → ((Evm.replay cfg block tx).run Database.answer db).1 = .ok result →
      StateAddressed codeOf result.state

variable {codeOf : B256 → Bytecode}

private theorem afterTxs_code (hashed : EvmAddressed Trie KV Block Tx codeOf)
    (self : BlockExecutor (CachedDatabase (TrieDatabase Trie KV))) (block : Block)
    (addressed : CachedDatabase.Addressed codeOf self.db) :
    CachedDatabase.UncommittedCode codeOf self.db (self.blockStates block) (self.afterTxs block).db ∧
      ∀ state ∈ self.blockStates block, StateAddressed codeOf state := by
  refine executeTxs_invariant (fun states db => CachedDatabase.UncommittedCode codeOf self.db states db ∧
    ∀ state ∈ states, StateAddressed codeOf state) ?_ (fun _ _ read holds => ⟨holds.1.read read, holds.2⟩) _
    ⟨.start addressed, by simp⟩
  intro states db tx result holds replayed
  have comes := hashed _ block tx db result holds.1.addressed replayed
  have ran := Dialogue.run_invariant (CachedDatabase.UncommittedCode codeOf self.db states)
    (fun _ read holds => holds.read read) (Evm.replay (self.cfgEnv block) block tx) holds.1
  refine ⟨ran.commit comes, fun state member => ?_⟩
  rcases List.mem_append.mp member with earlier | last
  · exact holds.2 state earlier
  · exact List.mem_singleton.mp last ▸ comes

variable [ChecksumAddress] [LawfulKeyValueDatabase KV]

/-- Whatever happens to the executor, code stays the code of its hash. -/
theorem step_addressed (hashed : EvmAddressed Trie KV Block Tx codeOf)
    (self : BlockExecutor (CachedDatabase (TrieDatabase Trie KV))) (event : Event Block)
    (addressed : CachedDatabase.Addressed codeOf self.db) :
    CachedDatabase.Addressed codeOf (self.step event).db := by
  cases event with
  | read read => exact ((CachedDatabase.UncommittedCode.start addressed).read read).addressed
  | execute block =>
    obtain ⟨uncommitted, comes⟩ := self.afterTxs_code hashed block addressed
    have committed := uncommitted.addressed.commitBlock (BlockResponse.number block) comes
    change CachedDatabase.Addressed codeOf (self.executeBlock block).2.db
    rcases ran : self.executeBlock block with ⟨outcome, after⟩
    cases outcome with
    | ok result =>
      have last : ((self.afterTxs block).db.commitBlock _ _).2 = after.db :=
        congrArg Prod.snd (executeBlock_ok ran)
      exact last ▸ committed
    | error e =>
      rcases executeBlock_error ran with same | ⟨_, failed⟩
      · exact same.symm ▸ uncommitted.addressed
      · have last : ((self.afterTxs block).db.commitBlock _ _).2 = after.db := congrArg Prod.snd failed
        exact last ▸ committed

/-- A block that fails before its trie transaction commits is abandoned with the states of
the transactions that ran. -/
theorem executeBlock_abandoned (hashed : EvmAddressed Trie KV Block Tx codeOf)
    {self after : BlockExecutor (CachedDatabase (TrieDatabase Trie KV))} {block : Block} {e : ExecutorError}
    (addressed : CachedDatabase.Addressed codeOf self.db)
    (failed : self.executeBlock block = (.error e, after))
    (uncommitted : after.db.inner.inner = self.db.inner.inner) :
    Abandoned self.db (self.blockStates block) after.db := by
  obtain ⟨mid, -⟩ := self.afterTxs_code hashed block addressed
  rcases executeBlock_error failed with same | ⟨_, failed⟩
  · have kvdb : after.db.inner.kvdb = self.db.inner.kvdb := by rw [same, mid.inner]
    exact ⟨uncommitted, kvdb ▸ .refl _ _, same ▸ mid.accounts, same ▸ mid.storage, same ▸ mid.code⟩
  · have last : ((self.afterTxs block).db.commitBlock _ _).2 = after.db := congrArg Prod.snd failed
    have stored := TrieDatabase.commitBlock_codeFrom (self.afterTxs block).db.inner
      (BlockResponse.number block) (self.blockStates block)
    rw [mid.inner] at stored
    refine ⟨uncommitted, ?_, ?_, ?_, ?_⟩
    · rw [← last]
      change Storage.CodeFrom _ _ ((self.afterTxs block).db.inner.commitBlock _ _).2.kvdb
      rw [mid.inner]
      exact stored
    · exact last ▸ mid.accounts
    · exact last ▸ mid.storage
    · exact last ▸ mid.code

/-- For an executor that started on empty caches and went through any reads and blocks,
whether they succeeded or failed: a block that fails before the trie transaction commits
leaves all reads as they were if and only if the transactions that ran repeat them. -/
theorem atomic_iff_repeats [LawfulTransaction Txn] [LawfulTrieDb Trie Txn]
    (readable : TrieDatabase.Readable Trie KV) (hashed : EvmAddressed Trie KV Block Tx codeOf)
    (inner : TrieDatabase Trie KV)
    (stored : ∀ codeHash code, KeyValueDatabase.getCode inner.kvdb codeHash = .ok (some code) →
      code = codeOf codeHash)
    (chain : Chain) (events : List (Event Block)) (block : Block)
    {self after : BlockExecutor (CachedDatabase (TrieDatabase Trie KV))} {e : ExecutorError}
    (reached : events.foldl step ⟨CachedDatabase.new inner, chain⟩ = self)
    (failed : self.executeBlock block = (.error e, after))
    (uncommitted : after.db.inner.inner = self.db.inner.inner) :
    SameReads self.db after.db ↔ Repeats self.db (self.blockStates block) := by
  have addressed : CachedDatabase.Addressed codeOf self.db :=
    reached ▸ Runs.invariant_run (fun self => CachedDatabase.Addressed codeOf self.db) events
      (fun self event _ => step_addressed hashed self event) (.new stored)
  exact (executeBlock_abandoned hashed addressed failed uncommitted).sameReads_iff readable

end BlockExecutor

/-- States that only list what is read anyway repeat the reads. -/
theorem repeats_of_listed [Database DB] {db : DB} {states : List EvmState}
    (listed : ∀ state ∈ states, ∀ entry ∈ state.entries,
      (Database.basicRef db entry.1).1.map (Option.map AccountInfo.body) = .ok (some entry.2.info.body) ∧
      (∀ slot ∈ entry.2.storage.entries,
        (Database.storageRef db entry.1 slot.1).1 = .ok slot.2.presentValue) ∧
      entry.2.info.code = none) : Repeats db states where
  accounts address info written := by
    obtain ⟨change, last, rfl⟩ := Option.map_eq_some_iff.mp written
    obtain ⟨state, member, found⟩ := List.mem_filterMap.mp (List.mem_of_getLast? last)
    exact (listed state member ⟨address, change⟩ (AList.mem_lookup_iff.mp found)).1
  storage address slot value written := by
    obtain ⟨write, last, rfl⟩ := Option.map_eq_some_iff.mp written
    obtain ⟨change, changed, slotFound⟩ := List.mem_filterMap.mp (List.mem_of_getLast? last)
    obtain ⟨state, member, found⟩ := List.mem_filterMap.mp changed
    exact (listed state member ⟨address, change⟩ (AList.mem_lookup_iff.mp found)).2.1 ⟨slot, write⟩
      (AList.mem_lookup_iff.mp slotFound)
  code codeHash code written := by
    obtain ⟨entry, changed, comes⟩ := List.mem_filterMap.mp (List.mem_of_getLast? written)
    obtain ⟨state, member, found⟩ := List.mem_flatMap.mp changed
    rw [AccountInfo.codeFor_eq_some, (listed state member entry found).2.2] at comes
    cases comes.1

section Examples

open BlockExecutor Reference Storage

theorem scripted_addressed {Trie Txn KV : Type} [TrieTransaction Txn] [TrieDb Trie Txn]
    [KeyValueDatabase KV] : EvmAddressed Trie KV ScriptedBlock ScriptedTx codeOf := by
  intro cfg block tx db result _ replayed
  rw [Evm.replay, scriptedEvm, Dialogue.run_asking_done] at replayed
  unfold checked at replayed
  split at replayed
  · cases replayed
  · split at replayed
    · rename_i all
      cases replayed
      intro entry member codeHash code comes
      obtain ⟨held, filled, rfl⟩ := AccountInfo.codeFor_eq_some.mp comes
      simpa [held, filled] using List.all_eq_true.mp all entry member
    · cases replayed

def failing : ScriptedTx := ⟨[], .error "out of gas"⟩

/-- A block whose first transaction only looks at the account and whose second one fails. -/
def lookThenFail : ScriptedBlock :=
  ⟨1, [changing (stateOf [⟨5, { paidHolder with
    info := { balance := 10, nonce := 1, codeHash := keccakEmpty, code := none }
    touched := false
    storage := [⟨1, ⟨3⟩⟩].toAList }⟩]), failing]⟩

def payThenFail : ScriptedBlock := ⟨1, [changing (stateOf [⟨5, paidHolder⟩]), failing]⟩

theorem looked_same_reads :
    SameReads (executorOver [(5, holder)]).db ((executorOver [(5, holder)]).executeBlock lookThenFail).2.db :=
  (atomic_iff_repeats memory_readable scripted_addressed (database [(5, holder)])
    (by simp [database, KeyValueDatabase.getCode]) baseMainnet [] lookThenFail rfl rfl rfl).mpr
    (repeats_of_listed (by decide))

/-- The payment of a block that failed is read afterwards. -/
theorem failed_block_keeps_payment :
    (∃ e, ((executorOver [(5, holder)]).executeBlock payThenFail).1 = .error e) ∧
      ((executorOver [(5, holder)]).executeBlock payThenFail).2.db.inner.inner =
        (executorOver [(5, holder)]).db.inner.inner ∧
      ¬SameReads (executorOver [(5, holder)]).db
        ((executorOver [(5, holder)]).executeBlock payThenFail).2.db := by
  refine ⟨⟨_, rfl⟩, rfl, fun same => ?_⟩
  have paid := same.accounts 5
  revert paid
  decide

end Examples

end Montana.Vm
