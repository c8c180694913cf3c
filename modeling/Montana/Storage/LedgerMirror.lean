import Montana.Storage.Answers
import Montana.Storage.Ledger

/-! The caches over a trie database answer every read as a ledger does, in the middle of a
block and after it, as long as no account is destroyed. -/

namespace Montana.Storage

/-- No account of the state is destroyed. -/
def EvmState.KeepsAccounts (state : EvmState) : Prop :=
  ∀ entry ∈ state.entries, ¬entry.2.isSelfdestructed

instance (state : EvmState) : Decidable state.KeepsAccounts :=
  inferInstanceAs (Decidable (∀ entry ∈ state.entries, ¬entry.2.isSelfdestructed))

section Mirror

variable {Trie Txn KV : Type} [TrieTransaction Txn] [TrieDb Trie Txn] [KeyValueDatabase KV]
variable [LawfulTransaction Txn] [LawfulTrieDb Trie Txn]
variable {rootOf : (Address → Option Leaf) → B256} {codeOf : B256 → Bytecode}

/-- In the middle of a block, after transactions with these states: the caches answer as the
ledger does, to which the transactions have been applied. The trie is still that of the
start of the block, and has the code of each account that is read from it. -/
structure Mirrors (codeOf : B256 → Bytecode) (ledger : Ledger rootOf)
    (start : CachedDatabase (TrieDatabase Trie KV)) (states : List EvmState)
    (db : CachedDatabase (TrieDatabase Trie KV)) : Prop
    extends CachedDatabase.UncommittedCode codeOf start states db where
  answers : SameAnswers db ledger
  leaves : ledger.leaves = Keyed.applyMaps commitAccount start.inner.accounts states
  comes : ∀ state ∈ states, StateAddressed codeOf state
  kept : ∀ state ∈ states, EvmState.KeepsAccounts state
  complete : ∀ address info, start.accounts address = none →
    start.inner.basicRef address = .ok (some info) → info.codeHash ≠ keccakEmpty → info.code.isSome

namespace Mirrors

variable {ledger : Ledger rootOf} {start db : CachedDatabase (TrieDatabase Trie KV)} {states : List EvmState}

theorem read (mirrors : Mirrors codeOf ledger start states db) (read : Read) :
    (Database.answer db read).1 = (Database.answer ledger read).1 ∧
      Mirrors codeOf ledger start states (Database.answer db read).2 := by
  refine ⟨mirrors.answers.answer read, ?_⟩
  have same := CachedDatabase.answer_read mirrors.addressed read
  exact { mirrors with
    toUncommittedCode := mirrors.toUncommittedCode.read read
    answers := same.trans mirrors.answers }

/-- Between two blocks the caches start over from what they hold. -/
theorem rebase (mirrors : Mirrors codeOf ledger start [] db) : Mirrors codeOf ledger db [] db := by
  have leaves : ledger.leaves = start.inner.accounts := mirrors.leaves
  refine ⟨.start mirrors.addressed, mirrors.answers, ?_, mirrors.comes, mirrors.kept, ?_⟩
  · rw [leaves, mirrors.inner]
    rfl
  · intro address info miss read
    exact mirrors.complete address info (mirrors.accounts.missed miss).2 (mirrors.inner ▸ read)

/-- The state of a transaction reaches the caches and the ledger. -/
theorem commit (mirrors : Mirrors codeOf ledger start states db) {state : EvmState}
    (comes : StateAddressed codeOf state) (kept : EvmState.KeepsAccounts state) :
    Mirrors codeOf (ledger.commit state) start (states ++ [state]) (db.commit state) := by
  have inner : (db.commit state).inner = db.inner := rfl
  have changed (address : Address) (account : Account) (found : state.lookup address = some account) :
      (ledger.commit state).accounts address = some {
        info := account.info
        storage slot := ((account.storage.lookup slot).map EvmStorageSlot.presentValue).getD
          (LedgerAccount.slot (ledger.accounts address) slot) } := by
    rw [Ledger.commit_accounts, found]
    exact if_neg (kept ⟨address, account⟩ (AList.mem_lookup_iff.mp found))
  have unchanged (address : Address) (absent : state.lookup address = none) :
      (ledger.commit state).accounts address = ledger.accounts address := by
    rw [Ledger.commit_accounts, absent]
  have listed {Holds : EvmState → Prop} (before : ∀ state ∈ states, Holds state) (last : Holds state) :
      ∀ state' ∈ states ++ [state], Holds state' := by
    intro state' member
    rcases List.mem_append.mp member with earlier | new
    · exact before state' earlier
    · exact List.mem_singleton.mp new ▸ last
  refine ⟨mirrors.toUncommittedCode.commit comes, ⟨?_, ?_, ?_, ?_⟩, ?_, listed mirrors.comes comes,
    listed mirrors.kept kept, mirrors.complete⟩
  · intro address
    have cached := congrFun (CachedDatabase.commit_accounts db state) address
    have before : (db.basicRef address).1 = .ok ((ledger.accounts address).map LedgerAccount.info) :=
      mirrors.answers.basic address
    change _ = Except.ok (((ledger.commit state).accounts address).map LedgerAccount.info)
    cases found : state.lookup address with
    | some account =>
      rw [found, Option.map_some, Option.some_or] at cached
      rw [changed address account found]
      exact CachedDatabase.basicRef_hit cached
    | none =>
      rw [found, Option.map_none, Option.none_or] at cached
      rw [unchanged address found]
      exact (CachedDatabase.basicRef_congr inner cached).trans before
  · intro address slot
    have cached := congrFun (CachedDatabase.commit_storage db state address) slot
    change _ = Except.ok (LedgerAccount.slot ((ledger.commit state).accounts address) slot)
    have before : (db.storageRef address slot).1 =
        .ok (LedgerAccount.slot (ledger.accounts address) slot) := mirrors.answers.storage address slot
    cases found : state.lookup address with
    | some account =>
      rw [changed address account found]
      cases written : account.storage.lookup slot with
      | some value =>
        rw [found, Option.bind_some, written, Option.map_some, Option.some_or] at cached
        change _ = Except.ok (((account.storage.lookup slot).map EvmStorageSlot.presentValue).getD _)
        rw [written]
        exact CachedDatabase.storageRef_hit cached
      | none =>
        rw [found, Option.bind_some, written, Option.map_none, Option.none_or] at cached
        change _ = Except.ok (((account.storage.lookup slot).map EvmStorageSlot.presentValue).getD _)
        rw [written]
        exact (CachedDatabase.storageRef_congr inner cached).trans before
    | none =>
      rw [found, Option.bind_none, Option.none_or] at cached
      rw [unchanged address found]
      exact (CachedDatabase.storageRef_congr inner cached).trans before
  · intro codeHash
    have cached : (db.commit state).code codeHash = _ := cacheCodes_apply state.entries db.code codeHash
    have before : (db.codeByHashRef codeHash).1 = .ok ((ledger.codes codeHash).getD []) :=
      mirrors.answers.code codeHash
    change _ = Except.ok (((ledger.commit state).codes codeHash).getD [])
    rw [Ledger.commit_codes]
    cases last : (state.entries.filterMap (·.2.info.codeFor codeHash)).getLast? with
    | some code =>
      rw [last, Option.some_or] at cached
      exact CachedDatabase.codeByHashRef_hit cached
    | none =>
      rw [last, Option.none_or] at cached
      exact (CachedDatabase.codeByHashRef_congr inner cached).trans before
  · intro blockNumber
    have before : (db.blockHashRef blockNumber).1 = .ok 0 := mirrors.answers.blockHash blockNumber
    have cached : ((db.commit state).blockHashRef blockNumber).1 = (db.blockHashRef blockNumber).1 :=
      CachedDatabase.blockHashRef_congr rfl
    exact cached.trans before
  · rw [Ledger.commit_leaves, mirrors.leaves, Keyed.applyMaps, Keyed.applyMaps, List.foldl_append]
    rfl

/-- Where nothing is cached the block has changed nothing. -/
theorem changesAt_of_miss (mirrors : Mirrors codeOf ledger start states db) {address : Address}
    (miss : db.accounts address = none) : Keyed.changesAt states address = [] := by
  have unwritten := (mirrors.accounts.missed miss).1
  rw [writtenInfo, Option.map_eq_none_iff] at unwritten
  exact List.getLast?_eq_none_iff.mp unwritten

private theorem changesAt_kept (mirrors : Mirrors codeOf ledger start states db) (address : Address) :
    (Keyed.changesAt states address).any Account.isSelfdestructed = false := by
  refine List.any_eq_false.mpr fun change member => ?_
  obtain ⟨state, listed, found⟩ := List.mem_filterMap.mp member
  exact mirrors.kept state listed ⟨address, change⟩ (AList.mem_lookup_iff.mp found)

section Committed

variable {trie : TrieDatabase Trie KV} {blockNumber : Nat} {root : B256}

private theorem committed_account (mirrors : Mirrors codeOf ledger start states db)
    (committed : db.inner.commitBlock blockNumber states = (.ok root, trie)) (address : Address) :
    trie.accounts address =
      commitChanges (Keyed.changesAt states address) (start.inner.accounts address) := by
  rw [TrieDatabase.commitBlock_accounts committed, mirrors.inner, Keyed.applyMaps_apply]
  rfl

private theorem committed_storageRef (readable : TrieDatabase.Readable Trie KV)
    (mirrors : Mirrors codeOf ledger start states db)
    (committed : db.inner.commitBlock blockNumber states = (.ok root, trie)) {address : Address}
    {slot : U256} (miss : db.storage address slot = none) :
    trie.storageRef address slot = start.inner.storageRef address slot := by
  obtain ⟨after, readAfter⟩ := readable.storageRef trie address slot
  obtain ⟨before, readBefore⟩ := readable.storageRef start.inner address slot
  have kept := mirrors.changesAt_kept address
  have unwritten := ((mirrors.storage address).missed miss).1
  rw [writtenSlot, Option.map_eq_none_iff, ← sinceDestroyed_of_none kept] at unwritten
  rw [readAfter, readBefore, TrieDatabase.storageRef_accounts readAfter,
    TrieDatabase.storageRef_accounts readBefore, mirrors.committed_account committed,
    commitChanges_slot, unwritten, kept]
  rfl

variable [LawfulKeyValueDatabase KV]

/-- All code in the store is still the code of its hash. -/
theorem committed_stored (mirrors : Mirrors codeOf ledger start states db)
    (committed : db.inner.commitBlock blockNumber states = (.ok root, trie)) {codeHash : B256}
    {code : Bytecode} (stored : KeyValueDatabase.getCode trie.kvdb codeHash = .ok (some code)) :
    code = codeOf codeHash := by
  have codeFrom := TrieDatabase.commitBlock_codeFrom db.inner blockNumber states
  rw [committed] at codeFrom
  rcases codeFrom.added codeHash code stored with stored | ⟨entry, member, found⟩
  · exact mirrors.addressed.stored codeHash code stored
  · obtain ⟨state, listed, member⟩ := List.mem_flatMap.mp member
    exact mirrors.comes state listed entry member codeHash code found

private theorem committed_codeByHashRef (mirrors : Mirrors codeOf ledger start states db)
    (committed : db.inner.commitBlock blockNumber states = (.ok root, trie)) {codeHash : B256}
    (miss : db.code codeHash = none) : trie.codeByHashRef codeHash = db.inner.codeByHashRef codeHash := by
  have unwritten := (mirrors.code.missed miss).1
  rw [writtenCode, List.getLast?_eq_none_iff, List.filterMap_eq_nil_iff] at unwritten
  have codeFrom := TrieDatabase.commitBlock_codeFrom db.inner blockNumber states
  rw [committed] at codeFrom
  rw [TrieDatabase.codeByHashRef, codeFrom.kept codeHash unwritten, ← TrieDatabase.codeByHashRef]

variable [DurableKeyValueDatabase KV]

private theorem committed_code (mirrors : Mirrors codeOf ledger start states db)
    (committed : db.inner.commitBlock blockNumber states = (.ok root, trie)) {codeHash : B256}
    {code : Bytecode} (stored : KeyValueDatabase.getCode start.inner.kvdb codeHash = .ok (some code)) :
    KeyValueDatabase.getCode trie.kvdb codeHash = .ok (some code) := by
  rw [← mirrors.inner] at stored
  have kept : HasCode codeHash (db.inner.commitBlock blockNumber states).2.kvdb :=
    TrieDatabase.commitBlock_keeps (fun _ other written has => has.setCode other written)
      (fun _ number header has => has.setHeader number header) blockNumber states ⟨code, stored⟩
  rw [committed] at kept
  obtain ⟨held, read⟩ := kept
  rw [read, mirrors.committed_stored committed read, mirrors.addressed.stored codeHash code stored]

/-- An account that is not cached reads as before the block. -/
theorem committed_basicRef (readable : TrieDatabase.Readable Trie KV)
    (mirrors : Mirrors codeOf ledger start states db)
    (committed : db.inner.commitBlock blockNumber states = (.ok root, trie)) {address : Address}
    (miss : db.accounts address = none) : trie.basicRef address = start.inner.basicRef address := by
  obtain ⟨after, readAfter⟩ := readable.basicRef trie address
  obtain ⟨before, readBefore⟩ := readable.basicRef start.inner address
  have bodies : after.map AccountInfo.body = before.map AccountInfo.body := by
    rw [TrieDatabase.basicRef_accounts readAfter, TrieDatabase.basicRef_accounts readBefore,
      mirrors.committed_account committed, mirrors.changesAt_of_miss miss]
    rfl
  rw [readAfter, readBefore]
  cases before with
  | none =>
    rw [Option.map_none, Option.map_eq_none_iff] at bodies
    rw [bodies]
  | some info =>
    obtain ⟨later, rfl, same⟩ := Option.map_eq_some_iff.mp bodies
    have hash : later.codeHash = info.codeHash := congrArg AccountBody.codeHash same
    have code : later.code = info.code := by
      have loadedAfter := TrieDatabase.basicRef_loadCode readAfter
      have loadedBefore := TrieDatabase.basicRef_loadCode readBefore
      rw [hash] at loadedAfter
      by_cases plain : info.codeHash = keccakEmpty
      · rw [TrieDatabase.loadCode, if_neg (not_not_intro plain)] at loadedAfter loadedBefore
        exact Except.ok.inj (loadedAfter.symm.trans loadedBefore)
      · have uncached := (mirrors.accounts.missed miss).2
        obtain ⟨code, present⟩ := Option.isSome_iff_exists.mp
          (mirrors.complete address info uncached readBefore plain)
        rw [TrieDatabase.loadCode, if_pos plain] at loadedAfter loadedBefore
        rw [present] at loadedBefore ⊢
        have kept := mirrors.committed_code committed loadedBefore
        exact Except.ok.inj (loadedAfter.symm.trans kept)
    obtain ⟨balance, nonce, codeHash, _⟩ := later
    cases code
    cases same
    rfl

/-- A block that is committed changes no answer, and the trie has caught up with the ledger. -/
theorem commitBlock (readable : TrieDatabase.Readable Trie KV)
    (rooted : ∀ trie : Trie, TrieDb.stateRoot trie = rootOf (LawfulTrieDb.view trie))
    (mirrors : Mirrors codeOf ledger start states db) {after : CachedDatabase (TrieDatabase Trie KV)}
    (committed : db.commitBlock blockNumber states = (.ok root, after)) :
    root = rootOf ledger.leaves ∧ Mirrors codeOf ledger after [] after := by
  unfold CachedDatabase.commitBlock at committed
  rcases below : Database.commitBlock db.inner blockNumber states with ⟨outcome, trie⟩
  rw [below] at committed
  obtain ⟨rfl, rfl⟩ := Prod.mk.inj committed
  have applied : trie.accounts = ledger.leaves := by
    rw [TrieDatabase.commitBlock_accounts below, mirrors.inner, ← mirrors.leaves]
  have addressed : CachedDatabase.Addressed codeOf { db with inner := trie } :=
    ⟨mirrors.addressed.cached, fun _ _ => mirrors.committed_stored below⟩
  have same : SameAnswers { db with inner := trie } db := by
    refine ⟨fun address => ?_, fun address slot => ?_, fun codeHash => ?_, fun _ => ?_⟩
    · refine CachedDatabase.basicRef_eq.trans (Eq.trans ?_ CachedDatabase.basicRef_eq.symm)
      cases cached : db.accounts address with
      | some info => rfl
      | none =>
        rw [mirrors.inner]
        exact mirrors.committed_basicRef readable below cached
    · refine CachedDatabase.storageRef_eq.trans (Eq.trans ?_ CachedDatabase.storageRef_eq.symm)
      cases cached : db.storage address slot with
      | some value => rfl
      | none =>
        rw [mirrors.inner]
        exact mirrors.committed_storageRef readable below cached
    · refine CachedDatabase.codeByHashRef_eq.trans (Eq.trans ?_ CachedDatabase.codeByHashRef_eq.symm)
      cases cached : db.code codeHash with
      | some code => rfl
      | none => exact mirrors.committed_codeByHashRef below cached
    · exact CachedDatabase.blockHashRef_congr rfl
  refine ⟨?_, .start addressed, same.trans mirrors.answers, applied.symm,
    fun _ member => (List.not_mem_nil member).elim, fun _ member => (List.not_mem_nil member).elim, ?_⟩
  · rw [TrieDatabase.commitBlock_root below, rooted, ← applied]
    rfl
  · intro address info miss read coded
    have before := mirrors.committed_basicRef readable below miss
    exact mirrors.complete address info (mirrors.accounts.missed miss).2 (before.symm.trans read) coded

end Committed

end Mirrors

/-- An account of the trie, with the code that is stored for it. -/
def LedgerAccount.of (inner : TrieDatabase Trie KV) (leaf : Leaf) : LedgerAccount where
  info := {
    balance := leaf.body.balance
    nonce := leaf.body.nonce
    codeHash := leaf.body.codeHash
    code := (inner.loadCode leaf.body.codeHash).toOption.getD none }
  storage slot := (leaf.storage slot).getD 0

/-- The ledger that a trie database stands for. -/
def Ledger.of (rootOf : (Address → Option Leaf) → B256) (inner : TrieDatabase Trie KV) : Ledger rootOf where
  accounts address := (inner.accounts address).map (LedgerAccount.of inner)
  codes codeHash := (KeyValueDatabase.getCode inner.kvdb codeHash).toOption.getD none

/-- The codes of all accounts are stored, each under its hash, and no slot holds a zero. -/
structure TrieDatabase.Sound (codeOf : B256 → Bytecode) (inner : TrieDatabase Trie KV) : Prop where
  codes : ∀ codeHash, ∃ code, KeyValueDatabase.getCode inner.kvdb codeHash = .ok code
  addressed : ∀ codeHash code, KeyValueDatabase.getCode inner.kvdb codeHash = .ok (some code) →
    code = codeOf codeHash
  complete : ∀ address leaf, inner.accounts address = some leaf → leaf.body.codeHash ≠ keccakEmpty →
    ∃ code, KeyValueDatabase.getCode inner.kvdb leaf.body.codeHash = .ok (some code)
  nonzero : ∀ address leaf slot, inner.accounts address = some leaf → leaf.storage slot ≠ some 0

variable {inner : TrieDatabase Trie KV}

private theorem Ledger.of_leaves (sound : inner.Sound codeOf) :
    (Ledger.of rootOf inner).leaves = inner.accounts := by
  funext address
  change ((inner.accounts address).map _).map LedgerAccount.leaf = _
  cases stored : inner.accounts address with
  | none => rfl
  | some leaf =>
    have storage (slot : U256) : (if (leaf.storage slot).getD 0 = 0 then none
        else some ((leaf.storage slot).getD 0)) = leaf.storage slot := by
      cases value : leaf.storage slot with
      | none => rfl
      | some value' =>
        refine if_neg fun zero : value' = 0 => sound.nonzero address leaf slot stored ?_
        rw [value, zero]
    exact congrArg some (congrArg (Leaf.mk leaf.body) (funext storage))

/-- An account of the trie is read with the code that is stored for it. -/
theorem Ledger.of_basicRef (readable : TrieDatabase.Readable Trie KV) (address : Address) :
    inner.basicRef address = .ok (((Ledger.of rootOf inner).accounts address).map LedgerAccount.info) := by
  obtain ⟨stored, read⟩ := readable.basicRef inner address
  have body := TrieDatabase.basicRef_accounts read
  change _ = Except.ok (((inner.accounts address).map _).map LedgerAccount.info)
  rw [read]
  cases found : inner.accounts address with
  | none =>
    rw [found, Option.map_none, Option.map_eq_none_iff] at body
    rw [body]
    rfl
  | some leaf =>
    rw [found, Option.map_some] at body
    obtain ⟨info, rfl, same⟩ := Option.map_eq_some_iff.mp body
    have loaded := TrieDatabase.basicRef_loadCode read
    obtain ⟨balance, nonce, codeHash, code⟩ := info
    obtain ⟨body, storage⟩ := leaf
    cases same
    simp only [Option.map_some, LedgerAccount.of, loaded]
    rfl

private theorem Ledger.of_answers (readable : TrieDatabase.Readable Trie KV) (sound : inner.Sound codeOf) :
    SameAnswers (CachedDatabase.new inner) (Ledger.of rootOf inner) where
  basic address := (CachedDatabase.basicRef_miss rfl).trans (Ledger.of_basicRef readable address)
  storage address slot := by
    refine (CachedDatabase.storageRef_miss rfl).trans ?_
    obtain ⟨value, read⟩ := readable.storageRef inner address slot
    change inner.storageRef address slot = Except.ok (LedgerAccount.slot ((inner.accounts address).map _) slot)
    rw [read, TrieDatabase.storageRef_accounts read]
    cases inner.accounts address <;> rfl
  code codeHash := by
    refine (CachedDatabase.codeByHashRef_miss rfl).trans ?_
    obtain ⟨code, read⟩ := sound.codes codeHash
    change inner.codeByHashRef codeHash =
      Except.ok (((KeyValueDatabase.getCode inner.kvdb codeHash).toOption.getD none).getD [])
    rw [TrieDatabase.codeByHashRef, read]
    rfl
  blockHash _ := rfl

/-- Empty caches over a sound database answer as its ledger. -/
theorem Mirrors.new (readable : TrieDatabase.Readable Trie KV) (sound : inner.Sound codeOf) :
    Mirrors codeOf (Ledger.of rootOf inner) (CachedDatabase.new inner) [] (CachedDatabase.new inner) := by
  refine ⟨.start (.new sound.addressed), Ledger.of_answers readable sound, Ledger.of_leaves sound,
    fun _ member => (List.not_mem_nil member).elim, fun _ member => (List.not_mem_nil member).elim, ?_⟩
  intro address info _ read coded
  have read : inner.basicRef address = .ok (some info) := read
  have body := TrieDatabase.basicRef_accounts read
  obtain ⟨leaf, found, same⟩ := Option.map_eq_some_iff.mp body.symm
  have hash : leaf.body.codeHash = info.codeHash := congrArg AccountBody.codeHash same
  obtain ⟨code, stored⟩ := sound.complete address leaf found (hash ▸ coded)
  have loaded := TrieDatabase.basicRef_loadCode read
  rw [TrieDatabase.loadCode, if_pos coded, ← hash, stored] at loaded
  exact Except.ok.inj loaded ▸ rfl

end Mirror

end Montana.Storage
