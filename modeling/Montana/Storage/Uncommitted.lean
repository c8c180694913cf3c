import Mathlib.Data.List.Induction
import Montana.Lib.Overlay
import Montana.Storage.CachedDatabase

/-! The caches in the middle of a block: the states of its transactions lie in them,
while the trie below is still that of the block before. -/

namespace Montana.Storage

/-- What a list of changes of one account writes to one slot, in order. -/
def slotWrites (changes : List Account) (slot : U256) : List EvmStorageSlot :=
  changes.filterMap (·.storage.lookup slot)

def writtenInfo (states : List EvmState) (address : Address) : Option AccountInfo :=
  (Keyed.changesAt states address).getLast?.map Account.info

def writtenSlot (states : List EvmState) (address : Address) (slot : U256) : Option U256 :=
  (slotWrites (Keyed.changesAt states address) slot).getLast?.map EvmStorageSlot.presentValue

/-- The code that an account brings with it for a hash, unless it is empty. -/
def AccountInfo.codeFor (info : AccountInfo) (codeHash : B256) : Option Bytecode :=
  match info.code with
  | some code => if !code.isEmpty && info.codeHash = codeHash then some code else none
  | none => none

theorem AccountInfo.codeFor_eq_some {info : AccountInfo} {codeHash : B256} {code : Bytecode} :
    info.codeFor codeHash = some code ↔
      info.code = some code ∧ code.isEmpty = false ∧ info.codeHash = codeHash := by
  unfold AccountInfo.codeFor
  cases info.code with
  | none => simp
  | some held =>
    simp only [Option.ite_none_right_eq_some, Bool.and_eq_true, Bool.not_eq_true', decide_eq_true_eq,
      Option.some.injEq]
    constructor
    · rintro ⟨⟨filled, same⟩, rfl⟩
      exact ⟨rfl, filled, same⟩
    · rintro ⟨rfl, filled, same⟩
      exact ⟨⟨filled, same⟩, rfl⟩

def writtenCode (states : List EvmState) (codeHash : B256) : Option Bytecode :=
  ((states.flatMap AList.entries).filterMap (·.2.info.codeFor codeHash)).getLast?

private theorem writtenInfo_append (states : List EvmState) (state : EvmState) :
    writtenInfo (states ++ [state]) = fun address =>
      ((state.lookup address).map Account.info).or (writtenInfo states address) := by
  funext address
  rw [writtenInfo, Keyed.changesAt_append, List.getLast?_append]
  cases state.lookup address <;> rfl

private theorem writtenSlot_append (states : List EvmState) (state : EvmState) (address : Address) :
    writtenSlot (states ++ [state]) address = fun slot =>
      ((state.lookup address).bind fun account =>
        (account.storage.lookup slot).map EvmStorageSlot.presentValue).or
          (writtenSlot states address slot) := by
  funext slot
  rw [writtenSlot, slotWrites, Keyed.changesAt_append, List.filterMap_append, List.getLast?_append]
  cases found : state.lookup address with
  | none => rfl
  | some account => cases slots : account.storage.lookup slot <;> simp [slots, writtenSlot, slotWrites]

theorem cacheCode_apply (cache : B256 → Option Bytecode) (info : AccountInfo) (codeHash : B256) :
    CachedDatabase.cacheCode cache info codeHash = (info.codeFor codeHash).or (cache codeHash) := by
  unfold CachedDatabase.cacheCode AccountInfo.codeFor
  cases info.code with
  | none => rfl
  | some code =>
    by_cases same : codeHash = info.codeHash
    · subst same
      cases filled : code.isEmpty <;> simp [filled]
    · cases filled : code.isEmpty <;> simp [filled, same, Ne.symm same]

theorem cacheCodes_apply (entries : List ((_ : Address) × Account)) (cache : B256 → Option Bytecode)
    (codeHash : B256) :
    entries.foldl (fun cache entry => CachedDatabase.cacheCode cache entry.2.info) cache codeHash =
      (entries.filterMap (·.2.info.codeFor codeHash)).getLast?.or (cache codeHash) := by
  induction entries using List.reverseRecOn with
  | nil => rfl
  | append_singleton entries entry ih =>
    rw [List.foldl_append, List.foldl_cons, List.foldl_nil, cacheCode_apply, ih,
      List.filterMap_append, List.getLast?_append]
    cases found : entry.2.info.codeFor codeHash <;> simp [found]

theorem writtenCode_append (states : List EvmState) (state : EvmState) :
    writtenCode (states ++ [state]) = fun codeHash =>
      (state.entries.filterMap (·.2.info.codeFor codeHash)).getLast?.or (writtenCode states codeHash) := by
  funext codeHash
  simp [writtenCode, List.filterMap_append, List.getLast?_append]

namespace CachedDatabase

variable {Trie Txn KV : Type} [TrieTransaction Txn] [TrieDb Trie Txn] [KeyValueDatabase KV]

/-- The database after the transactions with these states and any reads; the trie is
not changed by them. -/
structure Uncommitted (before : CachedDatabase (TrieDatabase Trie KV)) (states : List EvmState)
    (db : CachedDatabase (TrieDatabase Trie KV)) : Prop where
  inner : db.inner = before.inner
  accounts : Overlaid (fun address info => before.inner.basicRef address = .ok (some info))
    before.accounts (writtenInfo states) db.accounts
  storage : ∀ address, Overlaid (fun slot value => before.inner.storageRef address slot = .ok value)
    (before.storage address) (writtenSlot states address) (db.storage address)

theorem Uncommitted.start (before : CachedDatabase (TrieDatabase Trie KV)) :
    Uncommitted before [] before :=
  ⟨rfl, Overlaid.unchanged _ _, fun _ => Overlaid.unchanged _ _⟩

section Answers

variable {self : CachedDatabase (TrieDatabase Trie KV)}

theorem basicRef_hit {address : Address} {info : AccountInfo} (hit : self.accounts address = some info) :
    (self.basicRef address).1 = .ok (some info) := by
  rw [basicRef, hit]

theorem basicRef_miss {address : Address} (miss : self.accounts address = none) :
    (self.basicRef address).1 = self.inner.basicRef address := by
  rw [basicRef, miss]
  dsimp only [Database.basicRef]
  rcases self.inner.basicRef address with e | info
  · rfl
  · cases info <;> rfl

theorem storageRef_hit {address : Address} {slot value : U256}
    (hit : self.storage address slot = some value) : (self.storageRef address slot).1 = .ok value := by
  rw [storageRef, hit]

theorem storageRef_miss {address : Address} {slot : U256} (miss : self.storage address slot = none) :
    (self.storageRef address slot).1 = self.inner.storageRef address slot := by
  rw [storageRef, miss]
  dsimp only [Database.storageRef]
  cases self.inner.storageRef address slot <;> rfl

theorem codeByHashRef_hit {codeHash : B256} {code : Bytecode} (hit : self.code codeHash = some code) :
    (self.codeByHashRef codeHash).1 = .ok code := by
  rw [codeByHashRef, hit]

theorem codeByHashRef_miss {codeHash : B256} (miss : self.code codeHash = none) :
    (self.codeByHashRef codeHash).1 = self.inner.codeByHashRef codeHash := by
  rw [codeByHashRef, miss]
  dsimp only [Database.codeByHashRef]
  cases self.inner.codeByHashRef codeHash with
  | error e => rfl
  | ok code => cases filled : code.isEmpty <;> simp [filled]

end Answers

/-- A read of an account caches it after a miss, and its code with it. -/
theorem basicRef_cases (self : CachedDatabase (TrieDatabase Trie KV)) (address : Address) :
    (self.basicRef address).2 = self ∨
      ∃ info, self.accounts address = none ∧ self.inner.basicRef address = .ok (some info) ∧
        (self.basicRef address).2 = { self with
          accounts := Function.update self.accounts address (some info)
          code := cacheCode self.code info } := by
  unfold basicRef
  cases hit : self.accounts address with
  | some info => exact .inl rfl
  | none =>
    dsimp only [Database.basicRef]
    cases self.inner.basicRef address with
    | error e => exact .inl rfl
    | ok info =>
      cases info with
      | none => exact .inl rfl
      | some info => exact .inr ⟨info, rfl, rfl, rfl⟩

theorem codeByHashRef_cases (self : CachedDatabase (TrieDatabase Trie KV)) (codeHash : B256) :
    (self.codeByHashRef codeHash).2 = self ∨
      ∃ code, self.code codeHash = none ∧ self.inner.codeByHashRef codeHash = .ok code ∧
        code.isEmpty = false ∧ (self.codeByHashRef codeHash).2 = { self with
          code := Function.update self.code codeHash (some code) } := by
  unfold codeByHashRef
  cases hit : self.code codeHash with
  | some code => exact .inl rfl
  | none =>
    dsimp only [Database.codeByHashRef]
    cases self.inner.codeByHashRef codeHash with
    | error e => exact .inl rfl
    | ok code =>
      cases filled : code.isEmpty with
      | true => exact .inl (by simp [filled])
      | false => exact .inr ⟨code, rfl, rfl, filled, by simp [filled]⟩

theorem storageRef_cases (self : CachedDatabase (TrieDatabase Trie KV)) (address : Address) (slot : U256) :
    (self.storageRef address slot).2 = self ∨
      ∃ value, self.storage address slot = none ∧ self.inner.storageRef address slot = .ok value ∧
        (self.storageRef address slot).2 = { self with
          storage := Function.update self.storage address
            (Function.update (self.storage address) slot (some value)) } := by
  unfold storageRef
  cases hit : self.storage address slot with
  | some value => exact .inl rfl
  | none =>
    dsimp only [Database.storageRef]
    cases self.inner.storageRef address slot with
    | error e => exact .inl rfl
    | ok value => exact .inr ⟨value, rfl, rfl, rfl⟩

theorem blockHashRef_frame (self : CachedDatabase (TrieDatabase Trie KV)) (blockNumber : Nat) :
    ∃ blockHashes, (self.blockHashRef blockNumber).2 = { self with blockHashes } := by
  unfold blockHashRef
  cases self.blockHashes blockNumber with
  | some hash => exact ⟨_, rfl⟩
  | none => exact ⟨_, rfl⟩

/-- Reads leave the writes of the block in place. -/
theorem Uncommitted.read {before db : CachedDatabase (TrieDatabase Trie KV)} {states : List EvmState}
    (uncommitted : Uncommitted before states db) (read : Read) :
    Uncommitted before states (Database.answer db read).2 := by
  obtain ⟨inner, accounts, storage⟩ := uncommitted
  cases read with
  | basic address =>
    change Uncommitted before states (db.basicRef address).2
    rcases basicRef_cases db address with same | ⟨info, miss, answered, filled⟩
    · rw [same]
      exact ⟨inner, accounts, storage⟩
    · rw [filled]
      exact ⟨inner, accounts.fill miss (inner ▸ answered), storage⟩
  | codeByHash codeHash =>
    change Uncommitted before states (db.codeByHashRef codeHash).2
    rcases codeByHashRef_cases db codeHash with same | ⟨code, -, -, -, filled⟩
    · rw [same]
      exact ⟨inner, accounts, storage⟩
    · rw [filled]
      exact ⟨inner, accounts, storage⟩
  | storage address slot =>
    change Uncommitted before states (db.storageRef address slot).2
    rcases storageRef_cases db address slot with same | ⟨value, miss, answered, filled⟩
    · rw [same]
      exact ⟨inner, accounts, storage⟩
    · rw [filled]
      refine ⟨inner, accounts, fun other => ?_⟩
      dsimp only
      by_cases same : other = address
      · subst same
        rw [Function.update_self]
        exact (storage other).fill miss (inner ▸ answered)
      · rw [Function.update_of_ne same]
        exact storage other
  | blockHash blockNumber =>
    change Uncommitted before states (db.blockHashRef blockNumber).2
    obtain ⟨blockHashes, filled⟩ := blockHashRef_frame db blockNumber
    rw [filled]
    exact ⟨inner, accounts, storage⟩

omit [TrieTransaction Txn] [TrieDb Trie Txn] [KeyValueDatabase KV] in
theorem commit_accounts (self : CachedDatabase (TrieDatabase Trie KV)) (state : EvmState) :
    (self.commit state).accounts = fun address =>
      ((state.lookup address).map Account.info).or (self.accounts address) := by
  funext address
  refine (Keyed.applyMap_apply _ _ _ _).trans ?_
  cases state.lookup address <;> rfl

omit [TrieTransaction Txn] [TrieDb Trie Txn] [KeyValueDatabase KV] in
theorem commit_storage (self : CachedDatabase (TrieDatabase Trie KV)) (state : EvmState)
    (address : Address) :
    (self.commit state).storage address = fun slot =>
      ((state.lookup address).bind fun account =>
        (account.storage.lookup slot).map EvmStorageSlot.presentValue).or (self.storage address slot) := by
  funext slot
  refine (congrFun (Keyed.applyMap_apply _ _ _ _) slot).trans ?_
  cases state.lookup address with
  | none => rfl
  | some account =>
    refine (Keyed.applyMap_apply _ _ _ _).trans ?_
    cases found : account.storage.lookup slot <;> simp [found]

/-- The state of a transaction is written over what the caches hold. -/
theorem Uncommitted.commit {before db : CachedDatabase (TrieDatabase Trie KV)} {states : List EvmState}
    (uncommitted : Uncommitted before states db) (state : EvmState) :
    Uncommitted before (states ++ [state]) (db.commit state) where
  inner := uncommitted.inner
  accounts := by
    rw [writtenInfo_append, commit_accounts]
    exact uncommitted.accounts.write _
  storage address := by
    rw [writtenSlot_append, commit_storage]
    exact (uncommitted.storage address).write _

end CachedDatabase

end Montana.Storage
