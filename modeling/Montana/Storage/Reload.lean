import Montana.Storage.FirstStart

/-! What a trie database that was closed is read as: each account comes with the code that
is stored for it, and one without code with none. -/

namespace Montana.Storage

section Codes

/-- An empty code is none. -/
def AccountInfo.trim (info : AccountInfo) : AccountInfo :=
  { info with code := info.code.filter fun code => !code.isEmpty }

def Account.trim (account : Account) : Account := { account with info := account.info.trim }

def EvmState.trim (state : EvmState) : EvmState := Keyed.mapValues Account.trim state

def LedgerAccount.trim (self : LedgerAccount) : LedgerAccount := { self with info := self.info.trim }

def Read.trim : (read : Read) → read.Answer → read.Answer
  | .basic _, answer => answer.map (Option.map AccountInfo.trim)
  | .codeByHash _, answer | .storage _ _, answer | .blockHash _, answer => answer

/-- An account comes with its code, unless its hash is that of the empty code. -/
def AccountInfo.Coded (info : AccountInfo) : Prop := info.trim.code = none ↔ info.codeHash = keccakEmpty

instance (info : AccountInfo) : Decidable info.Coded :=
  inferInstanceAs (Decidable (info.trim.code = none ↔ info.codeHash = keccakEmpty))

private theorem AccountInfo.trim_code_eq_some {info : AccountInfo} {code : Bytecode} :
    info.trim.code = some code ↔ info.code = some code ∧ code.isEmpty = false := by
  rw [trim, Option.filter_eq_some_iff, Bool.not_eq_true']

private theorem AccountInfo.codeFor_eq (info : AccountInfo) (codeHash : B256) :
    info.codeFor codeHash = if info.codeHash = codeHash then info.trim.code else none := by
  unfold codeFor trim
  cases info.code with
  | none => simp
  | some code =>
    by_cases same : info.codeHash = codeHash
    · cases filled : code.isEmpty <;> simp [filled, same, Option.filter]
    · simp [same]

private theorem AccountInfo.codeHash_of_trim {left right : AccountInfo} (alike : left.trim = right.trim) :
    left.codeHash = right.codeHash := by
  have hash : left.trim.codeHash = right.trim.codeHash := congrArg AccountInfo.codeHash alike
  exact hash

private theorem AccountInfo.codeFor_of_trim {left right : AccountInfo} (alike : left.trim = right.trim)
    (codeHash : B256) : left.codeFor codeHash = right.codeFor codeHash := by
  rw [codeFor_eq, codeFor_eq, codeHash_of_trim alike, alike]

theorem AccountInfo.Coded.of_trim {left right : AccountInfo} (coded : left.Coded)
    (alike : left.trim = right.trim) : right.Coded := by
  rwa [Coded, ← alike, ← codeHash_of_trim alike]

/-- A code that comes for a hash is not that of the empty code. -/
theorem AccountInfo.Coded.hash_ne {info : AccountInfo} (coded : info.Coded) {codeHash : B256}
    {code : Bytecode} (comes : info.codeFor codeHash = some code) : codeHash ≠ keccakEmpty := by
  obtain ⟨held, filled, rfl⟩ := AccountInfo.codeFor_eq_some.mp comes
  have some := AccountInfo.trim_code_eq_some.mpr ⟨held, filled⟩
  intro plain
  rw [coded.mpr plain] at some
  cases some

@[simp] theorem AccountInfo.trim_trim (info : AccountInfo) : info.trim.trim = info.trim := by
  simp [trim, Option.filter_filter]

private theorem EvmState.lookup_trim (state : EvmState) (address : Address) :
    state.trim.lookup address = (state.lookup address).map Account.trim :=
  Keyed.lookup_mapValues Account.trim state address

/-- The codes of a state are not trimmed away. -/
theorem EvmState.codeFor_trim (state : EvmState) (codeHash : B256) :
    state.trim.entries.filterMap (·.2.info.codeFor codeHash) =
      state.entries.filterMap (·.2.info.codeFor codeHash) := by
  have entries : state.trim.entries = state.entries.map (Sigma.map id fun _ => Account.trim) := rfl
  rw [entries, List.filterMap_map]
  refine List.filterMap_congr fun entry _ => ?_
  exact AccountInfo.codeFor_of_trim (AccountInfo.trim_trim entry.2.info) codeHash

theorem EvmState.keepsAccounts_trim {state : EvmState} : state.trim.KeepsAccounts ↔ state.KeepsAccounts :=
  List.forall_mem_map

/-- Each account of the state comes with its code. -/
def EvmState.Coded (state : EvmState) : Prop := ∀ entry ∈ state.entries, entry.2.info.Coded

instance (state : EvmState) : Decidable state.Coded :=
  inferInstanceAs (Decidable (∀ entry ∈ state.entries, entry.2.info.Coded))

end Codes

private theorem LedgerAccount.slot_trim (self : Option LedgerAccount) (slot : U256) :
    LedgerAccount.slot (self.map LedgerAccount.trim) slot = LedgerAccount.slot self slot := by
  cases self <;> rfl

/-- What a transaction makes of an account that is trimmed. -/
theorem LedgerAccount.change_trim (account : Account) (self : Option LedgerAccount) :
    (LedgerAccount.change account self).map LedgerAccount.trim =
      LedgerAccount.change account.trim (self.map LedgerAccount.trim) := by
  unfold LedgerAccount.change
  by_cases destroyed : account.isSelfdestructed
  · rw [if_pos destroyed, if_pos (show account.trim.isSelfdestructed = true from destroyed)]
    rfl
  · rw [if_neg destroyed, if_neg (show ¬account.trim.isSelfdestructed = true from destroyed), Option.map_some]
    have storage (slot : U256) : ((account.storage.lookup slot).map EvmStorageSlot.presentValue).getD
          (LedgerAccount.slot self slot) =
        ((account.storage.lookup slot).map EvmStorageSlot.presentValue).getD
          (LedgerAccount.slot (self.map LedgerAccount.trim) slot) := by
      rw [LedgerAccount.slot_trim]
    exact congrArg some (congrArg (LedgerAccount.mk _) (funext storage))

namespace Ledger

variable {rootOf : (Address → Option Leaf) → B256} {codeOf : B256 → Bytecode}

/-- The code of each account is at hand, under its hash. -/
structure Coded (codeOf : B256 → Bytecode) (ledger : Ledger rootOf) : Prop where
  addressed : ∀ codeHash code, ledger.codes codeHash = some code → code = codeOf codeHash
  coded : ∀ address account, ledger.accounts address = some account → account.info.Coded
  held : ∀ address account, ledger.accounts address = some account →
    ∀ codeHash code, account.info.codeFor codeHash = some code → ledger.codes codeHash = some code

/-- The two differ at most in whether an account without code comes with an empty one. -/
structure Alike (left right : Ledger rootOf) : Prop where
  accounts : ∀ address,
    (left.accounts address).map LedgerAccount.trim = (right.accounts address).map LedgerAccount.trim
  codes : left.codes = right.codes

namespace Alike

variable {left right : Ledger rootOf}

theorem symm (alike : left.Alike right) : right.Alike left :=
  ⟨fun address => (alike.accounts address).symm, alike.codes.symm⟩

theorem trans {third : Ledger rootOf} (first : left.Alike right) (second : right.Alike third) :
    left.Alike third :=
  ⟨fun address => (first.accounts address).trans (second.accounts address), first.codes.trans second.codes⟩

theorem leaves (alike : left.Alike right) : left.leaves = right.leaves := by
  have leaf (account : Option LedgerAccount) :
      (account.map LedgerAccount.trim).map LedgerAccount.leaf = account.map LedgerAccount.leaf := by
    cases account <;> rfl
  funext address
  rw [Ledger.leaves, Ledger.leaves, ← leaf, ← leaf (right.accounts address), alike.accounts]

theorem coded (alike : left.Alike right) (coded : left.Coded codeOf) : right.Coded codeOf := by
  have found (address : Address) (account : LedgerAccount) (there : right.accounts address = some account) :
      ∃ other, left.accounts address = some other ∧ other.info.trim = account.info.trim := by
    have same := alike.accounts address
    rw [there, Option.map_some] at same
    obtain ⟨other, held, trimmed⟩ := Option.map_eq_some_iff.mp same
    exact ⟨other, held, congrArg LedgerAccount.info trimmed⟩
  refine ⟨alike.codes ▸ coded.addressed, fun address account there => ?_, ?_⟩
  · obtain ⟨other, held, trimmed⟩ := found address account there
    exact (coded.coded address other held).of_trim trimmed
  · intro address account there codeHash code comes
    obtain ⟨other, held, trimmed⟩ := found address account there
    rw [← alike.codes]
    exact coded.held address other held codeHash code (AccountInfo.codeFor_of_trim trimmed codeHash ▸ comes)

/-- The two stay alike when states that differ as they do are committed. -/
theorem commit (alike : left.Alike right) {state other : EvmState} (trimmed : state.trim = other.trim) :
    (left.commit state).Alike (right.commit other) := by
  constructor
  · intro address
    have looked := congrArg (fun states : EvmState => states.lookup address) trimmed
    have before := alike.accounts address
    rw [EvmState.lookup_trim, EvmState.lookup_trim] at looked
    rw [commit_accounts, commit_accounts]
    cases found : state.lookup address with
    | none =>
      rw [found, Option.map_none, eq_comm, Option.map_eq_none_iff] at looked
      rw [looked]
      exact before
    | some account =>
      rw [found, Option.map_some, eq_comm] at looked
      obtain ⟨account', found', same⟩ := Option.map_eq_some_iff.mp looked
      rw [found']
      dsimp only
      rw [LedgerAccount.change_trim, LedgerAccount.change_trim, same, before]
  · funext codeHash
    rw [commit_codes, commit_codes, ← EvmState.codeFor_trim, ← EvmState.codeFor_trim other, trimmed, alike.codes]

theorem answer (alike : left.Alike right) (read : Read) :
    read.trim (Database.answer left read).1 = read.trim (Database.answer right read).1 := by
  cases read with
  | basic address =>
    have infos := congrArg (Option.map LedgerAccount.info) (alike.accounts address)
    rw [Option.map_map, Option.map_map] at infos
    change Except.ok (((left.accounts address).map _).map _) = Except.ok (((right.accounts address).map _).map _)
    rw [Option.map_map, Option.map_map]
    exact congrArg Except.ok infos
  | codeByHash codeHash =>
    change Except.ok ((left.codes codeHash).getD []) = Except.ok ((right.codes codeHash).getD [])
    rw [alike.codes]
  | storage address slot =>
    change Except.ok (LedgerAccount.slot (left.accounts address) slot) =
      Except.ok (LedgerAccount.slot (right.accounts address) slot)
    rw [← LedgerAccount.slot_trim, ← LedgerAccount.slot_trim (right.accounts address), alike.accounts]
  | blockHash blockNumber => rfl

end Alike

/-- A code that is at hand stays at hand. -/
theorem Coded.commit_held {ledger : Ledger rootOf} (coded : ledger.Coded codeOf) {state : EvmState}
    (comes : StateAddressed codeOf state) {codeHash : B256} {code : Bytecode}
    (held : ledger.codes codeHash = some code) : (ledger.commit state).codes codeHash = some code := by
  rw [commit_codes]
  cases last : (state.entries.filterMap (·.2.info.codeFor codeHash)).getLast? with
  | none => exact held
  | some written =>
    obtain ⟨entry, member, found⟩ := List.mem_filterMap.mp (List.mem_of_getLast? last)
    rw [Option.some_or, comes entry member codeHash written found, coded.addressed codeHash code held]

theorem Coded.commit {ledger : Ledger rootOf} (coded : ledger.Coded codeOf) {state : EvmState}
    (comes : StateAddressed codeOf state) (whole : state.Coded) : (ledger.commit state).Coded codeOf := by
  have cases_of (address : Address) (account : LedgerAccount)
      (there : (ledger.commit state).accounts address = some account) :
      (∃ changed, ⟨address, changed⟩ ∈ state.entries ∧ changed.info = account.info) ∨
        ledger.accounts address = some account := by
    rw [commit_accounts] at there
    cases found : state.lookup address with
    | none =>
      rw [found] at there
      exact .inr there
    | some changed =>
      rw [found] at there
      refine .inl ⟨changed, AList.mem_lookup_iff.mp found, ?_⟩
      dsimp only at there
      rw [LedgerAccount.change, Option.ite_none_left_eq_some] at there
      exact congrArg LedgerAccount.info (Option.some.inj there.2)
  refine ⟨fun codeHash code held => ?_, fun address account there => ?_, ?_⟩
  · rw [commit_codes] at held
    rcases Option.or_eq_some_iff.mp held with written | ⟨_, before⟩
    · obtain ⟨entry, member, found⟩ := List.mem_filterMap.mp (List.mem_of_getLast? written)
      exact comes entry member codeHash code found
    · exact coded.addressed codeHash code before
  · rcases cases_of address account there with ⟨changed, member, info⟩ | before
    · exact info ▸ whole ⟨address, changed⟩ member
    · exact coded.coded address account before
  · intro address account there codeHash code found
    rcases cases_of address account there with ⟨changed, member, info⟩ | before
    · rw [← info] at found
      rw [commit_codes]
      have listed : code ∈ state.entries.filterMap (·.2.info.codeFor codeHash) :=
        List.mem_filterMap.mpr ⟨⟨address, changed⟩, member, found⟩
      obtain ⟨last, written⟩ := Option.isSome_iff_exists.mp
        (List.getLast?_isSome.mpr (List.ne_nil_of_mem listed))
      obtain ⟨entry, member', found'⟩ := List.mem_filterMap.mp (List.mem_of_getLast? written)
      rw [written, Option.some_or, comes entry member' codeHash last found',
        comes ⟨address, changed⟩ member codeHash code found]
    · exact coded.commit_held comes (coded.held address account before codeHash code found)

end Ledger

/-- A code that was written is there. -/
class StoringKeyValueDatabase (KV : Type) [KeyValueDatabase KV] : Prop where
  hasCode_written : ∀ (kvdb : KV) (codeHash : B256) (code : Bytes),
    (KeyValueDatabase.setCode kvdb codeHash code).1 = .ok () →
      HasCode codeHash (KeyValueDatabase.setCode kvdb codeHash code).2

instance {DB : Type} [ColumnStore DB] [LawfulColumnStore DB] :
    StoringKeyValueDatabase (RocksDbKvDatabase DB) where
  hasCode_written kvdb codeHash code written := by
    have reads := RocksDbKvDatabase.put_reads kvdb (setCode codeHash code) .code (hashBytes codeHash)
    rw [if_pos ⟨written, rfl, rfl⟩] at reads
    exact ⟨code, congrArg (Except.mapError _) reads⟩

namespace TrieDatabase

variable {Trie Txn KV : Type} [TrieTransaction Txn] [TrieDb Trie Txn] [KeyValueDatabase KV]
variable [LawfulKeyValueDatabase KV] [DurableKeyValueDatabase KV] [StoringKeyValueDatabase KV]
variable {codeHash : B256} {code : Bytecode}

omit [LawfulKeyValueDatabase KV] [DurableKeyValueDatabase KV] in
private theorem storeCode_hasCode {kvdb kvdb' : KV} {info : AccountInfo} (coded : info.Coded)
    (comes : info.codeFor codeHash = some code) (stored : storeCode kvdb info = (.ok (), kvdb')) :
    HasCode codeHash kvdb' := by
  have nonempty := coded.hash_ne comes
  obtain ⟨held, filled, rfl⟩ := AccountInfo.codeFor_eq_some.mp comes
  have writes : storeCode kvdb info = KeyValueDatabase.setCode kvdb info.codeHash code := by
    simp [storeCode, held, filled, nonempty]
  rw [writes] at stored
  have written := StoringKeyValueDatabase.hasCode_written kvdb info.codeHash code
  rw [stored] at written
  exact written rfl

omit [LawfulKeyValueDatabase KV] [DurableKeyValueDatabase KV] in
private theorem updateAccount_hasCode {kvdb kvdb' : KV} {tx tx' : Txn} {address : Address}
    {account : Account}
    (kept : ¬account.isSelfdestructed) (coded : account.info.Coded)
    (comes : account.info.codeFor codeHash = some code)
    (updated : updateAccount kvdb tx address account = (.ok tx', kvdb')) : HasCode codeHash kvdb' := by
  unfold updateAccount at updated
  rw [if_neg kept] at updated
  dsimp only at updated
  split at updated
  · simp at updated
  · split at updated
    · simp at updated
    · rename_i stored
      cases updated
      exact storeCode_hasCode coded comes stored

private theorem applyChanges_hasCode {entries : List ((_ : Address) × Account)} {kvdb kvdb' : KV}
    {tx tx' : Txn}
    {entry : (_ : Address) × Account} (member : entry ∈ entries) (kept : ¬entry.2.isSelfdestructed)
    (coded : entry.2.info.Coded) (comes : entry.2.info.codeFor codeHash = some code)
    (applied : applyChanges kvdb tx entries = (.ok tx', kvdb')) : HasCode codeHash kvdb' := by
  induction entries generalizing kvdb tx with
  | nil => cases member
  | cons first rest ih =>
    rw [applyChanges] at applied
    split at applied
    · simp at applied
    · rename_i updated
      split at applied
      · simp at applied
      · rename_i slots _
        rcases List.mem_cons.mp member with rfl | later
        · have has := updateAccount_hasCode kept coded comes updated
          have after := applyChanges_keeps (fun _ other written has => has.setCode other written) rest slots has
          rw [applied] at after
          exact after
        · exact ih later applied

private theorem applyTransactions_hasCode {states : List EvmState} {kvdb kvdb' : KV} {tx tx' : Txn}
    {entry : (_ : Address) × Account} (member : entry ∈ states.flatMap AList.entries)
    (kept : ¬entry.2.isSelfdestructed) (coded : entry.2.info.Coded)
    (comes : entry.2.info.codeFor codeHash = some code)
    (applied : applyTransactions kvdb tx states = (.ok tx', kvdb')) : HasCode codeHash kvdb' := by
  induction states generalizing kvdb tx with
  | nil => cases member
  | cons state rest ih =>
    rw [applyTransactions] at applied
    split at applied
    · simp at applied
    · rename_i mid _ changed
      rcases List.mem_append.mp member with first | later
      · have has := applyChanges_hasCode first kept coded comes changed
        have after := applyTransactions_keeps (fun _ other written has => has.setCode other written) rest mid has
        rw [applied] at after
        exact after
      · exact ih later applied

/-- A block that is committed has stored the codes of its accounts. -/
theorem commitBlock_hasCode {self after : TrieDatabase Trie KV} {blockNumber : Nat} {states : List EvmState}
    {root : B256} {entry : (_ : Address) × Account} (member : entry ∈ states.flatMap AList.entries)
    (kept : ¬entry.2.isSelfdestructed) (coded : entry.2.info.Coded)
    (comes : entry.2.info.codeFor codeHash = some code)
    (committed : self.commitBlock blockNumber states = (.ok root, after)) : HasCode codeHash after.kvdb := by
  unfold commitBlock at committed
  split at committed
  · simp at committed
  · split at committed
    · simp at committed
    · rename_i applied
      have has := applyTransactions_hasCode member kept coded comes applied
      split at committed
      · simp at committed
      · dsimp only at committed
        split at committed
        · simp at committed
        · rename_i trie _ _ _ header
          cases committed
          have later := has.setHeader blockNumber ⟨TrieDb.stateRoot trie⟩
          rw [header] at later
          exact later

end TrieDatabase

section Settled

variable {Trie Txn KV : Type} [TrieTransaction Txn] [TrieDb Trie Txn] [KeyValueDatabase KV]
variable [LawfulTransaction Txn] [LawfulTrieDb Trie Txn]
variable {rootOf : (Address → Option Leaf) → B256} {codeOf : B256 → Bytecode}

/-- Between two blocks: the caches answer as the ledger does, whose codes are those in the store. -/
structure Settled (codeOf : B256 → Bytecode) (ledger : Ledger rootOf)
    (db : CachedDatabase (TrieDatabase Trie KV)) : Prop where
  mirrors : Mirrors codeOf ledger db [] db
  coded : ledger.Coded codeOf
  stored : ∀ codeHash, KeyValueDatabase.getCode db.inner.kvdb codeHash = .ok (ledger.codes codeHash)

namespace Settled

variable {ledger : Ledger rootOf} {db : CachedDatabase (TrieDatabase Trie KV)}

theorem leaves (settled : Settled codeOf ledger db) : db.inner.accounts = ledger.leaves :=
  settled.mirrors.leaves.symm

/-- The code of an account of the ledger is stored. -/
theorem loadCode (settled : Settled codeOf ledger db) {address : Address} {account : LedgerAccount}
    (found : ledger.accounts address = some account) :
    db.inner.loadCode account.info.codeHash = .ok account.info.trim.code := by
  have coded := settled.coded.coded address account found
  rw [TrieDatabase.loadCode]
  by_cases plain : account.info.codeHash = keccakEmpty
  · rw [if_neg (not_not_intro plain), coded.mpr plain]
  · rw [if_pos plain, settled.stored]
    obtain ⟨code, comes⟩ := Option.ne_none_iff_exists'.mp fun none => plain (coded.mp none)
    have codeFor : account.info.codeFor account.info.codeHash = some code := by
      rw [AccountInfo.codeFor_eq, if_pos rfl, comes]
    rw [settled.coded.held address account found account.info.codeHash code codeFor, comes]

theorem sound (settled : Settled codeOf ledger db) : db.inner.Sound codeOf where
  codes codeHash := ⟨_, settled.stored codeHash⟩
  addressed := settled.mirrors.addressed.stored
  complete address leaf found coded := by
    rw [settled.leaves] at found
    obtain ⟨account, there, rfl⟩ := Option.map_eq_some_iff.mp found
    have loaded := settled.loadCode there
    have coded : account.info.codeHash ≠ keccakEmpty := coded
    rw [TrieDatabase.loadCode, if_pos coded] at loaded
    obtain ⟨code, comes⟩ := Option.ne_none_iff_exists'.mp fun none =>
      coded ((settled.coded.coded address account there).mp none)
    exact ⟨code, loaded.trans (congrArg Except.ok comes)⟩
  nonzero address leaf slot found := by
    rw [settled.leaves] at found
    obtain ⟨account, _, rfl⟩ := Option.map_eq_some_iff.mp found
    change (if account.storage slot = 0 then none else some (account.storage slot)) ≠ some 0
    by_cases zero : account.storage slot = 0
    · rw [if_pos zero]
      simp
    · rw [if_neg zero]
      exact fun same => zero (Option.some.inj same)

/-- What is read after the caches are gone. -/
theorem reload_alike (settled : Settled codeOf ledger db) : (Ledger.of rootOf db.inner).Alike ledger := by
  constructor
  · intro address
    change ((db.inner.accounts address).map _).map _ = _
    rw [settled.leaves, Ledger.leaves]
    cases found : ledger.accounts address with
    | none => rfl
    | some account =>
      have code := settled.loadCode found
      have info : (LedgerAccount.of db.inner account.leaf).info = account.info.trim := by
        change AccountInfo.mk _ _ _ ((db.inner.loadCode account.info.codeHash).toOption.getD none) = _
        rw [code]
        rfl
      have trimmed : (LedgerAccount.of db.inner account.leaf).info.trim = account.info.trim := by
        rw [info, AccountInfo.trim_trim]
      have storage := funext (LedgerAccount.slotValue_leaf (some account))
      exact congrArg some (congrArg₂ LedgerAccount.mk trimmed storage)
  · funext codeHash
    change (KeyValueDatabase.getCode db.inner.kvdb codeHash).toOption.getD none = _
    rw [settled.stored]
    rfl

theorem read (settled : Settled codeOf ledger db) (read : Read) :
    (Database.answer db read).1 = (Database.answer ledger read).1 ∧
      Settled codeOf ledger (Database.answer db read).2 := by
  obtain ⟨same, after⟩ := settled.mirrors.read read
  exact ⟨same, after.rebase, settled.coded, after.inner ▸ settled.stored⟩

/-- With the caches gone, what is stored stands for itself. -/
theorem reload (readable : TrieDatabase.Readable Trie KV) (settled : Settled codeOf ledger db) :
    Settled codeOf (Ledger.of rootOf db.inner) (CachedDatabase.new db.inner) where
  mirrors := Mirrors.new readable settled.sound
  coded := settled.reload_alike.symm.coded settled.coded
  stored codeHash := by
    change KeyValueDatabase.getCode db.inner.kvdb codeHash = _
    rw [settled.reload_alike.codes, settled.stored]

/-- A sound database, if no code but the empty one has its hash. -/
theorem new (readable : TrieDatabase.Readable Trie KV) {inner : TrieDatabase Trie KV}
    (sound : inner.Sound codeOf)
    (filled : ∀ codeHash, codeHash ≠ keccakEmpty → (codeOf codeHash).isEmpty = false) :
    Settled codeOf (Ledger.of rootOf inner) (CachedDatabase.new inner) := by
  have stored (codeHash : B256) : KeyValueDatabase.getCode inner.kvdb codeHash =
      .ok ((Ledger.of rootOf inner).codes codeHash) := by
    obtain ⟨code, read⟩ := sound.codes codeHash
    change _ = Except.ok ((KeyValueDatabase.getCode inner.kvdb codeHash).toOption.getD none)
    rw [read]
    rfl
  have codes (codeHash : B256) (code : Bytecode) (held : (Ledger.of rootOf inner).codes codeHash = some code) :
      KeyValueDatabase.getCode inner.kvdb codeHash = .ok (some code) := by
    rw [stored, held]
  have loaded (address : Address) (account : LedgerAccount)
      (found : (Ledger.of rootOf inner).accounts address = some account) :
      ∃ leaf, inner.accounts address = some leaf ∧ account.info.codeHash = leaf.body.codeHash ∧
        account.info.code = (inner.loadCode leaf.body.codeHash).toOption.getD none := by
    obtain ⟨leaf, there, rfl⟩ := Option.map_eq_some_iff.mp found
    exact ⟨leaf, there, rfl, rfl⟩
  refine ⟨Mirrors.new readable sound, ⟨fun codeHash code held => ?_, fun address account found => ?_, ?_⟩, stored⟩
  · exact sound.addressed codeHash code (codes codeHash code held)
  · obtain ⟨leaf, there, hash, code⟩ := loaded address account found
    rw [AccountInfo.Coded, hash]
    change account.info.code.filter _ = none ↔ _
    rw [code, TrieDatabase.loadCode]
    by_cases plain : leaf.body.codeHash = keccakEmpty
    · rw [if_neg (not_not_intro plain)]
      exact ⟨fun _ => plain, fun _ => rfl⟩
    · obtain ⟨code, read⟩ := sound.complete address leaf there plain
      have nonempty := filled leaf.body.codeHash plain
      rw [← sound.addressed _ code read] at nonempty
      have kept : (some code).filter (fun code : Bytecode => !code.isEmpty) = some code := by
        simp [Option.filter, nonempty]
      rw [if_pos plain, read]
      exact ⟨fun dropped => absurd (kept.symm.trans dropped) (Option.some_ne_none code),
        fun same => absurd same plain⟩
  · intro address account found codeHash code comes
    obtain ⟨leaf, there, hash, loadedCode⟩ := loaded address account found
    obtain ⟨held, nonempty, rfl⟩ := AccountInfo.codeFor_eq_some.mp comes
    rw [held, TrieDatabase.loadCode] at loadedCode
    by_cases plain : leaf.body.codeHash = keccakEmpty
    · rw [if_neg (not_not_intro plain)] at loadedCode
      cases loadedCode
    · rw [if_pos plain, ← hash] at loadedCode
      exact loadedCode.symm

section Commit

variable [LawfulKeyValueDatabase KV] [DurableKeyValueDatabase KV] [StoringKeyValueDatabase KV]
variable {start after : CachedDatabase (TrieDatabase Trie KV)} {states : List EvmState} {earlier : Ledger rootOf}

/-- A block that is committed has stored the codes that the ledger has got. -/
theorem committed_codes (settled : Settled codeOf earlier start) (mirrors : Mirrors codeOf ledger start states db)
    (codes : ∀ codeHash, ledger.codes codeHash = (writtenCode states codeHash).or (earlier.codes codeHash))
    (whole : ∀ state ∈ states, EvmState.Coded state) {blockNumber : Nat} {root : B256}
    {trie : TrieDatabase Trie KV} (committed : db.inner.commitBlock blockNumber states = (.ok root, trie))
    (codeHash : B256) : KeyValueDatabase.getCode trie.kvdb codeHash = .ok (ledger.codes codeHash) := by
  rw [codes]
  cases written : writtenCode states codeHash with
  | none =>
    have codeFrom := TrieDatabase.commitBlock_codeFrom db.inner blockNumber states
    rw [committed, mirrors.inner] at codeFrom
    rw [writtenCode, List.getLast?_eq_none_iff, List.filterMap_eq_nil_iff] at written
    rw [codeFrom.kept codeHash written, settled.stored, Option.none_or]
  | some code =>
    obtain ⟨entry, member, comes⟩ := List.mem_filterMap.mp (List.mem_of_getLast? written)
    obtain ⟨state, listed, there⟩ := List.mem_flatMap.mp member
    obtain ⟨held, read⟩ := TrieDatabase.commitBlock_hasCode member (mirrors.kept state listed entry there)
      (whole state listed entry there) comes committed
    rw [read, mirrors.committed_stored committed read, mirrors.comes state listed entry there codeHash code comes,
      Option.some_or]

theorem commitBlock (readable : TrieDatabase.Readable Trie KV)
    (rooted : ∀ trie : Trie, TrieDb.stateRoot trie = rootOf (LawfulTrieDb.view trie))
    (settled : Settled codeOf earlier start) (mirrors : Mirrors codeOf ledger start states db)
    (coded : ledger.Coded codeOf)
    (codes : ∀ codeHash, ledger.codes codeHash = (writtenCode states codeHash).or (earlier.codes codeHash))
    (whole : ∀ state ∈ states, EvmState.Coded state) {blockNumber : Nat} {root : B256}
    (committed : db.commitBlock blockNumber states = (.ok root, after)) : Settled codeOf ledger after := by
  refine ⟨(mirrors.commitBlock readable rooted committed).2, coded, fun codeHash => ?_⟩
  unfold CachedDatabase.commitBlock at committed
  rcases below : Database.commitBlock db.inner blockNumber states with ⟨outcome, trie⟩
  rw [below] at committed
  obtain ⟨rfl, rfl⟩ := Prod.mk.inj committed
  exact settled.committed_codes mirrors codes whole below codeHash

end Commit

end Settled

end Settled

namespace Paths

open Dialogue (Ending Fate Triple)

variable {DB Trie Txn : Type} [ColumnStore DB] [TrieTransaction Txn] [TrieDb Trie Txn] [TrieFile Trie]
variable (hashSlow : Bytes → B256) (genesis : Genesis) (kvdb : RocksDbKvDatabase DB) (trie : Trie)

/-- Databases that exist are opened without a change. -/
theorem triple_openExisting :
    Triple Paths.answer Paths.refuse (openBoth hashSlow genesis : Action Txn SetupError Unit)
      (⟨some kvdb, some trie⟩ : Paths DB Trie) (fun _ after => after = ⟨some kvdb, some trie⟩)
      fun _ after => after = ⟨some kvdb, some trie⟩ := by
  have exist : Triple Paths.answer Paths.refuse (perform .kvExists .ok : Action Txn DbError Bool)
      (⟨some kvdb, some trie⟩ : Paths DB Trie)
      (fun found after => found = true ∧ after = ⟨some kvdb, some trie⟩)
      fun _ after => after = ⟨some kvdb, some trie⟩ := by
    refine Triple.call rfl (fun _ _ refused => ?_) (fun _ failed => ?_) fun found performed => ?_
    · cases refused
    · cases failed
    · cases performed
      exact ⟨rfl, rfl⟩
  have opened : Triple Paths.answer Paths.refuse (RocksDbKvDatabase.openCf : Action Txn DbError Unit)
      (⟨some kvdb, some trie⟩ : Paths DB Trie)
      (fun _ after => after = ⟨some kvdb, some trie⟩) fun _ after => after = ⟨some kvdb, some trie⟩ := by
    have there : Triple Paths.answer Paths.refuse
        (perform .createMissing RocksDbKvDatabase.openFailed : Action Txn DbError Bool)
        (⟨some kvdb, some trie⟩ : Paths DB Trie)
        (fun _ after => after = ⟨some kvdb, some trie⟩) fun _ after => after = ⟨some kvdb, some trie⟩ := by
      refine Triple.call rfl (fun _ _ refused => ?_) (fun _ _ => rfl) fun _ _ => rfl
      cases refused
      exact ⟨_, rfl⟩
    refine there.andThen ?_
    rintro created _ rfl
    refine Triple.call rfl (fun _ _ refused => ?_) (fun _ _ => rfl) fun _ _ => rfl
    cases refused
    exact ⟨_, rfl⟩
  have found : Triple Paths.answer Paths.refuse
      (perform .openTrie TrieDatabase.found : Action Txn OpenError Bool)
      (⟨some kvdb, some trie⟩ : Paths DB Trie)
      (fun opened after => opened = true ∧ after = ⟨some kvdb, some trie⟩)
      fun _ after => after = ⟨some kvdb, some trie⟩ := by
    refine Triple.call rfl (fun _ _ refused => ?_) (fun _ _ => rfl) fun opened performed => ?_
    · cases refused
      exact ⟨_, rfl⟩
    · cases performed
      exact ⟨rfl, rfl⟩
  have keyValue : Triple Paths.answer Paths.refuse
      (RocksDbKvDatabase.openOrCreate hashSlow genesis : Action Txn DbError Unit)
      (⟨some kvdb, some trie⟩ : Paths DB Trie) (fun _ after => after = ⟨some kvdb, some trie⟩)
      fun _ after => after = ⟨some kvdb, some trie⟩ := by
    refine exist.andThen ?_
    rintro _ _ ⟨rfl, rfl⟩
    refine opened.andThen ?_
    rintro _ _ rfl
    exact Triple.done rfl
  refine (keyValue.mapError SetupError.kvdb).andThen ?_
  rintro _ _ rfl
  refine Triple.mapError ?_ SetupError.trieDb
  refine found.andThen ?_
  rintro _ _ ⟨rfl, rfl⟩
  exact Triple.done rfl

/-- Attempts to open databases that exist leave them, whatever fails. -/
theorem after_existing (attempts : List (List Fate)) :
    (⟨some kvdb, some trie⟩ : Paths DB Trie).after hashSlow genesis attempts = ⟨some kvdb, some trie⟩ := by
  have attempted (fates : List Fate) :
      ((⟨some kvdb, some trie⟩ : Paths DB Trie).attempt hashSlow genesis fates).state =
        ⟨some kvdb, some trie⟩ := by
    have meets := triple_openExisting hashSlow genesis kvdb trie fates none
    rw [← attempt] at meets
    generalize (⟨some kvdb, some trie⟩ : Paths DB Trie).attempt hashSlow genesis fates = ending at meets ⊢
    obtain ⟨result, last, after⟩ := ending
    rcases result with _ | e | ⟨⟩
    · obtain ⟨_, _, same⟩ := meets
      exact same
    · obtain ⟨_, _, same⟩ := meets
      exact same
    · exact meets
  induction attempts with
  | nil => rfl
  | cons fates rest ih =>
    rw [after, List.foldl_cons, attempted]
    exact ih

end Paths

end Montana.Storage
