import Montana.Storage.CodeHashes

/-! What a read of the cached trie database answers, and what reads and block commits do not change. -/

namespace Montana.Storage

/-- Code that is in the store is not lost when it is written again. -/
class DurableKeyValueDatabase (KV : Type) [KeyValueDatabase KV] : Prop where
  getCode_kept : ∀ (kvdb : KV) {codeHash : B256} (code : Bytes) {stored : Bytes},
    KeyValueDatabase.getCode kvdb codeHash = .ok (some stored) →
      ∃ held, KeyValueDatabase.getCode (KeyValueDatabase.setCode kvdb codeHash code).2 codeHash =
        .ok (some held)

/-- There is a code for this hash. -/
def HasCode {KV : Type} [KeyValueDatabase KV] (codeHash : B256) (kvdb : KV) : Prop :=
  ∃ held, KeyValueDatabase.getCode kvdb codeHash = .ok (some held)

section Kept

variable {KV : Type} [KeyValueDatabase KV] [LawfulKeyValueDatabase KV] {codeHash : B256} {kvdb : KV}

theorem HasCode.setCode [DurableKeyValueDatabase KV] (has : HasCode codeHash kvdb) (other : B256)
    (code : Bytes) : HasCode codeHash (KeyValueDatabase.setCode kvdb other code).2 := by
  obtain ⟨held, read⟩ := has
  by_cases same : codeHash = other
  · subst same
    exact DurableKeyValueDatabase.getCode_kept kvdb code read
  · exact ⟨held, (LawfulKeyValueDatabase.getCode_setCode_ne kvdb code same).trans read⟩

theorem HasCode.setHeader (has : HasCode codeHash kvdb) (blockNumber : Nat) (header : Header) :
    HasCode codeHash (KeyValueDatabase.setHeader kvdb blockNumber header).2 := by
  obtain ⟨held, read⟩ := has
  exact ⟨held, (LawfulKeyValueDatabase.getCode_setHeader kvdb blockNumber header codeHash).trans read⟩

end Kept

/-- Both databases answer every read alike. -/
structure SameAnswers {DB DB' : Type} [Database DB] [Database DB'] (other : DB') (db : DB) : Prop where
  basic : ∀ address, (Database.basicRef other address).1 = (Database.basicRef db address).1
  storage : ∀ address slot,
    (Database.storageRef other address slot).1 = (Database.storageRef db address slot).1
  code : ∀ codeHash, (Database.codeByHashRef other codeHash).1 = (Database.codeByHashRef db codeHash).1
  blockHash : ∀ blockNumber,
    (Database.blockHashRef other blockNumber).1 = (Database.blockHashRef db blockNumber).1

namespace SameAnswers

variable {DB DB' DB'' : Type} [Database DB] [Database DB'] [Database DB'']

theorem refl (self : DB) : SameAnswers self self :=
  ⟨fun _ => rfl, fun _ _ => rfl, fun _ => rfl, fun _ => rfl⟩

theorem trans {third : DB''} {second : DB'} {first : DB} (left : SameAnswers third second)
    (right : SameAnswers second first) : SameAnswers third first where
  basic address := (left.basic address).trans (right.basic address)
  storage address slot := (left.storage address slot).trans (right.storage address slot)
  code codeHash := (left.code codeHash).trans (right.code codeHash)
  blockHash blockNumber := (left.blockHash blockNumber).trans (right.blockHash blockNumber)

theorem answer {other : DB'} {self : DB} (same : SameAnswers other self) (read : Read) :
    (Database.answer other read).1 = (Database.answer self read).1 := by
  cases read with
  | basic address => exact same.basic address
  | codeByHash codeHash => exact same.code codeHash
  | storage address slot => exact same.storage address slot
  | blockHash blockNumber => exact same.blockHash blockNumber

end SameAnswers

namespace TrieDatabase

section Writes

variable {Trie Txn KV : Type} [TrieTransaction Txn] [TrieDb Trie Txn] [KeyValueDatabase KV]
variable {Holds : KV → Prop}
variable (setCode : ∀ kvdb codeHash code, Holds kvdb →
  Holds (KeyValueDatabase.setCode kvdb codeHash code).2)

include setCode

private theorem storeCode_keeps {kvdb : KV} (info : AccountInfo) (initially : Holds kvdb) :
    Holds (storeCode kvdb info).2 := by
  unfold storeCode
  cases info.code with
  | none => exact initially
  | some code =>
    dsimp only
    split
    · exact setCode kvdb info.codeHash code initially
    · exact initially

private theorem updateAccount_keeps {kvdb : KV} (tx : Txn) (address : Address) (account : Account)
    (initially : Holds kvdb) :
    Holds (updateAccount kvdb tx address account).2 := by
  have stored := storeCode_keeps setCode account.info initially
  unfold updateAccount
  split
  · exact initially
  · dsimp only
    split
    · exact initially
    · split <;> rename_i code <;> rw [code] at stored <;> exact stored

theorem applyChanges_keeps (entries : List ((_ : Address) × Account)) {kvdb : KV} (tx : Txn)
    (initially : Holds kvdb) :
    Holds (applyChanges kvdb tx entries).2 := by
  induction entries generalizing kvdb tx with
  | nil => exact initially
  | cons entry rest ih =>
    have updated := updateAccount_keeps setCode tx entry.1 entry.2 initially
    rw [applyChanges]
    split
    · rename_i account
      rw [account] at updated
      exact updated
    · rename_i account
      rw [account] at updated
      split
      · exact updated
      · exact ih _ updated

theorem applyTransactions_keeps (states : List EvmState) {kvdb : KV} (tx : Txn) (initially : Holds kvdb) :
    Holds (applyTransactions kvdb tx states).2 := by
  induction states generalizing kvdb tx with
  | nil => exact initially
  | cons state rest ih =>
    have changed := applyChanges_keeps setCode state.entries tx initially
    rw [applyTransactions]
    split
    · rename_i applied
      rw [applied] at changed
      exact changed
    · rename_i applied
      rw [applied] at changed
      exact ih _ changed

/-- What writing a code or a header keeps, a block commit keeps. -/
theorem commitBlock_keeps (setHeader : ∀ kvdb blockNumber header, Holds kvdb →
      Holds (KeyValueDatabase.setHeader kvdb blockNumber header).2)
    {self : TrieDatabase Trie KV} (blockNumber : Nat) (states : List EvmState) (initially : Holds self.kvdb) :
    Holds (self.commitBlock blockNumber states).2.kvdb := by
  unfold commitBlock
  split
  · exact initially
  · rename_i tx begun
    have applied := applyTransactions_keeps setCode states tx initially
    split
    · rename_i failed
      rw [failed] at applied
      exact applied
    · rename_i loop
      rw [loop] at applied
      split
      · exact applied
      · rename_i trie _
        have stored := setHeader _ blockNumber ⟨TrieDb.stateRoot trie⟩ applied
        dsimp only
        split <;> rename_i header <;> rw [header] at stored <;> exact stored

omit setCode in
/-- The root that a block commit returns is that of the new trie. -/
theorem commitBlock_root {self after : TrieDatabase Trie KV} {blockNumber : Nat} {states : List EvmState}
    {root : B256} (committed : self.commitBlock blockNumber states = (.ok root, after)) :
    root = TrieDb.stateRoot after.inner := by
  unfold commitBlock at committed
  split at committed
  · simp at committed
  · split at committed
    · simp at committed
    · split at committed
      · simp at committed
      · dsimp only at committed
        split at committed
        · simp at committed
        · cases committed
          rfl

omit setCode in
/-- An account comes with the code that is stored for it. -/
theorem basicRef_loadCode {self : TrieDatabase Trie KV} {address : Address} {info : AccountInfo}
    (succeeded : self.basicRef address = .ok (some info)) : self.loadCode info.codeHash = .ok info.code := by
  unfold basicRef at succeeded
  split at succeeded
  · simp at succeeded
  · simp at succeeded
  · split at succeeded
    · simp at succeeded
    · rename_i loaded
      cases succeeded
      exact loaded

end Writes

end TrieDatabase

namespace CachedDatabase

section Answers

variable {Trie Txn KV : Type} [TrieTransaction Txn] [TrieDb Trie Txn] [KeyValueDatabase KV]
variable {self : CachedDatabase (TrieDatabase Trie KV)}

theorem basicRef_eq {address : Address} : (self.basicRef address).1 =
    (self.accounts address).elim (self.inner.basicRef address) fun info => .ok (some info) := by
  cases cached : self.accounts address with
  | some info => exact basicRef_hit cached
  | none => exact basicRef_miss cached

theorem storageRef_eq {address : Address} {slot : U256} : (self.storageRef address slot).1 =
    (self.storage address slot).elim (self.inner.storageRef address slot) .ok := by
  cases cached : self.storage address slot with
  | some value => exact storageRef_hit cached
  | none => exact storageRef_miss cached

theorem codeByHashRef_eq {codeHash : B256} : (self.codeByHashRef codeHash).1 =
    (self.code codeHash).elim (self.inner.codeByHashRef codeHash) .ok := by
  cases cached : self.code codeHash with
  | some code => exact codeByHashRef_hit cached
  | none => exact codeByHashRef_miss cached

private theorem blockHashRef_eq {blockNumber : Nat} :
    (self.blockHashRef blockNumber).1 = .ok ((self.blockHashes blockNumber).getD 0) := by
  unfold blockHashRef
  cases self.blockHashes blockNumber <;> rfl

/-- The hash of a block is zero, whether it is cached or not. -/
theorem blockHashRef_filled (self : CachedDatabase (TrieDatabase Trie KV)) (blockNumber : Nat) :
    ∃ blockHashes, (self.blockHashRef blockNumber).2 = { self with blockHashes } ∧
      ∀ other, (blockHashes other).getD 0 = (self.blockHashes other).getD 0 := by
  unfold blockHashRef
  cases miss : self.blockHashes blockNumber with
  | some hash => exact ⟨self.blockHashes, rfl, fun _ => rfl⟩
  | none =>
    refine ⟨Function.update self.blockHashes blockNumber (some 0), rfl, fun other => ?_⟩
    by_cases same : other = blockNumber
    · subst same
      rw [Function.update_self, miss]
      rfl
    · rw [Function.update_of_ne same]

/-- Code that is stored is what is read by its hash. -/
theorem codeByHashRef_of_stored {codeOf : B256 → Bytecode} (addressed : Addressed codeOf self)
    {codeHash : B256} {code : Bytecode}
    (stored : KeyValueDatabase.getCode self.inner.kvdb codeHash = .ok (some code)) :
    (self.codeByHashRef codeHash).1 = .ok code := by
  rw [codeByHashRef_eq]
  cases cached : self.code codeHash with
  | some held => rw [addressed.stored _ _ stored, addressed.cached _ _ cached]; rfl
  | none => simp [TrieDatabase.codeByHashRef, stored]

/-- Reads depend on what is cached for them, and on the database below. -/
theorem basicRef_congr {other : CachedDatabase (TrieDatabase Trie KV)} {address : Address}
    (inner : other.inner = self.inner) (cached : other.accounts address = self.accounts address) :
    (other.basicRef address).1 = (self.basicRef address).1 := by
  rw [basicRef_eq, basicRef_eq, inner, cached]

theorem storageRef_congr {other : CachedDatabase (TrieDatabase Trie KV)} {address : Address} {slot : U256}
    (inner : other.inner = self.inner) (cached : other.storage address slot = self.storage address slot) :
    (other.storageRef address slot).1 = (self.storageRef address slot).1 := by
  rw [storageRef_eq, storageRef_eq, inner, cached]

theorem codeByHashRef_congr {other : CachedDatabase (TrieDatabase Trie KV)} {codeHash : B256}
    (inner : other.inner = self.inner) (cached : other.code codeHash = self.code codeHash) :
    (other.codeByHashRef codeHash).1 = (self.codeByHashRef codeHash).1 := by
  rw [codeByHashRef_eq, codeByHashRef_eq, inner, cached]

theorem blockHashRef_congr {other : CachedDatabase (TrieDatabase Trie KV)} {blockNumber : Nat}
    (cached : (other.blockHashes blockNumber).getD 0 = (self.blockHashes blockNumber).getD 0) :
    (other.blockHashRef blockNumber).1 = (self.blockHashRef blockNumber).1 := by
  rw [blockHashRef_eq, blockHashRef_eq, cached]

/-- A read changes no answer. -/
theorem answer_read {codeOf : B256 → Bytecode} (addressed : Addressed codeOf self) (read : Read) :
    SameAnswers (Database.answer self read).2 self := by
  cases read with
  | basic address =>
    change SameAnswers (self.basicRef address).2 self
    rcases basicRef_cases self address with same | ⟨info, miss, answered, filled⟩
    · rw [same]
      exact SameAnswers.refl self
    · rw [filled]
      refine ⟨fun other => ?_, fun _ _ => storageRef_congr rfl rfl, fun codeHash => ?_,
        fun _ => blockHashRef_congr rfl⟩
      · by_cases same : other = address
        · subst same
          refine (basicRef_hit (Function.update_self _ _ _)).trans ?_
          exact (basicRef_miss miss).symm ▸ answered.symm
        · exact basicRef_congr rfl (Function.update_of_ne same _ _)
      · have cached := cacheCode_apply self.code info codeHash
        cases comes : info.codeFor codeHash with
        | none =>
          rw [comes, Option.none_or] at cached
          exact codeByHashRef_congr rfl cached
        | some code =>
          rw [comes, Option.some_or] at cached
          have stored := TrieDatabase.basicRef_code answered comes
          exact (codeByHashRef_hit cached).trans (codeByHashRef_of_stored addressed stored).symm
  | codeByHash codeHash =>
    change SameAnswers (self.codeByHashRef codeHash).2 self
    rcases codeByHashRef_cases self codeHash with same | ⟨code, miss, answered, nonempty, filled⟩
    · rw [same]
      exact SameAnswers.refl self
    · rw [filled]
      refine ⟨fun _ => basicRef_congr rfl rfl, fun _ _ => storageRef_congr rfl rfl, fun other => ?_,
        fun _ => blockHashRef_congr rfl⟩
      by_cases same : other = codeHash
      · subst same
        refine (codeByHashRef_hit (Function.update_self _ _ _)).trans ?_
        exact (codeByHashRef_miss miss).symm ▸ answered.symm
      · exact codeByHashRef_congr rfl (Function.update_of_ne same _ _)
  | storage address slot =>
    change SameAnswers (self.storageRef address slot).2 self
    rcases storageRef_cases self address slot with same | ⟨value, miss, answered, filled⟩
    · rw [same]
      exact SameAnswers.refl self
    · rw [filled]
      refine ⟨fun _ => basicRef_congr rfl rfl, fun other otherSlot => ?_, fun _ => codeByHashRef_congr rfl rfl,
        fun _ => blockHashRef_congr rfl⟩
      by_cases same : other = address
      · subst same
        have row := congrFun (Function.update_self other (Function.update (self.storage other) slot
          (some value)) self.storage) otherSlot
        by_cases sameSlot : otherSlot = slot
        · subst sameSlot
          refine (storageRef_hit (row.trans (Function.update_self _ _ _))).trans ?_
          exact (storageRef_miss miss).symm ▸ answered.symm
        · rw [Function.update_of_ne sameSlot] at row
          exact storageRef_congr rfl row
      · exact storageRef_congr rfl (congrFun (Function.update_of_ne same _ _) otherSlot)
  | blockHash blockNumber =>
    change SameAnswers (self.blockHashRef blockNumber).2 self
    obtain ⟨blockHashes, filled, values⟩ := blockHashRef_filled self blockNumber
    rw [filled]
    exact ⟨fun _ => basicRef_congr rfl rfl, fun _ _ => storageRef_congr rfl rfl,
      fun _ => codeByHashRef_congr rfl rfl, fun other => blockHashRef_congr (values other)⟩

end Answers

end CachedDatabase

end Montana.Storage
