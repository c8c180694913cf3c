import Montana.Storage.Uncommitted

/-! Code is stored under its hash, and no two codes that are met have the same hash. So
code can be put into a cache or a store again without a change. -/

namespace Montana.Storage

/-- Between the two stores the only code that was added came with these accounts. -/
structure CodeFrom {KV : Type} [KeyValueDatabase KV] (entries : List ((_ : Address) × Account))
    (before after : KV) : Prop where
  kept : ∀ codeHash, (∀ entry ∈ entries, entry.2.info.codeFor codeHash = none) →
    KeyValueDatabase.getCode after codeHash = KeyValueDatabase.getCode before codeHash
  added : ∀ codeHash code, KeyValueDatabase.getCode after codeHash = .ok (some code) →
    KeyValueDatabase.getCode before codeHash = .ok (some code) ∨
      ∃ entry ∈ entries, entry.2.info.codeFor codeHash = some code

namespace CodeFrom

variable {KV : Type} [KeyValueDatabase KV]

theorem refl (entries : List ((_ : Address) × Account)) (kvdb : KV) : CodeFrom entries kvdb kvdb :=
  ⟨fun _ _ => rfl, fun _ _ stored => .inl stored⟩

theorem trans {first second : List ((_ : Address) × Account)} {before mid after : KV}
    (left : CodeFrom first before mid) (right : CodeFrom second mid after) :
    CodeFrom (first ++ second) before after where
  kept codeHash absent :=
    (right.kept codeHash fun entry member => absent entry (List.mem_append_right _ member)).trans
      (left.kept codeHash fun entry member => absent entry (List.mem_append_left _ member))
  added codeHash code stored := by
    rcases right.added codeHash code stored with stored | ⟨entry, member, found⟩
    · rcases left.added codeHash code stored with stored | ⟨entry, member, found⟩
      · exact .inl stored
      · exact .inr ⟨entry, List.mem_append_left _ member, found⟩
    · exact .inr ⟨entry, List.mem_append_right _ member, found⟩

/-- A loop that stopped early stored less. -/
theorem extend {first : List ((_ : Address) × Account)} {before after : KV}
    (left : CodeFrom first before after) (second : List ((_ : Address) × Account)) :
    CodeFrom (first ++ second) before after :=
  left.trans (refl second after)

/-- Headers are kept apart from code. -/
theorem setHeader [LawfulKeyValueDatabase KV] {entries : List ((_ : Address) × Account)}
    {before after : KV} (codeFrom : CodeFrom entries before after) (blockNumber : Nat) (header : Header) :
    CodeFrom entries before (KeyValueDatabase.setHeader after blockNumber header).2 where
  kept codeHash absent := by
    rw [LawfulKeyValueDatabase.getCode_setHeader]
    exact codeFrom.kept codeHash absent
  added codeHash code stored := by
    rw [LawfulKeyValueDatabase.getCode_setHeader] at stored
    exact codeFrom.added codeHash code stored

end CodeFrom

namespace TrieDatabase

variable {Trie Txn KV : Type} [TrieTransaction Txn] [TrieDb Trie Txn] [KeyValueDatabase KV]
variable [LawfulKeyValueDatabase KV]

private theorem storeCode_codeFrom (kvdb : KV) (entry : (_ : Address) × Account) :
    CodeFrom [entry] kvdb (storeCode kvdb entry.2.info).2 := by
  unfold storeCode
  cases found : entry.2.info.code with
  | none => exact CodeFrom.refl _ _
  | some code =>
    dsimp only
    split
    · rename_i stores
      have codeFor : entry.2.info.codeFor entry.2.info.codeHash = some code :=
        AccountInfo.codeFor_eq_some.mpr ⟨found, by simp_all, rfl⟩
      constructor
      · intro codeHash absent
        by_cases same : codeHash = entry.2.info.codeHash
        · subst same
          rw [absent entry (List.mem_singleton_self _)] at codeFor
          contradiction
        · exact LawfulKeyValueDatabase.getCode_setCode_ne kvdb code same
      · intro codeHash stored read
        by_cases same : codeHash = entry.2.info.codeHash
        · subst same
          rcases LawfulKeyValueDatabase.getCode_setCode kvdb read with rfl | held
          · exact .inr ⟨entry, List.mem_singleton_self _, codeFor⟩
          · exact .inl held
        · rw [LawfulKeyValueDatabase.getCode_setCode_ne kvdb code same] at read
          exact .inl read
    · exact CodeFrom.refl _ _

private theorem updateAccount_codeFrom (kvdb : KV) (tx : Txn) (entry : (_ : Address) × Account) :
    CodeFrom [entry] kvdb (updateAccount kvdb tx entry.1 entry.2).2 := by
  have stored := storeCode_codeFrom kvdb entry
  unfold updateAccount
  split
  · exact CodeFrom.refl _ _
  · dsimp only
    split
    · exact CodeFrom.refl _ _
    · split <;> rename_i code <;> rw [code] at stored <;> exact stored

private theorem applyChanges_codeFrom (kvdb : KV) (tx : Txn) (entries : List ((_ : Address) × Account)) :
    CodeFrom entries kvdb (applyChanges kvdb tx entries).2 := by
  induction entries generalizing kvdb tx with
  | nil => exact CodeFrom.refl _ _
  | cons entry rest ih =>
    have updated := updateAccount_codeFrom kvdb tx entry
    rw [applyChanges]
    split
    · rename_i account
      rw [account] at updated
      exact updated.extend rest
    · rename_i account
      rw [account] at updated
      split
      · exact updated.extend rest
      · exact updated.trans (ih _ _)

private theorem applyTransactions_codeFrom (kvdb : KV) (tx : Txn) (states : List EvmState) :
    CodeFrom (states.flatMap AList.entries) kvdb (applyTransactions kvdb tx states).2 := by
  induction states generalizing kvdb tx with
  | nil => exact CodeFrom.refl _ _
  | cons state rest ih =>
    have changed := applyChanges_codeFrom kvdb tx state.entries
    rw [applyTransactions, List.flatMap_cons]
    split
    · rename_i applied
      rw [applied] at changed
      exact changed.extend _
    · rename_i applied
      rw [applied] at changed
      exact changed.trans (ih _ _)

/-- Whatever a block commit answers, it stores no code but that of its accounts. -/
theorem commitBlock_codeFrom (self : TrieDatabase Trie KV) (blockNumber : Nat) (states : List EvmState) :
    CodeFrom (states.flatMap AList.entries) self.kvdb (self.commitBlock blockNumber states).2.kvdb := by
  unfold commitBlock
  split
  · exact CodeFrom.refl _ _
  · rename_i tx begun
    have applied := applyTransactions_codeFrom self.kvdb tx states
    split
    · rename_i failed
      rw [failed] at applied
      exact applied
    · rename_i loop
      rw [loop] at applied
      split
      · exact applied
      · rename_i trie _
        have stored := applied.setHeader blockNumber ⟨TrieDb.stateRoot trie⟩
        dsimp only
        split <;> rename_i header <;> rw [header] at stored <;> exact stored

omit [LawfulKeyValueDatabase KV] in
/-- The code that comes with an account that was read is the stored one. -/
theorem basicRef_code {self : TrieDatabase Trie KV} {address : Address} {info : AccountInfo}
    (succeeded : self.basicRef address = .ok (some info)) {codeHash : B256} {code : Bytecode}
    (comes : info.codeFor codeHash = some code) :
    KeyValueDatabase.getCode self.kvdb codeHash = .ok (some code) := by
  unfold basicRef at succeeded
  split at succeeded
  · simp at succeeded
  · simp at succeeded
  · split at succeeded
    · simp at succeeded
    · rename_i loaded
      cases succeeded
      obtain ⟨held, -, same⟩ := AccountInfo.codeFor_eq_some.mp comes
      dsimp only at held same
      rw [held, loadCode, same] at loaded
      split at loaded
      · exact loaded
      · cases loaded

omit [TrieTransaction Txn] [TrieDb Trie Txn] [LawfulKeyValueDatabase KV] in
/-- Code that was read by its hash is the stored one, unless there is none. -/
theorem codeByHashRef_stored {self : TrieDatabase Trie KV} {codeHash : B256} {code : Bytecode}
    (succeeded : self.codeByHashRef codeHash = .ok code) (filled : code.isEmpty = false) :
    KeyValueDatabase.getCode self.kvdb codeHash = .ok (some code) := by
  unfold codeByHashRef at succeeded
  split at succeeded
  · simp at succeeded
  · rename_i stored got
    cases succeeded
    cases stored with
    | none => cases filled
    | some code => exact got

end TrieDatabase

namespace CachedDatabase

variable {Trie Txn KV : Type} [TrieTransaction Txn] [TrieDb Trie Txn] [KeyValueDatabase KV]

/-- All code in the cache and in the store below it is the code of its hash. -/
structure Addressed (codeOf : B256 → Bytecode) (db : CachedDatabase (TrieDatabase Trie KV)) : Prop where
  cached : ∀ codeHash code, db.code codeHash = some code → code = codeOf codeHash
  stored : ∀ codeHash code, KeyValueDatabase.getCode db.inner.kvdb codeHash = .ok (some code) →
    code = codeOf codeHash

omit [TrieTransaction Txn] [TrieDb Trie Txn] in
theorem Addressed.new {codeOf : B256 → Bytecode} {inner : TrieDatabase Trie KV}
    (stored : ∀ codeHash code, KeyValueDatabase.getCode inner.kvdb codeHash = .ok (some code) →
      code = codeOf codeHash) : Addressed codeOf (CachedDatabase.new inner) where
  cached _ _ cached := by cases cached
  stored := stored

end CachedDatabase

/-- All code that comes with the accounts of a state is the code of its hash. -/
def StateAddressed (codeOf : B256 → Bytecode) (state : EvmState) : Prop :=
  ∀ entry ∈ state.entries, ∀ codeHash code, entry.2.info.codeFor codeHash = some code →
    code = codeOf codeHash

namespace CachedDatabase

variable {Trie Txn KV : Type} [TrieTransaction Txn] [TrieDb Trie Txn] [KeyValueDatabase KV]

/-- The code cache in the middle of a block. -/
structure UncommittedCode (codeOf : B256 → Bytecode) (before : CachedDatabase (TrieDatabase Trie KV))
    (states : List EvmState) (db : CachedDatabase (TrieDatabase Trie KV)) : Prop
    extends Uncommitted before states db where
  addressed : Addressed codeOf db
  code : Overlaid (fun codeHash code => KeyValueDatabase.getCode before.inner.kvdb codeHash = .ok (some code))
    before.code (writtenCode states) db.code

theorem UncommittedCode.start {codeOf : B256 → Bytecode} {before : CachedDatabase (TrieDatabase Trie KV)}
    (addressed : Addressed codeOf before) : UncommittedCode codeOf before [] before where
  toUncommitted := Uncommitted.start before
  addressed := addressed
  code := Overlaid.unchanged _ _

/-- Code that the store has can be cached at any time. -/
theorem UncommittedCode.cache {codeOf : B256 → Bytecode} {before db : CachedDatabase (TrieDatabase Trie KV)}
    {states : List EvmState} (uncommitted : UncommittedCode codeOf before states db)
    {codeHash : B256} {code : Bytecode}
    (stored : KeyValueDatabase.getCode db.inner.kvdb codeHash = .ok (some code)) :
    (∀ other held, Function.update db.code codeHash (some code) other = some held → held = codeOf other) ∧
      Overlaid (fun codeHash code => KeyValueDatabase.getCode before.inner.kvdb codeHash = .ok (some code))
        before.code (writtenCode states) (Function.update db.code codeHash (some code)) := by
  have same := uncommitted.addressed.stored codeHash code stored
  constructor
  · intro other held cached
    by_cases at_hash : other = codeHash
    · subst at_hash
      rw [Function.update_self, Option.some.injEq] at cached
      exact cached ▸ same
    · rw [Function.update_of_ne at_hash] at cached
      exact uncommitted.addressed.cached other held cached
  · exact uncommitted.code.refill
      (fun held cached => (uncommitted.addressed.cached codeHash held cached).trans same.symm)
      (uncommitted.inner ▸ stored)

private theorem UncommittedCode.cacheAccount {codeOf : B256 → Bytecode}
    {before db : CachedDatabase (TrieDatabase Trie KV)} {states : List EvmState}
    (uncommitted : UncommittedCode codeOf before states db) {info : AccountInfo}
    (stored : ∀ codeHash code, info.codeFor codeHash = some code →
      KeyValueDatabase.getCode db.inner.kvdb codeHash = .ok (some code)) :
    (∀ codeHash code, cacheCode db.code info codeHash = some code → code = codeOf codeHash) ∧
      Overlaid (fun codeHash code => KeyValueDatabase.getCode before.inner.kvdb codeHash = .ok (some code))
        before.code (writtenCode states) (cacheCode db.code info) := by
  unfold cacheCode
  cases held : info.code with
  | none => exact ⟨uncommitted.addressed.cached, uncommitted.code⟩
  | some code =>
    cases filled : code.isEmpty with
    | true => simpa [filled] using And.intro uncommitted.addressed.cached uncommitted.code
    | false =>
      simpa [filled] using uncommitted.cache
        (stored info.codeHash code (AccountInfo.codeFor_eq_some.mpr ⟨held, filled, rfl⟩))

theorem UncommittedCode.read {codeOf : B256 → Bytecode} {before db : CachedDatabase (TrieDatabase Trie KV)}
    {states : List EvmState} (uncommitted : UncommittedCode codeOf before states db) (read : Read) :
    UncommittedCode codeOf before states (Database.answer db read).2 := by
  have base := uncommitted.toUncommitted.read read
  cases read with
  | basic address =>
    change Uncommitted before states (db.basicRef address).2 at base
    change UncommittedCode codeOf before states (db.basicRef address).2
    rcases basicRef_cases db address with same | ⟨info, miss, answered, filled⟩
    · rw [same]
      exact uncommitted
    · rw [filled] at base ⊢
      have stored : ∀ codeHash code, info.codeFor codeHash = some code →
          KeyValueDatabase.getCode db.inner.kvdb codeHash = .ok (some code) :=
        fun codeHash code comes => TrieDatabase.basicRef_code answered comes
      obtain ⟨cached, overlaid⟩ := uncommitted.cacheAccount stored
      exact ⟨base, ⟨cached, uncommitted.addressed.stored⟩, overlaid⟩
  | codeByHash codeHash =>
    change Uncommitted before states (db.codeByHashRef codeHash).2 at base
    change UncommittedCode codeOf before states (db.codeByHashRef codeHash).2
    rcases codeByHashRef_cases db codeHash with same | ⟨code, miss, answered, filled, cached⟩
    · rw [same]
      exact uncommitted
    · rw [cached] at base ⊢
      obtain ⟨cached, overlaid⟩ := uncommitted.cache (TrieDatabase.codeByHashRef_stored answered filled)
      exact ⟨base, ⟨cached, uncommitted.addressed.stored⟩, overlaid⟩
  | storage address slot =>
    change Uncommitted before states (db.storageRef address slot).2 at base
    change UncommittedCode codeOf before states (db.storageRef address slot).2
    rcases storageRef_cases db address slot with same | ⟨value, miss, answered, filled⟩
    · rw [same]
      exact uncommitted
    · rw [filled] at base ⊢
      exact ⟨base, ⟨uncommitted.addressed.cached, uncommitted.addressed.stored⟩, uncommitted.code⟩
  | blockHash blockNumber =>
    change Uncommitted before states (db.blockHashRef blockNumber).2 at base
    change UncommittedCode codeOf before states (db.blockHashRef blockNumber).2
    obtain ⟨blockHashes, filled⟩ := blockHashRef_frame db blockNumber
    rw [filled] at base ⊢
    exact ⟨base, ⟨uncommitted.addressed.cached, uncommitted.addressed.stored⟩, uncommitted.code⟩

theorem UncommittedCode.commit {codeOf : B256 → Bytecode} {before db : CachedDatabase (TrieDatabase Trie KV)}
    {states : List EvmState} (uncommitted : UncommittedCode codeOf before states db) {state : EvmState}
    (comes : StateAddressed codeOf state) :
    UncommittedCode codeOf before (states ++ [state]) (db.commit state) where
  toUncommitted := uncommitted.toUncommitted.commit state
  addressed := by
    refine ⟨fun codeHash code cached => ?_, uncommitted.addressed.stored⟩
    change state.entries.foldl (fun cache entry => cacheCode cache entry.2.info) db.code codeHash = _ at cached
    rw [cacheCodes_apply, Option.or_eq_some_iff] at cached
    rcases cached with last | ⟨-, held⟩
    · obtain ⟨entry, member, found⟩ := List.mem_filterMap.mp (List.mem_of_getLast? last)
      exact comes entry member codeHash code found
    · exact uncommitted.addressed.cached codeHash code held
  code := by
    have written : (db.commit state).code = fun codeHash =>
        (state.entries.filterMap (·.2.info.codeFor codeHash)).getLast?.or (db.code codeHash) :=
      funext fun codeHash => cacheCodes_apply state.entries db.code codeHash
    rw [writtenCode_append, written]
    exact uncommitted.code.write _

/-- A block commit stores no code under a wrong hash. -/
theorem Addressed.commitBlock [LawfulKeyValueDatabase KV] {codeOf : B256 → Bytecode}
    {db : CachedDatabase (TrieDatabase Trie KV)} (addressed : Addressed codeOf db) (blockNumber : Nat)
    {states : List EvmState} (comes : ∀ state ∈ states, StateAddressed codeOf state) :
    Addressed codeOf (db.commitBlock blockNumber states).2 := by
  refine ⟨addressed.cached, fun codeHash code stored => ?_⟩
  have codeFrom := TrieDatabase.commitBlock_codeFrom db.inner blockNumber states
  rcases codeFrom.added codeHash code stored with stored | ⟨entry, member, found⟩
  · exact addressed.stored codeHash code stored
  · obtain ⟨state, listed, member⟩ := List.mem_flatMap.mp member
    exact comes state listed entry member codeHash code found

end CachedDatabase

end Montana.Storage
