import Mathlib.Data.List.DropRight
import Montana.Storage.Uncommitted

/-! The caches against the trie below them, when a block has been committed. The cache
keeps what it knew about an account that was destroyed; the trie does not. -/

namespace Montana.Storage

/-- The changes of one account after the last that destroys it. -/
def sinceDestroyed (changes : List Account) : List Account :=
  changes.rtakeWhile fun change => !change.isSelfdestructed

/-- What the trie makes of the changes of one account. -/
def commitChanges (changes : List Account) (leaf : Option Leaf) : Option Leaf :=
  changes.foldl (fun leaf change => commitAccount change leaf) leaf

/-- The last change decides about the account. -/
theorem commitChanges_body (changes : List Account) (leaf : Option Leaf) :
    (commitChanges changes leaf).map Leaf.body =
      match changes.getLast? with
      | some last => if last.isSelfdestructed then none else some last.info.body
      | none => leaf.map Leaf.body := by
  cases changes using List.reverseRecOn with
  | nil => rfl
  | append_singleton changes last =>
    rw [commitChanges, List.foldl_append, List.getLast?_concat]
    by_cases destroyed : last.isSelfdestructed <;> simp [commitAccount, destroyed]

private theorem sinceDestroyed_concat (changes : List Account) (last : Account) :
    sinceDestroyed (changes ++ [last]) =
      if last.isSelfdestructed then [] else sinceDestroyed changes ++ [last] := by
  by_cases destroyed : last.isSelfdestructed
  · simp [sinceDestroyed, destroyed]
  · simp [sinceDestroyed, destroyed]

private theorem commitAccount_slot {change : Account} (kept : ¬change.isSelfdestructed) (leaf : Option Leaf)
    (slot : U256) :
    slotValue (commitAccount change leaf) slot =
      match change.storage.lookup slot with
      | some value => value.presentValue
      | none => slotValue leaf slot := by
  rw [commitAccount, if_neg kept, applySlots_apply, slotValue]
  cases found : change.storage.lookup slot with
  | none => simp [storageAt, found, slotValue]
  | some value => by_cases zero : value.presentValue = 0 <;> simp_all [storageAt]

/-- The last write since the account was destroyed decides about a slot. -/
theorem commitChanges_slot (changes : List Account) (leaf : Option Leaf) (slot : U256) :
    slotValue (commitChanges changes leaf) slot =
      match (slotWrites (sinceDestroyed changes) slot).getLast? with
      | some value => value.presentValue
      | none => if changes.any Account.isSelfdestructed then 0 else slotValue leaf slot := by
  induction changes using List.reverseRecOn with
  | nil => rfl
  | append_singleton changes last ih =>
    rw [commitChanges, List.foldl_append, sinceDestroyed_concat]
    change slotValue (commitAccount last (commitChanges changes leaf)) slot = _
    by_cases destroyed : last.isSelfdestructed
    · simp [commitAccount, destroyed, slotValue, storageAt, slotWrites]
    · rw [commitAccount_slot destroyed, if_neg destroyed, slotWrites, List.filterMap_append,
        List.getLast?_append]
      cases found : last.storage.lookup slot with
      | none => simp [found, destroyed, ih, slotWrites]
      | some value => simp [found]

/-- Without a destroyed account every change counts. -/
theorem sinceDestroyed_of_none {changes : List Account} (kept : changes.any Account.isSelfdestructed = false) :
    sinceDestroyed changes = changes := by
  rw [sinceDestroyed, List.rtakeWhile_eq_self_iff]
  simpa using kept

private theorem slotWrites_sinceDestroyed {changes : List Account} {slot : U256} {value : EvmStorageSlot}
    (last : (slotWrites (sinceDestroyed changes) slot).getLast? = some value) :
    (slotWrites changes slot).getLast? = some value := by
  obtain ⟨earlier, split⟩ := List.rtakeWhile_suffix (fun change => !change.isSelfdestructed) changes
  have whole : slotWrites changes slot = slotWrites earlier slot ++ slotWrites (sinceDestroyed changes) slot := by
    rw [slotWrites, slotWrites, slotWrites, ← List.filterMap_append, sinceDestroyed, split]
  rw [whole, List.getLast?_append, last]
  rfl

namespace CachedDatabase

variable {Trie Txn KV : Type} [TrieTransaction Txn] [TrieDb Trie Txn] [KeyValueDatabase KV]

/-- Reads through the cache return the same as reads of the database below it; two
`AccountInfo` are the same when nonce, balance and code hash are. -/
structure Coherent (db : CachedDatabase (TrieDatabase Trie KV)) : Prop where
  accounts : ∀ address, (db.basicRef address).1.map (Option.map AccountInfo.body) =
    (db.inner.basicRef address).map (Option.map AccountInfo.body)
  storage : ∀ address slot, (db.storageRef address slot).1 = db.inner.storageRef address slot

/-- In the changes of a block to an account that it destroys, the account comes back, and
every slot that is cached with a value is written again after that. -/
def Restored (self : CachedDatabase (TrieDatabase Trie KV)) (address : Address) (changes : List Account) :
    Prop :=
  changes.any Account.isSelfdestructed → (∀ last, changes.getLast? = some last → ¬last.isSelfdestructed) ∧
    ∀ slot value, self.storage address slot = some value → value ≠ 0 →
      ∃ change ∈ sinceDestroyed changes, slot ∈ change.storage

variable [LawfulTransaction Txn] [LawfulTrieDb Trie Txn]

/-- What is cached agrees with the accounts of the trie. -/
structure Agrees (db : CachedDatabase (TrieDatabase Trie KV)) : Prop where
  accounts : ∀ address info, db.accounts address = some info →
    (db.inner.accounts address).map Leaf.body = some info.body
  storage : ∀ address slot value, db.storage address slot = some value →
    value = slotValue (db.inner.accounts address) slot

omit [KeyValueDatabase KV] in
theorem Agrees.new (inner : TrieDatabase Trie KV) : Agrees (CachedDatabase.new inner) where
  accounts _ _ cached := by cases cached
  storage _ _ _ cached := by cases cached

/-- Reads agree when the caches do, as long as the reads below succeed. -/
theorem coherent_iff_agrees (readable : TrieDatabase.Readable Trie KV)
    (self : CachedDatabase (TrieDatabase Trie KV)) : Coherent self ↔ Agrees self := by
  constructor
  · rintro ⟨accounts, storage⟩
    constructor
    · intro address info cached
      obtain ⟨stored, read⟩ := readable.basicRef self.inner address
      have same := accounts address
      rw [basicRef_hit cached, read] at same
      rw [← TrieDatabase.basicRef_accounts read]
      exact (Except.ok.inj same).symm
    · intro address slot value cached
      obtain ⟨stored, read⟩ := readable.storageRef self.inner address slot
      have same := storage address slot
      rw [storageRef_hit cached, read] at same
      rw [← TrieDatabase.storageRef_accounts read]
      exact Except.ok.inj same
  · rintro ⟨accounts, storage⟩
    constructor
    · intro address
      cases cached : self.accounts address with
      | some info =>
        obtain ⟨stored, read⟩ := readable.basicRef self.inner address
        rw [basicRef_hit cached, read, Except.map, Except.map, TrieDatabase.basicRef_accounts read,
          accounts address info cached]
        rfl
      | none => rw [basicRef_miss cached]
    · intro address slot
      cases cached : self.storage address slot with
      | some value =>
        obtain ⟨stored, read⟩ := readable.storageRef self.inner address slot
        rw [storageRef_hit cached, read, TrieDatabase.storageRef_accounts read,
          storage address slot value cached]
      | none => rw [storageRef_miss cached]

variable {before mid : CachedDatabase (TrieDatabase Trie KV)} {states : List EvmState}

/-- The cached account of a committed block agrees unless its last change destroys it. -/
theorem account_agrees_iff (uncommitted : Uncommitted before states mid) (agrees : Agrees before)
    (address : Address) :
    (∀ info, mid.accounts address = some info →
      (commitChanges (Keyed.changesAt states address) (before.inner.accounts address)).map Leaf.body =
        some info.body) ↔
      ∀ last, (Keyed.changesAt states address).getLast? = some last → ¬last.isSelfdestructed := by
  rw [commitChanges_body]
  cases final : (Keyed.changesAt states address).getLast? with
  | some last =>
    have cached : mid.accounts address = some last.info :=
      uncommitted.accounts.of_written (by rw [writtenInfo, final]; rfl)
    by_cases destroyed : last.isSelfdestructed <;> simp [cached, destroyed]
  | none =>
    have unwritten : writtenInfo states address = none := by rw [writtenInfo, final]; rfl
    refine iff_of_true (fun info cached => ?_) (by simp)
    rcases uncommitted.accounts.cached_unwritten unwritten cached with held | answered
    · exact agrees.accounts address info held
    · exact (TrieDatabase.basicRef_accounts answered).symm

/-- A cached slot of a committed block agrees unless it is a value from before the account
was destroyed. -/
theorem slot_agrees_iff (uncommitted : Uncommitted before states mid) (agrees : Agrees before)
    {address : Address} {slot value : U256} (cached : mid.storage address slot = some value) :
    value = slotValue (commitChanges (Keyed.changesAt states address) (before.inner.accounts address)) slot ↔
      ((Keyed.changesAt states address).any Account.isSelfdestructed → value ≠ 0 →
        ∃ change ∈ sinceDestroyed (Keyed.changesAt states address), slot ∈ change.storage) := by
  have cached_unwritten : writtenSlot states address slot = none →
      value = slotValue (before.inner.accounts address) slot := by
    intro unwritten
    rcases (uncommitted.storage address).cached_unwritten unwritten cached with held | answered
    · exact agrees.storage address slot value held
    · exact TrieDatabase.storageRef_accounts answered
  generalize same : Keyed.changesAt states address = changes
  rw [commitChanges_slot]
  cases final : (slotWrites (sinceDestroyed changes) slot).getLast? with
  | some last =>
    have written : mid.storage address slot = some last.presentValue :=
      (uncommitted.storage address).of_written (by
        rw [writtenSlot, same, slotWrites_sinceDestroyed final]
        rfl)
    refine iff_of_true (Option.some.inj (cached.symm.trans written)) fun _ _ => ?_
    obtain ⟨change, member, found⟩ := List.mem_filterMap.mp (List.mem_of_getLast? final)
    exact ⟨change, member, AList.lookup_isSome.mp (found ▸ rfl)⟩
  | none =>
    have unwritten : ∀ change ∈ sinceDestroyed changes, slot ∉ change.storage := by
      intro change member present
      have nothing : slotWrites (sinceDestroyed changes) slot = [] := List.getLast?_eq_none_iff.mp final
      rw [slotWrites, List.filterMap_eq_nil_iff] at nothing
      have found := AList.lookup_isSome.mpr present
      rw [nothing change member] at found
      contradiction
    cases destroyed : changes.any Account.isSelfdestructed with
    | true =>
      constructor
      · intro zero _ nonzero
        exact absurd zero nonzero
      · intro restored
        by_contra nonzero
        obtain ⟨change, member, present⟩ := restored rfl nonzero
        exact unwritten change member present
    | false =>
      rw [sinceDestroyed_of_none destroyed] at final
      refine iff_of_true (cached_unwritten ?_) (by simp)
      rw [writtenSlot, same, final]
      rfl

/-- A read keeps the caches in agreement with the trie. -/
theorem Agrees.read {db : CachedDatabase (TrieDatabase Trie KV)} (agrees : Agrees db) (read : Read) :
    Agrees (Database.answer db read).2 := by
  have unwritten := (Uncommitted.start db).read read
  constructor
  · intro address info cached
    rw [unwritten.inner]
    exact (account_agrees_iff unwritten agrees address).mpr (by simp [Keyed.changesAt]) info cached
  · intro address slot value cached
    rw [unwritten.inner]
    exact (slot_agrees_iff unwritten agrees cached).mpr (by simp [Keyed.changesAt])

omit [KeyValueDatabase KV] in
/-- Nothing has to be restored where no account is destroyed. -/
theorem restored_of_kept {states : List EvmState}
    (kept : ∀ state ∈ states, ∀ entry ∈ state.entries, ¬entry.2.isSelfdestructed)
    (db : CachedDatabase (TrieDatabase Trie KV)) (address : Address) :
    Restored db address (Keyed.changesAt states address) := by
  intro destroyed
  obtain ⟨change, member, destroyed⟩ := List.any_eq_true.mp destroyed
  obtain ⟨state, listed, found⟩ := List.mem_filterMap.mp member
  exact absurd destroyed (kept state listed ⟨address, change⟩ (AList.mem_lookup_iff.mp found))

/-- After a block is committed, the caches agree with the trie if and only if every
account that the block destroyed was restored. -/
theorem agrees_committed_iff {after : CachedDatabase (TrieDatabase Trie KV)} {blockNumber : Nat}
    {root : B256} (uncommitted : Uncommitted before states mid) (agrees : Agrees before)
    (committed : mid.commitBlock blockNumber states = (.ok root, after)) :
    Agrees after ↔ ∀ address, Restored mid address (Keyed.changesAt states address) := by
  unfold commitBlock at committed
  rcases inner : Database.commitBlock mid.inner blockNumber states with ⟨outcome, trie⟩
  rw [inner] at committed
  obtain ⟨rfl, rfl⟩ := Prod.mk.inj committed
  have applied : ∀ address, trie.accounts address =
      commitChanges (Keyed.changesAt states address) (before.inner.accounts address) := by
    intro address
    rw [TrieDatabase.commitBlock_accounts inner, uncommitted.inner, Keyed.applyMaps_apply]
    rfl
  constructor
  · rintro ⟨accounts, storage⟩ address
    have accounts := (account_agrees_iff uncommitted agrees address).mp fun info cached => by
      rw [← applied]
      exact accounts address info cached
    refine fun destroyed => ⟨accounts, fun slot value cached => ?_⟩
    refine (slot_agrees_iff uncommitted agrees cached).mp ?_ destroyed
    rw [← applied]
    exact storage address slot value cached
  · intro restored
    constructor
    · intro address info cached
      rw [applied]
      refine (account_agrees_iff uncommitted agrees address).mpr (fun last final destroyed => ?_) info cached
      have any : (Keyed.changesAt states address).any Account.isSelfdestructed :=
        List.any_eq_true.mpr ⟨last, List.mem_of_getLast? final, destroyed⟩
      exact (restored address any).1 last final destroyed
    · intro address slot value cached
      rw [applied]
      exact (slot_agrees_iff uncommitted agrees cached).mpr fun destroyed =>
        (restored address destroyed).2 slot value cached

end CachedDatabase

end Montana.Storage
