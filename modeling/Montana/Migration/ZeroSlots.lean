import Mathlib.Data.List.Induction
import Montana.Migration.Batches

/-! A slot that is migrated and one that a block writes are absent in different ways. -/

namespace Montana.Migration

open Storage

/-- What the entries say last about a slot. -/
def lastValue (entries : List (Address × StorageEntry)) (address : Address) (slot : U256) : Option U256 :=
  entries.foldl (fun sofar entry =>
    if entry.1 = address ∧ entry.2.slot = slot then some entry.2.value else sofar) none

theorem lastValue_append (entries : List (Address × StorageEntry)) (entry : Address × StorageEntry)
    (address : Address) (slot : U256) :
    lastValue (entries ++ [entry]) address slot =
      if entry.1 = address ∧ entry.2.slot = slot then some entry.2.value
      else lastValue entries address slot := by
  rw [lastValue, List.foldl_append]
  rfl

/-- Slot by slot, the last write counts. -/
theorem setSlots_apply (entries : List (Address × StorageEntry)) (leaves : Leaves) (address : Address) :
    entries.foldl setSlot leaves address = (leaves address).map fun leaf =>
      { leaf with storage := fun slot =>
          ((lastValue entries address slot).map some).getD (leaf.storage slot) } := by
  induction entries using List.reverseRecOn with
  | nil => cases found : leaves address <;> simp [lastValue, found]
  | append_singleton entries entry ih =>
    rw [List.foldl_append, List.foldl_cons, List.foldl_nil, setSlot]
    by_cases own : entry.1 = address
    · subst own
      rw [Function.update_self, ih, Option.map_map]
      congr 1
      funext leaf
      simp only [Function.comp_apply, Leaf.setSlot, Leaf.mk.injEq, true_and]
      funext slot
      by_cases same : entry.2.slot = slot
      · subst same
        simp [lastValue_append]
      · rw [Function.update_of_ne (Ne.symm same)]
        simp [lastValue_append, same]
    · rw [Function.update_of_ne (Ne.symm own), ih]
      simp [lastValue_append, own]

variable {Trie Txn KV : Type} [TrieTransaction Txn]

namespace Migrator

/-- The entries of a table, one after the other. -/
def processStorageEntries (dstTxn : Txn) (stats : MigrationStats) (values : List (Address × Bytes)) :
    Txn × MigrationStats :=
  values.foldl (fun state value => processStorageEntry state.1 value.1 value.2 state.2) (dstTxn, stats)

private theorem storageErrors_le_entry (dstTxn : Txn) (address : Address) (value : Bytes)
    (stats : MigrationStats) :
    stats.storageErrors ≤ (processStorageEntry dstTxn address value stats).2.storageErrors := by
  rw [processStorageEntry]
  split
  · split
    · exact Nat.le_succ _
    · exact Nat.le_refl _
  · exact Nat.le_succ _

private theorem storageErrors_le (values : List (Address × Bytes)) (dstTxn : Txn) (stats : MigrationStats) :
    stats.storageErrors ≤ (processStorageEntries dstTxn stats values).2.storageErrors := by
  induction values generalizing dstTxn stats with
  | nil => exact Nat.le_refl _
  | cons value rest ih => exact Nat.le_trans (storageErrors_le_entry dstTxn value.1 value.2 stats) (ih _ _)

variable [LawfulTransaction Txn]

/-- Without errors every entry is written. -/
theorem processStorageEntries_view {values : List (Address × Bytes)} {entries : List (Address × StorageEntry)}
    (decodable : values.map (fun value => (value.1, decodeStorageEntry value.2)) =
      entries.map fun entry => (entry.1, .ok entry.2))
    (dstTxn : Txn) (stats : MigrationStats)
    (noErrors : (processStorageEntries dstTxn stats values).2.storageErrors = stats.storageErrors) :
    LawfulTransaction.view (processStorageEntries dstTxn stats values).1 =
      entries.foldl setSlot (LawfulTransaction.view dstTxn) := by
  induction values generalizing entries dstTxn stats with
  | nil =>
    cases entries with
    | nil => rfl
    | cons entry rest => cases decodable
  | cons value values ih =>
    cases entries with
    | nil => cases decodable
    | cons entry entries =>
      simp only [List.map_cons, List.cons.injEq, Prod.mk.injEq] at decodable
      obtain ⟨⟨sameAddress, decoded⟩, decodable⟩ := decodable
      change (processStorageEntries (processStorageEntry dstTxn value.1 value.2 stats).1
        (processStorageEntry dstTxn value.1 value.2 stats).2 values).2.storageErrors = _ at noErrors
      change LawfulTransaction.view (processStorageEntries (processStorageEntry dstTxn value.1 value.2 stats).1
        (processStorageEntry dstTxn value.1 value.2 stats).2 values).1 = _
      cases set : TrieTransaction.setStorageSlot dstTxn value.1 entry.2.slot (some entry.2.value) with
      | error e =>
        rw [processStorageEntry_refused decoded set] at noErrors
        have counted := storageErrors_le values dstTxn { stats with storageErrors := stats.storageErrors + 1 }
        dsimp only at counted noErrors
        omega
      | ok dstTxn' =>
        rw [processStorageEntry_set decoded set] at noErrors ⊢
        rw [ih decodable _ _ noErrors, List.foldl_cons, setSlot, ← sameAddress]
        exact congrArg (entries.foldl setSlot) (LawfulTransaction.setStorageSlot_view set)

end Migrator

/-- The block changes the slots of its accounts to these values and nothing else. -/
structure SameSlots (changes : EvmState) (entries : List (Address × StorageEntry)) (leaves : Leaves) : Prop where
  slots : ∀ address slot, ((changes.lookup address).bind fun account =>
    (account.storage.lookup slot).map EvmStorageSlot.presentValue) = lastValue entries address slot
  kept : ∀ address account, changes.lookup address = some account →
    account.isSelfdestructed = false ∧ ∃ leaf, leaves address = some leaf ∧ leaf.body = account.info.body

private theorem commitAccount_storage {account : Account} (alive : account.isSelfdestructed = false)
    (leaf : Option Leaf)
    (slot : U256) : storageAt (commitAccount account leaf) slot =
      match account.storage.lookup slot with
      | some value => if value.presentValue = 0 then none else some value.presentValue
      | none => storageAt leaf slot := by
  rw [commitAccount, alive, if_neg (by simp), applySlots_apply]
  rfl

section Committed

variable {changes : EvmState} {entries : List (Address × StorageEntry)} {leaves : Leaves}

/-- Without zeros both writers leave the same account. -/
theorem setSlots_eq_commit (same : SameSlots changes entries leaves)
    (nonzero : ∀ address slot, lastValue entries address slot ≠ some 0) (address : Address) :
    entries.foldl setSlot leaves address = Keyed.applyMap commitAccount leaves changes address := by
  rw [setSlots_apply, Keyed.applyMap_apply]
  cases changed : changes.lookup address with
  | none =>
    have untouched : ∀ slot, lastValue entries address slot = none := by
      intro slot
      rw [← same.slots address slot, changed]
      rfl
    simp [untouched]
  | some account =>
    obtain ⟨alive, leaf, present, body⟩ := same.kept address account changed
    rw [present]
    simp only [Option.map_some, Option.getD_some, commitAccount, alive, Bool.false_eq_true, if_false,
      applySlots_apply, Option.some.injEq, Leaf.mk.injEq, body, true_and]
    funext slot
    have value := same.slots address slot
    rw [changed, Option.bind_some] at value
    cases found : account.storage.lookup slot with
    | none =>
      rw [found] at value
      simp [← value, storageAt]
    | some written =>
      rw [found] at value
      have isNonzero : written.presentValue ≠ 0 := by
        intro zero
        apply nonzero address slot
        rw [← value, ← zero]
        rfl
      simpa [← value] using isNonzero

/-- A zero stays behind where a block would have removed the slot. -/
theorem setSlots_ne_commit (same : SameSlots changes entries leaves) {address : Address} {slot : U256}
    (zero : lastValue entries address slot = some 0) :
    storageAt (entries.foldl setSlot leaves address) slot = some 0 ∧
      storageAt (Keyed.applyMap commitAccount leaves changes address) slot = none := by
  have value := same.slots address slot
  rw [zero] at value
  obtain ⟨account, changed, found⟩ := Option.bind_eq_some_iff.mp value
  obtain ⟨written, stored, isZero⟩ := Option.map_eq_some_iff.mp found
  obtain ⟨alive, leaf, present, -⟩ := same.kept address account changed
  constructor
  · rw [setSlots_apply, present]
    simp [storageAt, zero]
  · rw [Keyed.applyMap_apply, changed, Option.map_some, Option.getD_some, commitAccount_storage alive, stored]
    simp [isZero]

end Committed

variable [TrieDb Trie Txn] [KeyValueDatabase KV] [LawfulTransaction Txn] [LawfulTrieDb Trie Txn]

/-- Migrated and committed slots agree exactly when no slot was left at zero. -/
theorem migrated_eq_committed_iff {self after : TrieDatabase Trie KV} {changes : EvmState} {blockNumber : Nat}
    {root : B256} (committed : self.commitBlock blockNumber [changes] = (.ok root, after))
    {values : List (Address × Bytes)} {entries : List (Address × StorageEntry)}
    (decodable : values.map (fun value => (value.1, decodeStorageEntry value.2)) =
      entries.map fun entry => (entry.1, .ok entry.2))
    (same : SameSlots changes entries self.accounts) {dstTxn dstTxn' : Txn} {stats : MigrationStats}
    (begun : LawfulTransaction.view dstTxn = self.accounts)
    (migrated : Migrator.processStorageEntries dstTxn {} values = (dstTxn', stats))
    (noErrors : stats.storageErrors = 0) :
    LawfulTransaction.view dstTxn' = after.accounts ↔
      ∀ address slot, lastValue entries address slot ≠ some 0 := by
  have written := Migrator.processStorageEntries_view decodable dstTxn {} (by rw [migrated]; exact noErrors)
  rw [migrated, begun] at written
  have blocked : after.accounts = Keyed.applyMap commitAccount self.accounts changes :=
    TrieDatabase.commitBlock_accounts committed
  rw [written, blocked]
  constructor
  · intro agree address slot zero
    obtain ⟨left, right⟩ := setSlots_ne_commit same zero
    rw [agree, right] at left
    cases left
  · intro nonzero
    funext address
    exact setSlots_eq_commit same nonzero address

section Examples

open Reference

/-- One account whose slot 0 a block sets to the value. -/
def oneSlot (value : U256) : EvmState :=
  stateOf [⟨1, { emptyAccount with storage := [⟨0, ⟨value⟩⟩].toAList }⟩]

def oneAccount : TrieDatabase MemoryTrie MemoryKv := database [(1, ⟨emptyAccount.info.body, fun _ => none⟩)]

private theorem oneSlot_same (value : U256) :
    SameSlots (oneSlot value) [(1, ⟨0, value⟩)] oneAccount.accounts where
  slots address slot := by
    by_cases own : address = 1
    · subst own
      by_cases zero : slot = 0
      · subst zero
        rfl
      · have other : (oneSlot value).lookup 1 =
            some { emptyAccount with storage := [⟨0, ⟨value⟩⟩].toAList } := rfl
        rw [other, Option.bind_some, AList.lookup_to_alist, List.dlookup_cons_ne _ _ zero]
        simpa [lastValue] using fun same => zero same.symm
    · rw [oneSlot, stateOf, AList.lookup_to_alist, List.dlookup_cons_ne _ _ own]
      simpa [lastValue] using fun same => absurd same.symm own
  kept address account changed := by
    by_cases own : address = 1
    · subst own
      cases changed
      exact ⟨rfl, _, rfl, rfl⟩
    · rw [oneSlot, stateOf, AList.lookup_to_alist, List.dlookup_cons_ne _ _ own] at changed
      cases changed

theorem migrated_eq_committed_iff_five :
    (Migrator.processStorageEntries oneAccount.inner {} [(1, List.replicate 32 0 ++ [5])]).1.accounts =
      (oneAccount.commitBlock 1 [oneSlot 5]).2.inner.accounts := by
  have committed : oneAccount.commitBlock 1 [oneSlot 5] =
      (.ok 0, (oneAccount.commitBlock 1 [oneSlot 5]).2) := rfl
  have decodable : [((1 : Address), List.replicate 32 0 ++ [5])].map
      (fun value => (value.1, decodeStorageEntry value.2)) =
        [((1 : Address), (⟨0, 5⟩ : StorageEntry))].map fun entry => (entry.1, .ok entry.2) := by decide
  apply (migrated_eq_committed_iff committed decodable (oneSlot_same 5) rfl rfl rfl).2
  intro address slot zero
  simp only [lastValue, List.foldl_cons, List.foldl_nil] at zero
  split at zero
  · cases zero
  · cases zero

/-- A slot whose value decodes to zero is kept as zero by the migration and removed by a block. -/
theorem migrated_ne_committed_zero :
    decodeStorageEntry (List.replicate 32 0) = .ok ⟨0, 0⟩ ∧
      storageAt ((Migrator.processStorageEntries oneAccount.inner {}
        [(1, List.replicate 32 0)]).1.accounts 1) 0 = some 0 ∧
      storageAt ((oneAccount.commitBlock 1 [oneSlot 0]).2.inner.accounts 1) 0 = none := by
  refine ⟨by decide, ?_, ?_⟩
  · rfl
  · rfl

end Examples

end Montana.Migration
