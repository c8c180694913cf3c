import Montana.Storage.TrieDatabase

/-! What the trie library and the key-value store are relied on for, and what a
block commit does to the accounts of the trie under these laws. -/

namespace Montana.Storage

/-- The part of an account that the trie stores; `AccountInfo` is compared by it. -/
structure AccountBody where
  nonce : Nat
  balance : U256
  codeHash : B256
  deriving DecidableEq, Repr

def AccountInfo.body (info : AccountInfo) : AccountBody := ⟨info.nonce, info.balance, info.codeHash⟩

def TrieAccount.body (account : TrieAccount) : AccountBody :=
  ⟨account.nonce, account.balance, account.codeHash⟩

/-- An account of the trie; its storage hangs below it. -/
structure Leaf where
  body : AccountBody
  storage : U256 → Option U256

/-- An absent account has no storage. -/
def storageAt (leaf : Option Leaf) (slot : U256) : Option U256 := leaf.bind (·.storage slot)

def slotValue (leaf : Option Leaf) (slot : U256) : U256 := (storageAt leaf slot).getD 0

def Leaf.setSlot (leaf : Leaf) (slot : U256) (value : Option U256) : Leaf :=
  { leaf with storage := Function.update leaf.storage slot value }

/-- A transaction as a map of accounts. Each law is about calls that succeed:
writing an account keeps its storage, deleting it removes the storage with it,
and a slot can only be stored below an account that is there. -/
class LawfulTransaction (Txn : Type) [TrieTransaction Txn] where
  view : Txn → Address → Option Leaf
  getAccount_view : ∀ {tx : Txn} {address account},
    TrieTransaction.getAccount tx address = .ok account →
      account.map TrieAccount.body = (view tx address).map Leaf.body
  getStorageSlot_view : ∀ {tx : Txn} {address slot value},
    TrieTransaction.getStorageSlot tx address slot = .ok value → value = storageAt (view tx address) slot
  setAccount_view : ∀ {tx tx' : Txn} {address} {account : TrieAccount},
    TrieTransaction.setAccount tx address (some account) = .ok tx' →
      view tx' = Function.update (view tx) address (some ⟨account.body, storageAt (view tx address)⟩)
  deleteAccount_view : ∀ {tx tx' : Txn} {address},
    TrieTransaction.setAccount tx address none = .ok tx' →
      view tx' = Function.update (view tx) address none
  setStorageSlot_view : ∀ {tx tx' : Txn} {address slot value},
    TrieTransaction.setStorageSlot tx address slot value = .ok tx' →
      view tx' = Function.update (view tx) address ((view tx address).map (·.setSlot slot value))

/-- A transaction starts from the committed accounts, and committing it installs its own. -/
class LawfulTrieDb (Trie : Type) (Txn : outParam Type) [TrieTransaction Txn] [TrieDb Trie Txn]
    [LawfulTransaction Txn] where
  view : Trie → Address → Option Leaf
  beginRo_view : ∀ {trie : Trie} {tx}, TrieDb.beginRo trie = .ok tx →
    LawfulTransaction.view tx = view trie
  beginRw_view : ∀ {trie : Trie} {tx}, TrieDb.beginRw trie = .ok tx →
    LawfulTransaction.view tx = view trie
  commitRw_view : ∀ {trie trie' : Trie} {tx}, TrieDb.commitRw trie tx = .ok trie' →
    view trie' = LawfulTransaction.view tx

/-- Writes of code are kept apart by their hashes, and a failed one stores nothing else. -/
class LawfulKeyValueDatabase (KV : Type) [KeyValueDatabase KV] : Prop where
  getCode_setCode_ne : ∀ (kvdb : KV) {codeHash other : B256} (code : Bytes), other ≠ codeHash →
    KeyValueDatabase.getCode (KeyValueDatabase.setCode kvdb codeHash code).2 other =
      KeyValueDatabase.getCode kvdb other
  getCode_setCode : ∀ (kvdb : KV) {codeHash : B256} {code stored : Bytes},
    KeyValueDatabase.getCode (KeyValueDatabase.setCode kvdb codeHash code).2 codeHash = .ok (some stored) →
      stored = code ∨ KeyValueDatabase.getCode kvdb codeHash = .ok (some stored)
  getCode_setHeader : ∀ (kvdb : KV) (blockNumber : Nat) (header : Header) (codeHash : B256),
    KeyValueDatabase.getCode (KeyValueDatabase.setHeader kvdb blockNumber header).2 codeHash =
      KeyValueDatabase.getCode kvdb codeHash

/-- What `commit_block` makes of one account. -/
def commitAccount (account : Account) (leaf : Option Leaf) : Option Leaf :=
  if account.isSelfdestructed then none
  else some {
    body := account.info.body
    storage := Keyed.applyMap (fun value _ => TrieDatabase.storageValue value) (storageAt leaf)
      account.storage }

/-- The loop over the slots writes the given ones and keeps the others. -/
theorem applySlots_apply (slots : AList fun _ : U256 => EvmStorageSlot) (storage : U256 → Option U256) :
    Keyed.applyMap (fun value _ => TrieDatabase.storageValue value) storage slots = fun slot =>
      match slots.lookup slot with
      | some value => if value.presentValue = 0 then none else some value.presentValue
      | none => storage slot := by
  funext slot
  rw [Keyed.applyMap_apply]
  cases slots.lookup slot <;> rfl

namespace TrieDatabase

variable {Trie Txn KV : Type} [TrieTransaction Txn] [TrieDb Trie Txn] [KeyValueDatabase KV]
variable [LawfulTransaction Txn]

section Commit

open LawfulTransaction (view)

/-- The loop over the slots changes the storage of an account that is there. -/
theorem updateSlots_view {address : Address} {entries : List ((_ : U256) × EvmStorageSlot)}
    {tx tx' : Txn} (updated : entries.foldlM (updateSlot address) tx = .ok tx') :
    view tx' = Function.update (view tx) address ((view tx address).map fun leaf =>
      { leaf with storage :=
          entries.foldl (Keyed.applyEntry fun value _ => storageValue value) leaf.storage }) := by
  induction entries generalizing tx with
  | nil =>
    cases updated
    simp
  | cons entry rest ih =>
    rw [List.foldlM_cons] at updated
    cases written : TrieTransaction.setStorageSlot tx address entry.1 (storageValue entry.2) with
    | error e => simp [updateSlot, written, Except.mapError, bind, Except.bind] at updated
    | ok next =>
      have rest := ih (by simpa [updateSlot, written, Except.mapError, bind, Except.bind] using updated)
      rw [rest, LawfulTransaction.setStorageSlot_view written]
      simp only [Function.update_idem, Function.update_self, Option.map_map]
      rfl

/-- The account is written or deleted, whatever becomes of its code. -/
theorem updateAccount_view {kvdb kvdb' : KV} {tx tx' : Txn} {address : Address} {account : Account}
    (updated : updateAccount kvdb tx address account = (.ok tx', kvdb')) :
    view tx' = Function.update (view tx) address
      (if account.isSelfdestructed then none
        else some ⟨account.info.body, storageAt (view tx address)⟩) := by
  unfold updateAccount at updated
  by_cases destroyed : account.isSelfdestructed
  · rw [if_pos destroyed] at updated ⊢
    cases deleted : TrieTransaction.setAccount tx address none with
    | error e => simp [deleted, Except.mapError] at updated
    | ok next =>
      simp only [deleted, Except.mapError, Prod.mk.injEq, Except.ok.injEq] at updated
      rw [← updated.1]
      exact LawfulTransaction.deleteAccount_view deleted
  · rw [if_neg destroyed] at updated ⊢
    dsimp only at updated
    split at updated
    · simp at updated
    · rename_i next written
      split at updated
      · simp at updated
      · cases updated
        exact LawfulTransaction.setAccount_view written

private theorem applyChanges_view {kvdb kvdb' : KV} {tx tx' : Txn}
    {entries : List ((_ : Address) × Account)}
    (applied : applyChanges kvdb tx entries = (.ok tx', kvdb')) :
    view tx' = entries.foldl (Keyed.applyEntry commitAccount) (view tx) := by
  induction entries generalizing kvdb tx with
  | nil =>
    cases applied
    rfl
  | cons entry rest ih =>
    rw [applyChanges] at applied
    split at applied
    · simp at applied
    · rename_i accountUpdated
      split at applied
      · simp at applied
      · rename_i slotsUpdated
        rw [ih applied, updateSlots_view slotsUpdated, updateAccount_view accountUpdated,
          List.foldl_cons, Function.update_idem, Function.update_self]
        congr 1
        rw [Keyed.applyEntry, commitAccount]
        by_cases destroyed : entry.2.isSelfdestructed <;> simp [destroyed, Keyed.applyMap]

private theorem applyTransactions_view {kvdb kvdb' : KV} {tx tx' : Txn} {states : List EvmState}
    (applied : applyTransactions kvdb tx states = (.ok tx', kvdb')) :
    view tx' = Keyed.applyMaps commitAccount (view tx) states := by
  induction states generalizing kvdb tx with
  | nil =>
    cases applied
    rfl
  | cons state rest ih =>
    rw [applyTransactions] at applied
    split at applied
    · simp at applied
    · rename_i changed
      rw [ih applied, applyChanges_view changed]
      rfl

end Commit

variable [LawfulTrieDb Trie Txn]

def accounts (self : TrieDatabase Trie KV) : Address → Option Leaf := LawfulTrieDb.view self.inner

/-- A successful block commit applies the changes of its transactions in order. -/
theorem commitBlock_accounts {self after : TrieDatabase Trie KV} {blockNumber : Nat}
    {states : List EvmState} {root : B256}
    (committed : self.commitBlock blockNumber states = (.ok root, after)) :
    after.accounts = Keyed.applyMaps commitAccount self.accounts states := by
  unfold commitBlock at committed
  split at committed
  · simp at committed
  · rename_i begun
    split at committed
    · simp at committed
    · rename_i applied
      split at committed
      · simp at committed
      · rename_i written
        dsimp only at committed
        split at committed
        · simp at committed
        · cases committed
          rw [accounts, LawfulTrieDb.commitRw_view written, applyTransactions_view applied,
            LawfulTrieDb.beginRw_view begun]
          rfl

omit [KeyValueDatabase KV] in
/-- A read transaction answers from the committed accounts. -/
private theorem read_ok {self : TrieDatabase Trie KV} {get : Txn → Except DbError α} {value : α}
    (succeeded : self.read get = .ok value) :
    ∃ tx, LawfulTransaction.view tx = self.accounts ∧ get tx = .ok value := by
  unfold read at succeeded
  split at succeeded
  · simp at succeeded
  · rename_i tx begun
    split at succeeded
    · simp at succeeded
    · rename_i got
      split at succeeded
      · simp at succeeded
      · cases succeeded
        exact ⟨tx, LawfulTrieDb.beginRo_view begun, got⟩

theorem basicRef_accounts {self : TrieDatabase Trie KV} {address : Address}
    {info : Option AccountInfo} (succeeded : self.basicRef address = .ok info) :
    info.map AccountInfo.body = (self.accounts address).map Leaf.body := by
  unfold basicRef at succeeded
  split at succeeded
  · simp at succeeded
  · rename_i got
    obtain ⟨tx, viewed, got⟩ := read_ok got
    cases found : TrieTransaction.getAccount tx address with
    | error e => simp [found, Except.mapError] at got
    | ok account =>
      cases succeeded
      obtain rfl : account = none := by simpa [found, Except.mapError] using got
      rw [← viewed, ← LawfulTransaction.getAccount_view found]
      rfl
  · rename_i acc got
    obtain ⟨tx, viewed, got⟩ := read_ok got
    cases found : TrieTransaction.getAccount tx address with
    | error e => simp [found, Except.mapError] at got
    | ok account =>
      obtain rfl : account = some acc := by simpa [found, Except.mapError] using got
      rw [← viewed, ← LawfulTransaction.getAccount_view found]
      split at succeeded
      · simp at succeeded
      · cases succeeded
        rfl

omit [KeyValueDatabase KV] in
theorem storageRef_accounts {self : TrieDatabase Trie KV} {address : Address} {slot value : U256}
    (succeeded : self.storageRef address slot = .ok value) :
    value = slotValue (self.accounts address) slot := by
  unfold storageRef at succeeded
  split at succeeded
  · simp at succeeded
  · rename_i got
    obtain ⟨tx, viewed, got⟩ := read_ok got
    cases found : TrieTransaction.getStorageSlot tx address slot with
    | error e => simp [found, Except.mapError] at got
    | ok stored =>
      obtain rfl : stored = _ := by simpa [found, Except.mapError] using got
      cases succeeded
      rw [slotValue, ← viewed, ← LawfulTransaction.getStorageSlot_view found]

variable (Trie KV) in
/-- No read of an account or a slot fails. -/
structure Readable : Prop where
  basicRef : ∀ (self : TrieDatabase Trie KV) address, ∃ info, self.basicRef address = .ok info
  storageRef : ∀ (self : TrieDatabase Trie KV) address slot, ∃ value,
    self.storageRef address slot = .ok value

end TrieDatabase

end Montana.Storage
