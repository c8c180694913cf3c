import Montana.Lib.Runs
import Montana.Storage.Reference

/-! `TrieDatabase::commit_block` against the commit rule of the EVM. The code
writes every account it is given, touched or not, empty or not. -/

namespace Montana.Storage

/-- `AccountInfo::is_empty` of the EVM: nothing that EIP-161 keeps an account for. -/
def AccountInfo.isEmpty (info : AccountInfo) : Bool :=
  info.nonce = 0 && info.balance = 0 && (info.codeHash = keccakEmpty || info.codeHash = 0)

/-- The EVM's rule for one account. -/
def evmAccount (account : Account) (leaf : Option Leaf) : Option Leaf :=
  if !account.touched then leaf
  else if account.isSelfdestructed || account.info.isEmpty then none
  else some {
    body := account.info.body
    storage := fun slot =>
      match account.storage.lookup slot with
      | some value => if value.presentValue = 0 then none else some value.presentValue
      | none => storageAt leaf slot }

/-- The change says what the code makes of it: a touched account is destroyed or not
empty, and an untouched one repeats what the trie holds. -/
def Faithful (account : Account) (leaf : Option Leaf) : Prop :=
  match account.touched, leaf with
  | true, _ => account.isSelfdestructed ∨ ¬account.info.isEmpty
  | false, none => account.isSelfdestructed
  | false, some leaf => ¬account.isSelfdestructed ∧ leaf.body = account.info.body ∧
      ∀ entry ∈ account.storage.entries, leaf.storage entry.1 = TrieDatabase.storageValue entry.2

instance (account : Account) (leaf : Option Leaf) : Decidable (Faithful account leaf) := by
  unfold Faithful
  split <;> infer_instance

/-- Every change of one transaction is faithful to the accounts before it. -/
def FaithfulState (accounts : Address → Option Leaf) (state : EvmState) : Prop :=
  ∀ entry ∈ state.entries, Faithful entry.2 (accounts entry.1)

instance (accounts : Address → Option Leaf) (state : EvmState) :
    Decidable (FaithfulState accounts state) :=
  inferInstanceAs (Decidable (∀ entry ∈ state.entries, Faithful entry.2 (accounts entry.1)))

/-- A touched account is committed as the rule says unless it is left over empty. -/
theorem commitAccount_touched {account : Account} (touched : account.touched) (leaf : Option Leaf) :
    commitAccount account leaf = evmAccount account leaf ↔
      account.isSelfdestructed ∨ ¬account.info.isEmpty := by
  unfold commitAccount evmAccount
  rw [applySlots_apply]
  by_cases destroyed : account.isSelfdestructed
  · simp [touched, destroyed]
  · by_cases empty : account.info.isEmpty
    · simp [touched, destroyed, empty]
    · simp only [touched, destroyed, empty]
      refine iff_of_true ?_ (.inr (by simp))
      refine congrArg (fun storage => some (Leaf.mk account.info.body storage)) (funext fun slot => ?_)
      cases account.storage.lookup slot <;> rfl

/-- An untouched account is left alone when the write repeats what was there. -/
theorem commitAccount_existing (account : Account) (leaf : Leaf) :
    commitAccount account (some leaf) = some leaf ↔
      ¬account.isSelfdestructed ∧ leaf.body = account.info.body ∧
        ∀ entry ∈ account.storage.entries, leaf.storage entry.1 = TrieDatabase.storageValue entry.2 := by
  obtain ⟨body, storage⟩ := leaf
  have kept := Keyed.applyMap_eq_self_iff (fun value _ => TrieDatabase.storageValue value) storage
    account.storage
  unfold commitAccount
  by_cases destroyed : account.isSelfdestructed
  · simp [destroyed]
  · rw [if_neg destroyed, Option.some.injEq, Leaf.mk.injEq]
    constructor
    · rintro ⟨sameBody, sameStorage⟩
      exact ⟨destroyed, sameBody.symm, fun entry member => (kept.mp sameStorage entry member).symm⟩
    · rintro ⟨-, sameBody, sameSlots⟩
      exact ⟨sameBody.symm, kept.mpr fun entry member => (sameSlots entry member).symm⟩

private theorem commitAccount_eq_iff (account : Account) (leaf : Option Leaf) :
    commitAccount account leaf = evmAccount account leaf ↔ Faithful account leaf := by
  unfold Faithful
  cases touched : account.touched with
  | true => exact commitAccount_touched touched leaf
  | false =>
    have ignored : evmAccount account leaf = leaf := by simp [evmAccount, touched]
    rw [ignored]
    cases leaf with
    | none => by_cases destroyed : account.isSelfdestructed <;> simp [commitAccount, destroyed]
    | some leaf => exact commitAccount_existing account leaf

/-- One transaction is committed as the rule says when each of its changes is faithful. -/
theorem commitState_eq_iff (accounts : Address → Option Leaf) (state : EvmState) :
    Keyed.applyMap commitAccount accounts state = Keyed.applyMap evmAccount accounts state ↔
      FaithfulState accounts state := by
  rw [Keyed.applyMap_eq_iff]
  exact forall₂_congr fun entry _ => commitAccount_eq_iff entry.2 (accounts entry.1)

namespace TrieDatabase

variable {Trie Txn KV : Type} [TrieTransaction Txn] [TrieDb Trie Txn] [KeyValueDatabase KV]
variable [LawfulTransaction Txn] [LawfulTrieDb Trie Txn]

/-- A block is committed as the rule says when every change is faithful to the state that it
meets. The trie goes through the EVM's states of the block, transaction by transaction, if
and only if that is so. -/
theorem commits_rule_iff_faithful (self : TrieDatabase Trie KV) (blockNumber : Nat)
    (states : List EvmState) :
    (Runs.Guarded (Keyed.applyMap evmAccount) FaithfulState self.accounts states →
      ∀ root after, self.commitBlock blockNumber states = (.ok root, after) →
        after.accounts = Keyed.applyMaps evmAccount self.accounts states) ∧
    ((∀ count, ∃ root after, self.commitBlock blockNumber (states.take count) = (.ok root, after)) →
      ((∀ count root after, self.commitBlock blockNumber (states.take count) = (.ok root, after) →
          after.accounts = Keyed.applyMaps evmAccount self.accounts (states.take count)) ↔
        Runs.Guarded (Keyed.applyMap evmAccount) FaithfulState self.accounts states)) := by
  have agree := Runs.guarded_iff_agree commitState_eq_iff states self.accounts
  constructor
  · intro faithful root after committed
    have same := agree.mpr faithful states.length
    rw [List.take_length] at same
    exact (commitBlock_accounts committed).trans same
  · intro succeeds
    rw [← agree]
    refine forall_congr' fun count => ?_
    constructor
    · intro applied
      obtain ⟨root, after, committed⟩ := succeeds count
      exact (commitBlock_accounts committed).symm.trans (applied root after committed)
    · intro same root after committed
      exact (commitBlock_accounts committed).trans same

end TrieDatabase

section Examples

open Reference

/-- A transfer between two accounts, one of which is new. -/
def transferred : EvmState := stateOf [⟨1, { emptyAccount with
    info := { balance := 90, nonce := 1, codeHash := keccakEmpty, code := none }
    touched := true
    loadedAsNotExisting := false }⟩,
  ⟨2, { emptyAccount with
    info := { balance := 10, nonce := 0, codeHash := keccakEmpty, code := none }
    touched := true }⟩]

def funded : TrieDatabase MemoryTrie MemoryKv := database [(1, ⟨⟨0, 100, keccakEmpty⟩, fun _ => none⟩)]

theorem transfer_committed_as_rule :
    ∃ root after, funded.commitBlock 1 [transferred] = (.ok root, after) ∧
      after.accounts = Keyed.applyMaps evmAccount funded.accounts [transferred] ∧
      Runs.Guarded (Keyed.applyMap evmAccount) FaithfulState funded.accounts [transferred] := by
  obtain ⟨sufficient, exact⟩ := TrieDatabase.commits_rule_iff_faithful funded 1 [transferred]
  have faithful : Runs.Guarded (Keyed.applyMap evmAccount) FaithfulState funded.accounts [transferred] := by
    decide
  have every := (exact fun _ => commitBlock_memory _ _ _).mpr faithful
  exact ⟨_, _, rfl, sufficient faithful _ _ rfl,
    (exact fun _ => commitBlock_memory _ _ _).mp every⟩

/-- An address that was only looked at, and was not there, is in the trie afterwards. -/
theorem loaded_account_created :
    ∃ root after, (database []).commitBlock 1 [stateOf [⟨7, emptyAccount⟩]] = (.ok root, after) ∧
      after.accounts ≠ Keyed.applyMaps evmAccount (database []).accounts [stateOf [⟨7, emptyAccount⟩]] := by
  refine ⟨_, _, rfl, fun same => ?_⟩
  have absent : Keyed.applyMaps evmAccount (database []).accounts [stateOf [⟨7, emptyAccount⟩]] 7 = none := by
    decide
  exact Option.some_ne_none _ ((congrFun same 7).trans absent)

end Examples

end Montana.Storage
