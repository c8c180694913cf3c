import Montana.Storage.CodeHashes
import Montana.Storage.Coherence

/-! The state of the chain as a ledger: all accounts are at hand, and a transaction is
applied to them when it is committed. It is what the caches over the trie stand for. -/

namespace Montana.Storage

structure LedgerAccount where
  info : AccountInfo
  storage : U256 → U256

namespace LedgerAccount

/-- An absent account has no storage. -/
def slot (self : Option LedgerAccount) (slot : U256) : U256 := self.elim 0 fun account => account.storage slot

/-- What the trie keeps of an account: no slot that is zero, and no code. -/
def leaf (self : LedgerAccount) : Leaf where
  body := self.info.body
  storage slot := if self.storage slot = 0 then none else some (self.storage slot)

/-- What a transaction makes of one account. -/
def change (account : Account) (self : Option LedgerAccount) : Option LedgerAccount :=
  if account.isSelfdestructed then none
  else some {
    info := account.info
    storage slot := ((account.storage.lookup slot).map EvmStorageSlot.presentValue).getD
      (LedgerAccount.slot self slot) }

/-- The trie makes the same of what it keeps. -/
theorem change_leaf (account : Account) (self : Option LedgerAccount) :
    (change account self).map leaf = commitAccount account (self.map leaf) := by
  rw [commitAccount, change]
  by_cases destroyed : account.isSelfdestructed
  · rw [if_pos destroyed, if_pos destroyed]
    rfl
  · rw [if_neg destroyed, if_neg destroyed, Option.map_some]
    have written (value : Option EvmStorageSlot) (slot : U256) :
        (if (value.map EvmStorageSlot.presentValue).getD (LedgerAccount.slot self slot) = 0 then none
          else some ((value.map EvmStorageSlot.presentValue).getD (LedgerAccount.slot self slot))) =
          (value.map TrieDatabase.storageValue).getD (storageAt (self.map leaf) slot) := by
      cases value with
      | some value => rfl
      | none => cases self <;> rfl
    refine congrArg some (congrArg (Leaf.mk account.info.body) (funext fun slot => ?_))
    rw [Keyed.applyMap_apply]
    exact written (account.storage.lookup slot) slot

theorem slotValue_leaf (self : Option LedgerAccount) (slot : U256) :
    slotValue (self.map leaf) slot = LedgerAccount.slot self slot := by
  cases self with
  | none => rfl
  | some account =>
    change (if account.storage slot = 0 then none else some (account.storage slot)).getD 0 =
      account.storage slot
    by_cases zero : account.storage slot = 0
    · rw [if_pos zero, zero]
      rfl
    · rw [if_neg zero]
      rfl

end LedgerAccount

/-- All accounts and codes; the root is a hash of the accounts. -/
structure Ledger (rootOf : (Address → Option Leaf) → B256) where
  accounts : Address → Option LedgerAccount
  codes : B256 → Option Bytecode

namespace Ledger

variable {rootOf : (Address → Option Leaf) → B256}

def leaves (self : Ledger rootOf) : Address → Option Leaf :=
  fun address => (self.accounts address).map LedgerAccount.leaf

/-- The transaction that ended with this state. -/
def commit (self : Ledger rootOf) (state : EvmState) : Ledger rootOf where
  accounts := Keyed.applyMap LedgerAccount.change self.accounts state
  codes := state.entries.foldl (fun codes entry => CachedDatabase.cacheCode codes entry.2.info) self.codes

/-- All transactions of the block are there already. -/
instance : Database (Ledger rootOf) where
  basicRef self address := (.ok ((self.accounts address).map LedgerAccount.info), self)
  codeByHashRef self codeHash := (.ok ((self.codes codeHash).getD []), self)
  storageRef self address slot := (.ok (LedgerAccount.slot (self.accounts address) slot), self)
  blockHashRef self _ := (.ok 0, self)
  commit := commit
  commitBlock self _ _ := (.ok (rootOf self.leaves), self)

/-- Reading changes nothing. -/
@[simp] theorem answer_snd (self : Ledger rootOf) (read : Read) : (Database.answer self read).2 = self := by
  cases read <;> rfl

theorem commit_leaves (self : Ledger rootOf) (state : EvmState) :
    (self.commit state).leaves = Keyed.applyMap commitAccount self.leaves state :=
  Keyed.map_applyMap (Option.map LedgerAccount.leaf) LedgerAccount.change_leaf self.accounts state

theorem commit_accounts (self : Ledger rootOf) (state : EvmState) (address : Address) :
    (self.commit state).accounts address =
      match state.lookup address with
      | some account => LedgerAccount.change account (self.accounts address)
      | none => self.accounts address := by
  refine (Keyed.applyMap_apply LedgerAccount.change self.accounts state address).trans ?_
  cases state.lookup address <;> rfl

theorem commit_codes (self : Ledger rootOf) (state : EvmState) (codeHash : B256) :
    (self.commit state).codes codeHash =
      (state.entries.filterMap (·.2.info.codeFor codeHash)).getLast?.or (self.codes codeHash) :=
  cacheCodes_apply state.entries self.codes codeHash

end Ledger

end Montana.Storage
