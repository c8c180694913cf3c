import Montana.Storage.FirstStart
import Montana.Vm.LedgerExecution

/-! From the dump of anvil to the blocks that a validator executes after its first start. -/

namespace Montana.Vm

open Dialogue (Fate)
open Storage (Address AnvilState B256 Bytecode CachedDatabase ColumnStore LawfulColumnStore
  LawfulTransaction LawfulTrieDb LawfulTrieFile Leaf Ledger Mirrors Paths RocksDbKvDatabase TrieDatabase TrieDb TrieFile
  TrieTransaction)

namespace BlockExecutor

variable {DB Trie Txn Block Tx : Type} [ColumnStore DB] [LawfulColumnStore DB] [TrieTransaction Txn]
variable [TrieDb Trie Txn] [LawfulTransaction Txn] [LawfulTrieDb Trie Txn] [TrieFile Trie]
variable [LawfulTrieFile Trie Txn] [BlockResponse Block Tx] [Evm Block Tx] [ChecksumAddress]
variable {rootOf : (Address → Option Leaf) → B256} {codeOf : B256 → Bytecode} {hashSlow : Bytes → B256}

omit [BlockResponse Block Tx] [Evm Block Tx] [ChecksumAddress] in
/-- A first start that opens the two databases leaves them with the ledger of the dump. -/
theorem firstStart_ledger (nonzero : ∀ trie : Trie, TrieDb.stateRoot trie ≠ 0) {dump : AnvilState}
    (hashed : dump.Hashed hashSlow codeOf) (fates : List Fate)
    (opened : ((⟨none, none⟩ : Paths DB Trie).attempt hashSlow dump.intoGenesis fates).result =
      some (.ok ())) :
    ∃ kvdb trie,
      ((⟨none, none⟩ : Paths DB Trie).attempt hashSlow dump.intoGenesis fates).state =
        ⟨some kvdb, some trie⟩ ∧
      Ledger.of rootOf (TrieDatabase.mk trie kvdb) = dump.ledger hashSlow rootOf ∧
      (TrieDatabase.mk trie kvdb).Sound codeOf := by
  have listed : ((⟨none, none⟩ : Paths DB Trie).attempt hashSlow dump.intoGenesis fates).state.ListedCodes
      hashSlow dump.intoGenesis :=
    Paths.attempt_listedCodes hashSlow dump.intoGenesis fates
  have started : Dialogue.Triple Paths.answer Paths.refuse
      (Storage.openBoth hashSlow dump.intoGenesis : Storage.Action Txn Storage.SetupError Unit)
      (⟨none, none⟩ : Paths DB Trie)
      (fun _ after => ∃ kvdb trie, after = ⟨some kvdb, some trie⟩ ∧
        dump.intoGenesis.Present hashSlow kvdb trie ∧ LawfulTrieDb.view trie =
          Keyed.applyMap (Storage.GenesisAccount.leaf hashSlow) (fun _ => none) dump.intoGenesis.alloc)
      fun _ _ => True := Paths.triple_firstStart hashed.collisionFree nonzero
  have meets := started fates none
  rw [← Paths.attempt] at meets
  generalize (⟨none, none⟩ : Paths DB Trie).attempt hashSlow dump.intoGenesis fates = ending at *
  obtain ⟨result, last, after⟩ := ending
  cases opened
  obtain ⟨kvdb, trie, rfl, present, exact⟩ := meets
  have holds := AnvilState.Holds.of_present present exact listed
  exact ⟨kvdb, trie, rfl, holds.ledger_eq hashed, holds.sound hashed⟩

/-- A first start that opens the two databases leaves them so that reads and blocks come out
as they do over the dump itself, up to a block whose commit to the trie fails. -/
theorem firstStart_replays_dump (readable : TrieDatabase.Readable Trie (RocksDbKvDatabase DB))
    (nonzero : ∀ trie : Trie, TrieDb.stateRoot trie ≠ 0)
    (rooted : ∀ trie : Trie, TrieDb.stateRoot trie = rootOf (LawfulTrieDb.view trie))
    (addressed : EvmAddressed Trie (RocksDbKvDatabase DB) Block Tx codeOf) {dump : AnvilState}
    (hashed : dump.Hashed hashSlow codeOf) (fates : List Fate)
    (opened : ((⟨none, none⟩ : Paths DB Trie).attempt hashSlow dump.intoGenesis fates).result =
      some (.ok ())) :
    ∃ kvdb trie,
      ((⟨none, none⟩ : Paths DB Trie).attempt hashSlow dump.intoGenesis fates).state =
        ⟨some kvdb, some trie⟩ ∧
      ∀ (chain : Chain) (events : List (Event Block)),
        (⟨dump.ledger hashSlow rootOf, chain⟩ : BlockExecutor (Ledger rootOf)).KeepsAccounts events →
        Replays (trace ⟨CachedDatabase.new (TrieDatabase.mk trie kvdb), chain⟩ events)
          (trace (⟨dump.ledger hashSlow rootOf, chain⟩ : BlockExecutor (Ledger rootOf)) events) := by
  obtain ⟨kvdb, trie, state, same, sound⟩ := firstStart_ledger nonzero hashed fates opened
  refine ⟨kvdb, trie, state, fun chain events keeps => ?_⟩
  rw [← same] at keeps ⊢
  exact trace_mirrors readable rooted addressed events rfl (Mirrors.new readable sound) keeps

end BlockExecutor

section Examples

open BlockExecutor Reference Storage

/-- A dump with a contract that is two bytes long and one slot, and an account without code. -/
def devnet : AnvilState where
  accounts := [⟨1, ⟨1, 5, [2], [⟨7, 9⟩].toAList⟩⟩, ⟨5, ⟨1, 10, [], ∅⟩⟩].toAList

theorem devnet_hashed : devnet.Hashed byLength codeOf := by
  constructor <;> decide

/-- In memory no read fails. -/
theorem rooted_readable : TrieDatabase.Readable RootedTrie (RocksDbKvDatabase MemoryStore) where
  basicRef self address := by
    unfold TrieDatabase.basicRef TrieDatabase.loadCode
    cases found : self.inner.accounts address with
    | none => simp [TrieDatabase.read, TrieDb.beginRo, TrieTransaction.getAccount,
        TrieTransaction.commitRo, Except.mapError, found]
    | some leaf =>
      simp only [TrieDatabase.read, TrieDb.beginRo, TrieTransaction.getAccount,
        TrieTransaction.commitRo, Except.mapError, found, Option.map_some]
      by_cases coded : leaf.body.codeHash = keccakEmpty
      · simp [coded]
      · simp [coded, KeyValueDatabase.getCode, RocksDbKvDatabase.getCode, ColumnStore.getCf, Except.mapError]
  storageRef self address slot := ⟨_, rfl⟩

/-- The root of every trie in memory. -/
def rootedOf (_ : Address → Option Leaf) : B256 := 1

/-- The dump is read, a block pays account 5, and both are read again. -/
def devnetRun : List (Event ScriptedBlock) :=
  [.read (.basic 1), .read (.storage 1 7), .execute ⟨1, [changing (stateOf [⟨5, paidHolder⟩])]⟩,
    .read (.basic 5), .read (.codeByHash 2)]

theorem devnet_replays_dump :
    ∃ kvdb trie, (nowhere.attempt byLength devnet.intoGenesis []).state = ⟨some kvdb, some trie⟩ ∧
      Replays (trace ⟨CachedDatabase.new (TrieDatabase.mk trie kvdb), baseMainnet⟩ devnetRun)
        (trace (⟨devnet.ledger byLength rootedOf, baseMainnet⟩ : BlockExecutor (Ledger rootedOf)) devnetRun) := by
  have nonzero (trie : RootedTrie) : TrieDb.stateRoot trie ≠ 0 := show (1 : B256) ≠ 0 by decide
  have rooted (trie : RootedTrie) : TrieDb.stateRoot trie = rootedOf (LawfulTrieDb.view trie) := rfl
  obtain ⟨kvdb, trie, opened, replays⟩ := firstStart_replays_dump rooted_readable nonzero rooted
    scripted_addressed devnet_hashed [] rfl
  refine ⟨kvdb, trie, opened, replays baseMainnet devnetRun ⟨by decide, ?_⟩⟩
  intro result after _
  trivial

/-- What the first start on the dump leaves at the two paths. -/
def devnetPaths : Paths MemoryStore RootedTrie :=
  (nowhere.attempt byLength devnet.intoGenesis []).state

def devnetKvdb : RocksDbKvDatabase MemoryStore := devnetPaths.kvdb.getD ⟨⟨[]⟩⟩

def devnetTrie : RootedTrie := devnetPaths.trie.getD ⟨fun _ => none⟩

theorem devnetPaths_eq :
    (nowhere.attempt byLength devnet.intoGenesis []).state = ⟨some devnetKvdb, some devnetTrie⟩ := rfl

/-- A transaction that looks at account 5 and pays it. -/
def paying : ScriptedTx := { changing (stateOf [⟨5, paidHolder⟩]) with reads := [.basic 5] }

end Examples

end Montana.Vm
