import Montana.Node.ChainExecution
import Montana.Node.Telemetry
import Montana.Vm.FirstStart

/-! From the dump of anvil and the L2 chain to what a validator answers to each block: its
first start, the feeder, the sequencer, the inbox on L1 and the caches over the trie. -/

namespace Montana.Vm.BlockExecutor

open Storage (Database)

variable {DB Block Tx : Type} [Database DB] [BlockResponse Block Tx] [Evm Block Tx] [ChecksumAddress]

/-- What comes of the executions, up to the first that fails. -/
def untilFailure : List (Execution Block BlockResult) → List Outcome
  | [] => []
  | ⟨_, .error e⟩ :: _ => [.executed (.error e)]
  | ⟨_, .ok result⟩ :: rest => .executed (.ok result) :: untilFailure rest

private theorem untilFailure_executionsOf (self : BlockExecutor DB) (blocks : List Block) :
    untilFailure (executionsOf self blocks) = self.trace (blocks.map .execute) := by
  induction blocks generalizing self with
  | nil => rfl
  | cons block rest ih =>
    rcases executed : self.executeBlock block with ⟨outcome, after⟩
    have answered : Executor.executeBlock self block = (outcome, after) := executed
    rw [executionsOf, List.map_cons, trace, answered, executed]
    cases outcome with
    | error e => rfl
    | ok result => exact congrArg (_ :: ·) (ih after)

end Montana.Vm.BlockExecutor

namespace Montana.Node.L1Pipeline

open BlockSource Dialogue Reference Roles Storage Vm
open BlockFeeder (Consistent stretch runBlockFeeder)
open BlockExecutor (Event Replays trace untilFailure untilFailure_executionsOf)

section FromDump

variable {DB Trie Txn Block Tx SequencerStore ValidatorStore : Type} [ColumnStore DB] [LawfulColumnStore DB]
variable [TrieTransaction Txn] [TrieDb Trie Txn] [LawfulTransaction Txn] [LawfulTrieDb Trie Txn]
variable [TrieFile Trie] [LawfulTrieFile Trie Txn] [BlockResponse Block Tx] [BlockJson Block]
variable [LawfulBlockJson Block] [Evm Block Tx] [ChecksumAddress]
variable [CheckpointStore SequencerStore] [CheckpointStore ValidatorStore]
variable {rootOf : (Address → Option Leaf) → B256} {codeOf : B256 → Bytecode} {hashSlow : Bytes → B256}

/-- A validator that has opened its databases for the first time answers to a stretch of the
L2 chain what the ledger of the dump answers, block for block, up to a commit to the trie
that fails. -/
theorem answers_from_dump (readable : TrieDatabase.Readable Trie (RocksDbKvDatabase DB))
    (nonzero : ∀ trie : Trie, TrieDb.stateRoot trie ≠ 0)
    (rooted : ∀ trie : Trie, TrieDb.stateRoot trie = rootOf (LawfulTrieDb.view trie))
    (addressed : BlockExecutor.EvmAddressed Trie (RocksDbKvDatabase DB) Block Tx codeOf)
    {dump : AnvilState} (hashed : dump.Hashed hashSlow codeOf) (fates : List Fate)
    (created : ((⟨none, none⟩ : Paths DB Trie).attempt hashSlow dump.intoGenesis fates).result =
      some (.ok ()))
    {kvdb : RocksDbKvDatabase DB} {trie : Trie}
    (databases : ((⟨none, none⟩ : Paths DB Trie).attempt hashSlow dump.intoGenesis fates).state =
      ⟨some kvdb, some trie⟩)
    {endpoint : Endpoint Block} {chain : Nat → Block} (consistent : Consistent endpoint chain)
    {startBlock fuel : Nat} (fits : startBlock ≤ u64Max) {tips : List (Except BlockSource.Exit Nat)}
    (small : ∀ tip, .ok tip ∈ tips → tip < u64Max) (withTui : Bool)
    {start : L1Pipeline Block (BlockExecutor (CachedDatabase (TrieDatabase Trie (RocksDbKvDatabase DB))))
      BlockResult SequencerStore ValidatorStore}
    (opened : start.Opened) (roundtrips : start.sequencer.compressor.Roundtrips) {spec : Chain}
    (executor : start.validator.executor = ⟨CachedDatabase.new (TrieDatabase.mk trie kvdb), spec⟩)
    (keeps : ∀ count, (⟨dump.ledger hashSlow rootOf, spec⟩ : BlockExecutor (Ledger rootOf)).KeepsAccounts
      ((stretch chain startBlock count).map Event.execute))
    (inputs : List (Input Block)) (lifetime : ∀ input ∈ inputs, input.restarts = false)
    (foreign : ∀ input ∈ inputs, input.Foreign start.sequencer.batchSink.batchInbox)
    (clean : (start.run inputs).sequencer.faults = [])
    (bounded : ∀ entry ∈ (start.run inputs).sequencer.submissions, Anvil.Bounded entry.1)
    (fed : (start.run inputs).sequencer.sent <+:
      (runBlockFeeder endpoint startBlock fuel tips withTui).state.sent) :
    ∃ count,
      (start.run inputs).validator.executions.map (·.block) = stretch chain startBlock count ∧
      Replays (untilFailure (start.run inputs).validator.executions)
        (trace (⟨dump.ledger hashSlow rootOf, spec⟩ : BlockExecutor (Ledger rootOf))
          ((stretch chain startBlock count).map Event.execute)) := by
  obtain ⟨kvdb', trie', state, same, sound⟩ :=
    BlockExecutor.firstStart_ledger nonzero hashed fates created
  rw [databases] at state
  cases state
  obtain ⟨count, blocks⟩ := executed_stretch consistent fits small withTui opened roundtrips inputs
    lifetime foreign ⟨clean, bounded⟩ fed
  have outcomes := (executed_run opened.validator.start.1 inputs lifetime).outcomes
  have kept := keeps count
  refine ⟨count, blocks, ?_⟩
  rw [outcomes, blocks, executor, untilFailure_executionsOf]
  rw [← same] at kept ⊢
  exact BlockExecutor.trace_mirrors readable rooted addressed _ rfl (Mirrors.new readable sound) kept

end FromDump

section Examples

/-- Every transaction pays account 5. -/
instance busyEvm : Evm BusyBlock Unit where
  replay cfg _ _ := scriptedEvm.replay cfg ⟨0, []⟩ paying

private theorem busy_addressed :
    BlockExecutor.EvmAddressed RootedTrie (RocksDbKvDatabase MemoryStore) BusyBlock Unit Reference.codeOf :=
  fun cfg _ _ db result addressed replayed =>
    scripted_addressed cfg ⟨0, []⟩ paying db result addressed replayed

private theorem busy_keepsAccounts {rootOf : (Address → Option Leaf) → B256}
    (events : List (Event BusyBlock))
    (self : BlockExecutor (Ledger rootOf)) : self.KeepsAccounts events := by
  refine BlockExecutor.keepsAccounts_of_evm ?_ events self
  intro cfg block tx db result replayed
  cases replayed
  decide

/-- The roles of the busy chain, whose validator executes over these databases. -/
def devnetRoles : L1Pipeline BusyBlock
    (BlockExecutor (CachedDatabase (TrieDatabase RootedTrie (RocksDbKvDatabase MemoryStore)))) BlockResult
    Files Files where
  sequencer := busyRoles.system.sequencer
  validator := Validator.startingFrom .fresh (.new (.fresh []) 1) noop (some "checkpoint")
    ⟨CachedDatabase.new (TrieDatabase.mk devnetTrie devnetKvdb), baseMainnet⟩ ⟨[]⟩

private theorem devnetRoles_opened : devnetRoles.Opened :=
  ⟨.withBatchCallback (.startingFrom rfl), .startingFrom rfl, rfl, rfl, rfl, ⟨rfl, rfl, rfl, nofun⟩⟩

/-- The L2 chain of busy blocks; its node has those up to block 9. -/
def busyChain (number : Nat) : BusyBlock := ⟨UInt8.ofNat number⟩

def upToNine : Endpoint BusyBlock where
  getBlockByNumber number := .ok (if number ≤ 9 then some (busyChain number) else none)
  takes _ := true

theorem devnetRoles_answer_from_dump :
    Replays (untilFailure (devnetRoles.run busyInputs).validator.executions)
      (trace (⟨devnet.ledger byLength rootedOf, baseMainnet⟩ : BlockExecutor (Ledger rootedOf))
        [.execute (busyChain 7), .execute (busyChain 8)]) := by
  have nonzero (trie : RootedTrie) : TrieDb.stateRoot trie ≠ 0 := show (1 : B256) ≠ 0 by decide
  have rooted (trie : RootedTrie) : TrieDb.stateRoot trie = rootedOf (LawfulTrieDb.view trie) := rfl
  have consistent : Consistent upToNine busyChain := by
    intro number block found
    simp only [upToNine] at found
    split at found
    · cases found
      rfl
    · cases found
  have small : ∀ tip, (.ok tip : Except BlockSource.Exit Nat) ∈ [.ok 12] → tip < u64Max := by
    simp [u64Max]
  have fed : (devnetRoles.run busyInputs).sequencer.sent <+:
      (runBlockFeeder upToNine 7 10 [.ok 12] false).state.sent := by
    decide +kernel
  have executed : (devnetRoles.run busyInputs).validator.executions.map (·.block) =
      [busyChain 7, busyChain 8] := by
    decide +kernel
  obtain ⟨count, blocks, replays⟩ := answers_from_dump rooted_readable nonzero rooted busy_addressed
    devnet_hashed [] rfl devnetPaths_eq consistent (by decide) small false devnetRoles_opened
    noop_roundtrips rfl (fun _ => busy_keepsAccounts _ _) busyInputs (by decide) busyInputs_foreign
    (by decide +kernel) (by decide +kernel) fed
  rw [← blocks, executed] at replays
  exact replays

end Examples

end Montana.Node.L1Pipeline
