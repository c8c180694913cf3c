import Montana.Storage.Reload
import Montana.Vm.FirstStart

/-! A process that executes blocks stops between or inside of them and is started again: the
caches are gone, and the databases are opened as they were left. -/

namespace Montana.Vm

open Dialogue (Fate)
open Storage (Address B256 Bytecode CachedDatabase ColumnStore Database DurableKeyValueDatabase EvmState Genesis
  KeyValueDatabase LawfulColumnStore LawfulKeyValueDatabase LawfulTransaction LawfulTrieDb Leaf Ledger Mirrors Paths
  Read RocksDbKvDatabase Settled StateAddressed StoringKeyValueDatabase TrieDatabase TrieDb TrieFile TrieTransaction
  writtenCode writtenCode_append)

def ResultAndState.trim (result : ResultAndState) : ResultAndState := { result with state := result.state.trim }

def TxResult.trim (result : TxResult) : TxResult := { result with state := result.state.trim }

def BlockResult.trim (result : BlockResult) : BlockResult :=
  { result with txResults := result.txResults.map TxResult.trim }

theorem TxResult.of_trim (result : ResultAndState) : TxResult.of result.trim = (TxResult.of result).trim := by
  obtain ⟨result, state⟩ := result
  cases result <;> rfl

namespace BlockExecutor

/-- A comparison that leaves out whether an account without code comes with an empty one. -/
def Outcome.trim : Outcome → Outcome
  | .answered read answer => .answered read (read.trim answer)
  | .executed outcome => .executed (outcome.map BlockResult.trim)

section Ledgers

variable {Block Tx : Type} [Evm Block Tx] {rootOf : (Address → Option Leaf) → B256} {codeOf : B256 → Bytecode}

/-- The EVM looks at what the accounts and codes are, not at whether the code of an account
comes with it or by its hash; the accounts that it returns come with their codes. -/
structure EvmByContents (Block Tx : Type) [Evm Block Tx] (rootOf : (Address → Option Leaf) → B256)
    (codeOf : B256 → Bytecode) : Prop where
  outcome : ∀ (cfg : CfgEnv) (block : Block) (tx : Tx) (left right : Ledger rootOf), left.Coded codeOf →
    left.Alike right →
      ((Evm.replay cfg block tx).run Database.answer left).1.map ResultAndState.trim =
        ((Evm.replay cfg block tx).run Database.answer right).1.map ResultAndState.trim
  returned : ∀ (cfg : CfgEnv) (block : Block) (tx : Tx) (ledger : Ledger rootOf) result, ledger.Coded codeOf →
    ((Evm.replay cfg block tx).run Database.answer ledger).1 = .ok result →
      StateAddressed codeOf result.state ∧ result.state.Coded

private theorem run_ledger {Result : Type} (program : Dialogue Read Read.Answer Result)
    (ledger : Ledger rootOf) :
    (program.run Database.answer ledger).2 = ledger := by
  refine Dialogue.run_invariant (· = ledger) ?_ program rfl
  intro state read same
  rw [Ledger.answer_snd, same]

/-- What the transactions of a block leave in a ledger. -/
theorem executeTxs_coded (contents : EvmByContents Block Tx rootOf codeOf) {block : Block} {cfg : CfgEnv}
    (txs : List Tx) {self : BlockExecutor (Ledger rootOf)} (coded : self.db.Coded codeOf) :
    (self.executeTxs block cfg txs).2.db.Coded codeOf ∧
      (∀ state ∈ self.executedStates block cfg txs, EvmState.Coded state) ∧
      ∀ codeHash, (self.executeTxs block cfg txs).2.db.codes codeHash =
        (writtenCode (self.executedStates block cfg txs) codeHash).or (self.db.codes codeHash) := by
  refine @executeTxs_invariant (Ledger rootOf) Block Tx _ _ block cfg
    (fun states ledger => ledger.Coded codeOf ∧ (∀ state ∈ states, EvmState.Coded state) ∧
      ∀ codeHash, ledger.codes codeHash = (writtenCode states codeHash).or (self.db.codes codeHash))
    ?_ ?_ txs self [] ⟨coded, fun _ member => (List.not_mem_nil member).elim, fun _ => rfl⟩
  · rintro states ledger tx result ⟨coded, whole, codes⟩ replayed
    obtain ⟨comes, wholeState⟩ := contents.returned cfg block tx ledger result coded replayed
    rw [run_ledger]
    refine ⟨coded.commit comes wholeState, ?_, fun codeHash => ?_⟩
    · intro state member
      rcases List.mem_append.mp member with earlier | last
      · exact whole state earlier
      · exact List.mem_singleton.mp last ▸ wholeState
    · rw [writtenCode_append, Option.or_assoc, ← codes]
      exact Ledger.commit_codes ledger result.state codeHash
  · intro states ledger read holds
    rw [Ledger.answer_snd]
    exact holds

/-- Ledgers that are alike make the same of the transactions of a block, and stay alike. -/
theorem executeTxs_alike (contents : EvmByContents Block Tx rootOf codeOf) {block : Block} {cfg : CfgEnv}
    (txs : List Tx) {left right : BlockExecutor (Ledger rootOf)} (coded : left.db.Coded codeOf)
    (alike : left.db.Alike right.db) :
    (left.executeTxs block cfg txs).1.map (List.map TxResult.trim) =
        (right.executeTxs block cfg txs).1.map (List.map TxResult.trim) ∧
      (left.executeTxs block cfg txs).2.db.Alike (right.executeTxs block cfg txs).2.db ∧
      (left.executedStates block cfg txs).map EvmState.trim =
        (right.executedStates block cfg txs).map EvmState.trim := by
  induction txs generalizing left right with
  | nil => exact ⟨rfl, alike, rfl⟩
  | cons tx rest ih =>
    have same := contents.outcome cfg block tx left.db right.db coded alike
    have returned := contents.returned cfg block tx left.db
    have unchanged := run_ledger (Evm.replay cfg block tx) left.db
    have unchanged' := run_ledger (Evm.replay cfg block tx) right.db
    rw [executedStates, executedStates, executeTxs, executeTx, executeTxs, executeTx]
    rcases replayed : (Evm.replay cfg block tx).run Database.answer left.db with ⟨outcome, db⟩
    rcases replayed' : (Evm.replay cfg block tx).run Database.answer right.db with ⟨outcome', db'⟩
    rw [replayed] at same returned unchanged
    rw [replayed'] at same unchanged'
    obtain rfl : db = left.db := unchanged
    obtain rfl : db' = right.db := unchanged'
    cases outcome with
    | error e =>
      cases outcome' with
      | error e' =>
        cases same
        exact ⟨rfl, alike, rfl⟩
      | ok result' => cases same
    | ok result =>
      cases outcome' with
      | error e' => cases same
      | ok result' =>
        have trimmed : result.trim = result'.trim := Except.ok.inj same
        have states : result.state.trim = result'.state.trim := congrArg ResultAndState.state trimmed
        have first : (TxResult.of result).trim = (TxResult.of result').trim := by
          rw [← TxResult.of_trim, ← TxResult.of_trim, trimmed]
        obtain ⟨comes, whole⟩ := returned result coded rfl
        obtain ⟨results, alike', rest'⟩ := @ih { left with db := left.db.commit result.state }
          { right with db := right.db.commit result'.state } (coded.commit comes whole) (alike.commit states)
        dsimp only
        rcases looped : executeTxs (⟨left.db.commit result.state, left.chain⟩ : BlockExecutor (Ledger rootOf))
          block cfg rest with ⟨ended, after⟩
        rcases looped' : executeTxs (⟨right.db.commit result'.state, right.chain⟩ : BlockExecutor (Ledger rootOf))
          block cfg rest with ⟨ended', after'⟩
        rw [looped, looped'] at results alike'
        refine ⟨?_, ?_, congrArg₂ List.cons states rest'⟩
        · cases ended with
          | error e => cases ended' with
            | error e' => exact results
            | ok txResults' => cases results
          | ok txResults => cases ended' with
            | error e' => cases results
            | ok txResults' => exact congrArg Except.ok (congrArg₂ List.cons first (Except.ok.inj results))
        · cases ended <;> cases ended' <;> exact alike'

variable [BlockResponse Block Tx] [ChecksumAddress]

private theorem executeBlock_alike (contents : EvmByContents Block Tx rootOf codeOf) (block : Block)
    {left right : BlockExecutor (Ledger rootOf)} (sameChain : left.chain = right.chain)
    (coded : left.db.Coded codeOf) (alike : left.db.Alike right.db) :
    (left.executeBlock block).1.map BlockResult.trim = (right.executeBlock block).1.map BlockResult.trim ∧
      (left.executeBlock block).2.db.Alike (right.executeBlock block).2.db := by
  have cfg : left.cfgEnv block = right.cfgEnv block := by
    rw [cfgEnv, cfgEnv, sameChain]
  obtain ⟨results, after, _⟩ := @executeTxs_alike Block Tx _ rootOf codeOf contents block (right.cfgEnv block)
    (BlockResponse.transactions block) left right coded alike
  unfold executeBlock
  rw [cfg]
  rcases looped : left.executeTxs block (right.cfgEnv block) (BlockResponse.transactions block) with ⟨ended, db⟩
  rcases looped' : right.executeTxs block (right.cfgEnv block) (BlockResponse.transactions block) with
    ⟨ended', db'⟩
  rw [looped, looped'] at results after
  cases ended with
  | error e => cases ended' with
    | error e' =>
      cases results
      exact ⟨rfl, after⟩
    | ok txResults' => cases results
  | ok txResults => cases ended' with
    | error e' => cases results
    | ok txResults' =>
      refine ⟨?_, after⟩
      have roots : rootOf db.db.leaves = rootOf db'.db.leaves := congrArg rootOf after.leaves
      exact congrArg Except.ok (congrArg₂ (BlockResult.mk (BlockResponse.number block)) (Except.ok.inj results) roots)

omit [ChecksumAddress] in
private theorem blockStates_alike (contents : EvmByContents Block Tx rootOf codeOf) (block : Block)
    {left right : BlockExecutor (Ledger rootOf)} (sameChain : left.chain = right.chain)
    (coded : left.db.Coded codeOf) (alike : left.db.Alike right.db)
    (kept : ∀ state ∈ right.blockStates block, EvmState.KeepsAccounts state) :
    ∀ state ∈ left.blockStates block, EvmState.KeepsAccounts state := by
  have cfg : left.cfgEnv block = right.cfgEnv block := by
    rw [cfgEnv, cfgEnv, sameChain]
  obtain ⟨_, _, states⟩ := @executeTxs_alike Block Tx _ rootOf codeOf contents block (right.cfgEnv block)
    (BlockResponse.transactions block) left right coded alike
  intro state member
  rw [blockStates, cfg] at member
  have listed : state.trim ∈ (left.executedStates block (right.cfgEnv block)
      (BlockResponse.transactions block)).map EvmState.trim := List.mem_map_of_mem member
  rw [states] at listed
  obtain ⟨other, there, trimmed⟩ := List.mem_map.mp listed
  have keeps := EvmState.keepsAccounts_trim.mpr (kept other there)
  rw [trimmed] at keeps
  exact EvmState.keepsAccounts_trim.mp keeps

end Ledgers

section Blocks

variable {Trie Txn KV Block Tx : Type} [TrieTransaction Txn] [TrieDb Trie Txn] [KeyValueDatabase KV]
variable [LawfulTransaction Txn] [LawfulTrieDb Trie Txn] [LawfulKeyValueDatabase KV]
variable [DurableKeyValueDatabase KV] [StoringKeyValueDatabase KV]
variable [BlockResponse Block Tx] [Evm Block Tx] [ChecksumAddress]
variable {rootOf : (Address → Option Leaf) → B256} {codeOf : B256 → Bytecode}
variable {cached : BlockExecutor (CachedDatabase (TrieDatabase Trie KV))}
variable {plain : BlockExecutor (Ledger rootOf)}

/-- A block: unless the commit to the trie fails, the caches and the store have settled on
what the ledger has become. -/
theorem executeBlock_settled (readable : TrieDatabase.Readable Trie KV)
    (rooted : ∀ trie : Trie, TrieDb.stateRoot trie = rootOf (LawfulTrieDb.view trie))
    (addressed : EvmAddressed Trie KV Block Tx codeOf) (contents : EvmByContents Block Tx rootOf codeOf)
    (block : Block) (sameChain : cached.chain = plain.chain) (settled : Settled codeOf plain.db cached.db)
    (kept : ∀ state ∈ plain.blockStates block, EvmState.KeepsAccounts state) {result : BlockResult}
    (succeeded : (cached.executeBlock block).1 = .ok result) :
    Settled codeOf (plain.executeBlock block).2.db (cached.executeBlock block).2.db := by
  obtain ⟨results, mid⟩ := afterTxs_mirrors addressed block sameChain settled.mirrors kept
  obtain ⟨coded, whole, codes⟩ := @executeTxs_coded Block Tx _ rootOf codeOf contents block (plain.cfgEnv block)
    (BlockResponse.transactions block) plain settled.coded
  rw [afterTxs, afterTxs, blockStates] at mid
  unfold executeBlock at succeeded ⊢
  rcases looped : cached.executeTxs block (cached.cfgEnv block) (BlockResponse.transactions block) with
    ⟨outcome, after⟩
  rcases looped' : plain.executeTxs block (plain.cfgEnv block) (BlockResponse.transactions block) with
    ⟨outcome', ledger⟩
  rw [looped] at succeeded
  rw [looped, looped'] at results mid
  rw [looped'] at coded codes
  cases results
  cases outcome with
  | error e => cases succeeded
  | ok txResults =>
    have states := executeTxs_states (congrArg Prod.fst looped')
    rw [← states] at mid whole codes
    dsimp only at succeeded ⊢
    rcases committed : Database.commitBlock after.db (BlockResponse.number block)
      (txResults.map TxResult.state) with ⟨ended, db⟩
    rw [committed] at succeeded
    cases ended with
    | error e => cases succeeded
    | ok root => exact settled.commitBlock readable rooted mid coded codes whole committed

end Blocks

section Lives

variable {DB Trie Txn Block Tx : Type} [ColumnStore DB] [TrieTransaction Txn] [TrieDb Trie Txn] [TrieFile Trie]
variable [BlockResponse Block Tx] [Evm Block Tx]

/-- The process stops after so many transactions of a block, and is started again until the
databases are open. -/
structure Stop (Block : Type) where
  block : Block
  count : Nat
  attempts : List (List Fate)

inductive Incident (Block : Type) where
  | step (event : Event Block)
  | restart (stop : Stop Block)

def Incident.event? : Incident Block → Option (Event Block)
  | .step event => some event
  | .restart _ => none

/-- The executor of the next process, over what the last one has left at the two paths. -/
def restarted (hashSlow : Bytes → B256) (genesis : Genesis)
    (self : BlockExecutor (CachedDatabase (TrieDatabase Trie (RocksDbKvDatabase DB)))) (stop : Stop Block) :
    BlockExecutor (CachedDatabase (TrieDatabase Trie (RocksDbKvDatabase DB))) :=
  let txs := (BlockResponse.transactions stop.block).take stop.count
  let left := (self.executeTxs stop.block (self.cfgEnv stop.block) txs).2.db.inner
  match (⟨some left.kvdb, some left.inner⟩ : Paths DB Trie).after hashSlow genesis (stop.attempts ++ [[]]) with
  | ⟨some kvdb, some trie⟩ => { self with db := CachedDatabase.new ⟨trie, kvdb⟩ }
  | _ => self

private theorem restarted_eq (hashSlow : Bytes → B256) (genesis : Genesis)
    (self : BlockExecutor (CachedDatabase (TrieDatabase Trie (RocksDbKvDatabase DB)))) (stop : Stop Block) :
    self.restarted hashSlow genesis stop = { self with db := CachedDatabase.new self.db.inner } := by
  have uncommitted (txs : List Tx) : CachedDatabase.Uncommitted self.db
      ([] ++ self.executedStates stop.block (self.cfgEnv stop.block) txs)
      (self.executeTxs stop.block (self.cfgEnv stop.block) txs).2.db := by
    refine executeTxs_invariant (CachedDatabase.Uncommitted self.db) ?_
      (fun _ _ read uncommitted => uncommitted.read read) txs (CachedDatabase.Uncommitted.start self.db)
    intro states db tx result uncommitted _
    exact (Dialogue.run_invariant _ (fun _ read uncommitted => uncommitted.read read)
      (Evm.replay _ stop.block tx) uncommitted).commit result.state
  unfold restarted
  dsimp only
  rw [(uncommitted _).inner, Paths.after_existing]

variable [ChecksumAddress]

/-- What comes of the events in all the lives of the process, up to the first block that fails. -/
def lives (hashSlow : Bytes → B256) (genesis : Genesis)
    (self : BlockExecutor (CachedDatabase (TrieDatabase Trie (RocksDbKvDatabase DB)))) :
    List (Incident Block) → List Outcome
  | [] => []
  | .step (.read read) :: rest =>
    .answered read (Database.answer self.db read).1 ::
      (self.step (.read read : Event Block)).lives hashSlow genesis rest
  | .step (.execute block) :: rest =>
    match self.executeBlock block with
    | (.error e, _) => [.executed (.error e)]
    | (.ok result, after) => .executed (.ok result) :: after.lives hashSlow genesis rest
  | .restart stop :: rest => (self.restarted hashSlow genesis stop).lives hashSlow genesis rest

variable [LawfulColumnStore DB] [LawfulTransaction Txn] [LawfulTrieDb Trie Txn]
variable {rootOf : (Address → Option Leaf) → B256} {codeOf : B256 → Bytecode}

/-- Through all restarts the outcomes are those over a ledger that was there all the time. -/
theorem lives_settled (readable : TrieDatabase.Readable Trie (RocksDbKvDatabase DB))
    (rooted : ∀ trie : Trie, TrieDb.stateRoot trie = rootOf (LawfulTrieDb.view trie))
    (addressed : EvmAddressed Trie (RocksDbKvDatabase DB) Block Tx codeOf)
    (contents : EvmByContents Block Tx rootOf codeOf) (hashSlow : Bytes → B256) (genesis : Genesis)
    (incidents : List (Incident Block))
    {cached : BlockExecutor (CachedDatabase (TrieDatabase Trie (RocksDbKvDatabase DB)))}
    {middle plain : BlockExecutor (Ledger rootOf)} (sameChain : cached.chain = middle.chain)
    (midChain : middle.chain = plain.chain) (settled : Settled codeOf middle.db cached.db)
    (alike : middle.db.Alike plain.db) (keeps : plain.KeepsAccounts (incidents.filterMap Incident.event?)) :
    Replays ((cached.lives hashSlow genesis incidents).map Outcome.trim)
      ((plain.trace (incidents.filterMap Incident.event?)).map Outcome.trim) := by
  induction incidents generalizing cached middle plain with
  | nil => exact .inl rfl
  | cons incident rest ih =>
    cases incident with
    | restart stop =>
      rw [lives, restarted_eq]
      exact @ih ⟨CachedDatabase.new cached.db.inner, cached.chain⟩
        ⟨Ledger.of rootOf cached.db.inner, middle.chain⟩ plain sameChain midChain
        (settled.reload readable) (settled.reload_alike.trans alike) keeps
    | step event =>
      cases event with
      | read read =>
        obtain ⟨same, after⟩ := settled.read read
        have answered : Outcome.trim (.answered read (Database.answer cached.db read).1) =
            Outcome.trim (.answered read (Database.answer plain.db read).1) := by
          rw [same]
          exact congrArg (Outcome.answered read) (alike.answer read)
        have later := @ih (cached.step (.read read : Event Block)) middle (plain.step (.read read : Event Block))
          sameChain midChain after (show middle.db.Alike (Database.answer plain.db read).2 by
            rwa [Ledger.answer_snd]) keeps
        change Replays (Outcome.trim (.answered read (Database.answer cached.db read).1) :: _)
          (Outcome.trim (.answered read (Database.answer plain.db read).1) :: _)
        rw [answered]
        exact later.cons _
      | execute block =>
        have kept := blockStates_alike contents block midChain settled.coded alike keeps.1
        have ran := executeBlock_mirrors readable rooted addressed block sameChain settled.mirrors kept
        have stored (result : BlockResult) (succeeded : (cached.executeBlock block).1 = .ok result) :=
          executeBlock_settled readable rooted addressed contents block sameChain settled kept succeeded
        obtain ⟨outcomes, alike'⟩ := executeBlock_alike contents block midChain settled.coded alike
        have chains := (executeBlock_chain cached block).trans (sameChain.trans (executeBlock_chain middle block).symm)
        have chains' :=
          (executeBlock_chain middle block).trans (midChain.trans (executeBlock_chain plain block).symm)
        have later (result : BlockResult) := keeps.2 result
        change Replays (List.map Outcome.trim (cached.lives hashSlow genesis (.step (.execute block) :: rest)))
          (List.map Outcome.trim (plain.trace (.execute block :: rest.filterMap Incident.event?)))
        rw [lives, trace]
        rcases executed : cached.executeBlock block with ⟨outcome, after⟩
        rcases executed' : plain.executeBlock block with ⟨outcome', after'⟩
        rw [executed] at ran stored chains
        rw [executed'] at outcomes alike' chains' later
        by_cases failed : ∃ e, outcome = .error (.database e)
        · obtain ⟨e, rfl⟩ := failed
          exact .inr ⟨[], e, List.nil_prefix, rfl⟩
        · obtain ⟨same, _⟩ := ran fun e error => failed ⟨e, error⟩
          rw [← same] at outcomes
          cases outcome with
          | error e => cases outcome' with
            | error e' =>
              cases outcomes
              exact .inl rfl
            | ok result' => cases outcomes
          | ok result => cases outcome' with
            | error e' => cases outcomes
            | ok result' =>
              have first : Outcome.trim (.executed (.ok result)) = Outcome.trim (.executed (.ok result')) :=
                congrArg Outcome.executed outcomes
              rw [List.map_cons, List.map_cons, first]
              exact (ih chains chains' (stored result rfl) alike' (later result' after' rfl)).cons _

/-- Over a sound database: however often the process stops, between blocks or inside of them,
and however often opening the databases fails, the reads and blocks of all its lives come
out as those over the ledger that the database stood for, up to a block whose commit to the
trie fails. -/
theorem lives_replay_ledger (readable : TrieDatabase.Readable Trie (RocksDbKvDatabase DB))
    (rooted : ∀ trie : Trie, TrieDb.stateRoot trie = rootOf (LawfulTrieDb.view trie))
    (addressed : EvmAddressed Trie (RocksDbKvDatabase DB) Block Tx codeOf)
    (contents : EvmByContents Block Tx rootOf codeOf)
    (filled : ∀ codeHash, codeHash ≠ Storage.keccakEmpty → (codeOf codeHash).isEmpty = false)
    {inner : TrieDatabase Trie (RocksDbKvDatabase DB)} (sound : inner.Sound codeOf) (hashSlow : Bytes → B256)
    (genesis : Genesis) (chain : Chain) (incidents : List (Incident Block))
    (keeps : (⟨Ledger.of rootOf inner, chain⟩ : BlockExecutor (Ledger rootOf)).KeepsAccounts
      (incidents.filterMap Incident.event?)) :
    Replays ((lives hashSlow genesis ⟨CachedDatabase.new inner, chain⟩ incidents).map Outcome.trim)
      ((trace (⟨Ledger.of rootOf inner, chain⟩ : BlockExecutor (Ledger rootOf))
        (incidents.filterMap Incident.event?)).map Outcome.trim) :=
  @lives_settled DB Trie Txn Block Tx _ _ _ _ _ _ _ _ _ _ rootOf codeOf readable rooted addressed contents
    hashSlow genesis incidents ⟨CachedDatabase.new inner, chain⟩ ⟨Ledger.of rootOf inner, chain⟩
    ⟨Ledger.of rootOf inner, chain⟩ rfl rfl (Settled.new readable sound filled) ⟨fun _ => rfl, rfl⟩ keeps

end Lives

end BlockExecutor

section Examples

open BlockExecutor Reference Storage

/-- A block of payments to account 5. -/
structure PayingBlock where
  number : Nat
  payments : Nat

instance : BlockResponse PayingBlock Unit where
  number := PayingBlock.number
  timestamp _ := 0
  gasUsed _ := 0
  transactions block := List.replicate block.payments ()

instance : Evm PayingBlock Unit where
  replay cfg _ _ := scriptedEvm.replay cfg ⟨0, []⟩ paying

private theorem paying_byContents {rootOf : (Address → Option Leaf) → B256} :
    EvmByContents PayingBlock Unit rootOf Reference.codeOf where
  outcome _ _ _ _ _ _ _ := rfl
  returned cfg block tx ledger result _ replayed := by
    cases replayed
    refine ⟨?_, by decide⟩
    intro entry member codeHash code comes
    obtain rfl := List.mem_singleton.mp member
    cases comes

private theorem paying_keepsAccounts {rootOf : (Address → Option Leaf) → B256}
    (events : List (Event PayingBlock))
    (self : BlockExecutor (Ledger rootOf)) : self.KeepsAccounts events := by
  refine keepsAccounts_of_evm ?_ events self
  intro cfg block tx db result replayed
  cases replayed
  decide

/-- The process stops after one of the three payments of block 2, and the first attempt to
open the databases fails. -/
def payingLives : List (Incident PayingBlock) :=
  [.step (.read (.basic 1)), .step (.execute ⟨1, 2⟩), .restart ⟨⟨2, 3⟩, 1, [[.performed, .refused "locked"]]⟩,
    .step (.execute ⟨2, 3⟩), .step (.read (.storage 5 1))]

theorem payingLives_replay_ledger :
    Replays
      ((lives byLength devnet.intoGenesis ⟨CachedDatabase.new (TrieDatabase.mk devnetTrie devnetKvdb), baseMainnet⟩
        payingLives).map Outcome.trim)
      ((trace (⟨devnet.ledger byLength rootedOf, baseMainnet⟩ : BlockExecutor (Ledger rootedOf))
        [.read (.basic 1), .execute (PayingBlock.mk 1 2), .execute (PayingBlock.mk 2 3),
          .read (.storage 5 1)]).map Outcome.trim) := by
  have nonzero (trie : RootedTrie) : TrieDb.stateRoot trie ≠ 0 := show (1 : B256) ≠ 0 by decide
  have rooted (trie : RootedTrie) : TrieDb.stateRoot trie = rootedOf (LawfulTrieDb.view trie) := rfl
  obtain ⟨kvdb, trie, state, same, sound⟩ :=
    @firstStart_ledger MemoryStore RootedTrie MemoryTrie _ _ _ _ _ _ _ _ rootedOf Reference.codeOf byLength
      nonzero devnet devnet_hashed [] rfl
  cases devnetPaths_eq.symm.trans state
  have addressed : EvmAddressed RootedTrie (RocksDbKvDatabase MemoryStore) PayingBlock Unit Reference.codeOf :=
    fun cfg _ _ db result addressed replayed =>
      scripted_addressed cfg ⟨0, []⟩ paying db result addressed replayed
  rw [← same]
  exact lives_replay_ledger rooted_readable rooted addressed paying_byContents (fun _ _ => rfl) sound byLength
    devnet.intoGenesis baseMainnet payingLives (paying_keepsAccounts _ _)

end Examples

end Montana.Vm
