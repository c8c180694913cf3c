import Montana.Storage.LedgerMirror
import Montana.Vm.Atomicity

/-! Blocks executed over the caches and the trie, and over a ledger: the results are the same. -/

namespace Montana.Vm

open Storage (Address B256 Bytecode CachedDatabase Database EvmState KeyValueDatabase Leaf Ledger
  LawfulKeyValueDatabase LawfulTransaction LawfulTrieDb Mirrors Read StateAddressed TrieDatabase TrieDb
  TrieTransaction DurableKeyValueDatabase)

namespace BlockExecutor

section Simulation

variable {DB DB' Block Tx : Type} [Database DB] [Database DB'] [Evm Block Tx]

/-- Two databases that answer alike, and stay related under each transaction, make the same
of a list of transactions. -/
theorem executeTxs_simulates {block : Block} {cfg : CfgEnv} (Related : List EvmState → DB → DB' → Prop)
    (Kept : EvmState → Prop)
    (reads : ∀ states db db' read, Related states db db' →
      (Database.answer db read).1 = (Database.answer db' read).1 ∧
        Related states (Database.answer db read).2 (Database.answer db' read).2)
    (commits : ∀ states db db' (tx : Tx) result, Related states db db' → Kept result.state →
      ((Evm.replay cfg block tx).run Database.answer db).1 = .ok result →
      Related (states ++ [result.state])
        (Database.commit ((Evm.replay cfg block tx).run Database.answer db).2 result.state)
        (Database.commit ((Evm.replay cfg block tx).run Database.answer db').2 result.state))
    (txs : List Tx) {self : BlockExecutor DB} {self' : BlockExecutor DB'} {states : List EvmState}
    (kept : ∀ state ∈ self'.executedStates block cfg txs, Kept state)
    (initially : Related states self.db self'.db) :
    (self.executeTxs block cfg txs).1 = (self'.executeTxs block cfg txs).1 ∧
      Related (states ++ self'.executedStates block cfg txs) (self.executeTxs block cfg txs).2.db
        (self'.executeTxs block cfg txs).2.db := by
  induction txs generalizing self self' states with
  | nil =>
    refine ⟨rfl, ?_⟩
    simpa [executedStates, executeTxs] using initially
  | cons tx rest ih =>
    have ran := Dialogue.run_simulates (Related states) (reads states) (Evm.replay cfg block tx) initially
    have committed := commits states self.db self'.db tx
    rw [executedStates] at kept ⊢
    rw [executeTxs, executeTx, executeTxs, executeTx]
    rcases replayed : (Evm.replay cfg block tx).run Database.answer self.db with ⟨outcome, db⟩
    rcases replayed' : (Evm.replay cfg block tx).run Database.answer self'.db with ⟨outcome', db'⟩
    rw [replayed, replayed'] at ran committed
    obtain ⟨same, related⟩ := ran
    cases same
    rw [replayed'] at kept
    cases outcome with
    | error e => simpa using related
    | ok result =>
      have first := committed result initially (kept result.state List.mem_cons_self) rfl
      obtain ⟨results, later⟩ := @ih { self with db := Database.commit db result.state }
        { self' with db := Database.commit db' result.state } _
        (fun state member => kept state (List.mem_cons_of_mem result.state member)) first
      rw [List.append_assoc] at later
      dsimp only
      rcases looped : executeTxs (⟨Database.commit db result.state, self.chain⟩ : BlockExecutor DB) block cfg
        rest with ⟨ended, after⟩
      rcases looped' : executeTxs (⟨Database.commit db' result.state, self'.chain⟩ : BlockExecutor DB') block
        cfg rest with ⟨ended', after'⟩
      rw [looped, looped'] at results later
      cases results
      cases ended with
      | error e => exact ⟨rfl, later⟩
      | ok txResults => exact ⟨rfl, later⟩

end Simulation

section Traces

private theorem executeTxs_chain {DB Block Tx : Type} [Database DB] [Evm Block Tx] (self : BlockExecutor DB)
    (block : Block) (cfg : CfgEnv) (txs : List Tx) : (self.executeTxs block cfg txs).2.chain = self.chain := by
  induction txs generalizing self with
  | nil => rfl
  | cons tx rest ih =>
    rw [executeTxs, executeTx]
    rcases (Evm.replay cfg block tx).run Database.answer self.db with ⟨outcome, db⟩
    cases outcome with
    | error e => rfl
    | ok result =>
      have later := ih { self with db := Database.commit db result.state }
      dsimp only
      split <;> rename_i looped <;> rw [looped] at later <;> exact later

variable {DB Block Tx : Type} [Database DB] [BlockResponse Block Tx] [Evm Block Tx]

theorem executeBlock_chain [ChecksumAddress] (self : BlockExecutor DB) (block : Block) :
    (self.executeBlock block).2.chain = self.chain := by
  have kept := self.executeTxs_chain block (self.cfgEnv block) (BlockResponse.transactions block)
  unfold executeBlock
  dsimp only
  split
  · rename_i looped
    rw [looped] at kept
    exact kept
  · rename_i looped
    rw [looped] at kept
    split <;> exact kept

/-- No block destroys an account, up to the first that fails. -/
def KeepsAccounts [ChecksumAddress] (self : BlockExecutor DB) : List (Event Block) → Prop
  | [] => True
  | .read read :: rest => (self.step (.read read : Event Block)).KeepsAccounts rest
  | .execute block :: rest =>
    (∀ state ∈ self.blockStates block, EvmState.KeepsAccounts state) ∧
      ∀ result after, self.executeBlock block = (.ok result, after) → after.KeepsAccounts rest

omit [BlockResponse Block Tx] in
private theorem executedStates_keepsAccounts
    (keeps : ∀ (cfg : CfgEnv) (block : Block) (tx : Tx) (db : DB) result,
      ((Evm.replay cfg block tx).run Database.answer db).1 = .ok result → EvmState.KeepsAccounts result.state)
    (self : BlockExecutor DB) (block : Block) (cfg : CfgEnv) (txs : List Tx) :
    ∀ state ∈ self.executedStates block cfg txs, EvmState.KeepsAccounts state := by
  induction txs generalizing self with
  | nil => exact fun _ member => (List.not_mem_nil member).elim
  | cons tx rest ih =>
    have first := keeps cfg block tx self.db
    rw [executedStates]
    rcases replayed : (Evm.replay cfg block tx).run Database.answer self.db with ⟨outcome, db⟩
    rw [replayed] at first
    cases outcome with
    | error e => exact fun _ member => (List.not_mem_nil member).elim
    | ok result =>
      exact List.forall_mem_cons.mpr ⟨first result rfl, ih { self with db := Database.commit db result.state }⟩

/-- An EVM that never destroys an account. -/
theorem keepsAccounts_of_evm [ChecksumAddress]
    (keeps : ∀ (cfg : CfgEnv) (block : Block) (tx : Tx) (db : DB) result,
      ((Evm.replay cfg block tx).run Database.answer db).1 = .ok result → EvmState.KeepsAccounts result.state)
    (events : List (Event Block)) (self : BlockExecutor DB) : self.KeepsAccounts events := by
  induction events generalizing self with
  | nil => trivial
  | cons event rest ih =>
    cases event with
    | read read => exact ih (self.step (.read read : Event Block))
    | execute block =>
      exact ⟨executedStates_keepsAccounts keeps self block _ _, fun _ after _ => ih after⟩

/-- What comes of an event. -/
inductive Outcome where
  | answered (read : Read) (answer : read.Answer)
  | executed (outcome : Except ExecutorError BlockResult)

/-- The outcomes are these, up to a block whose commit to the trie fails. -/
def Replays (outcomes plain : List Outcome) : Prop :=
  outcomes = plain ∨ ∃ before e, before <+: plain ∧ outcomes = before ++ [.executed (.error (.database e))]

theorem Replays.cons {outcomes plain : List Outcome} (replays : Replays outcomes plain) (outcome : Outcome) :
    Replays (outcome :: outcomes) (outcome :: plain) := by
  rcases replays with same | ⟨before, e, reached, failed⟩
  · exact .inl (congrArg (outcome :: ·) same)
  · refine .inr ⟨outcome :: before, e, ?_, congrArg (outcome :: ·) failed⟩
    exact (List.prefix_cons_inj outcome).mpr reached

/-- What comes of the events, up to the first block that fails. -/
def trace [ChecksumAddress] (self : BlockExecutor DB) : List (Event Block) → List Outcome
  | [] => []
  | .read read :: rest =>
    .answered read (Database.answer self.db read).1 :: (self.step (.read read : Event Block)).trace rest
  | .execute block :: rest =>
    match self.executeBlock block with
    | (.error e, _) => [.executed (.error e)]
    | (.ok result, after) => .executed (.ok result) :: after.trace rest

end Traces

variable {Trie Txn KV Block Tx : Type} [TrieTransaction Txn] [TrieDb Trie Txn] [KeyValueDatabase KV]
variable [BlockResponse Block Tx] [Evm Block Tx] [ChecksumAddress]
variable [LawfulTransaction Txn] [LawfulTrieDb Trie Txn] [LawfulKeyValueDatabase KV]
variable [DurableKeyValueDatabase KV]
variable {rootOf : (Address → Option Leaf) → B256} {codeOf : B256 → Bytecode}
variable {cached : BlockExecutor (CachedDatabase (TrieDatabase Trie KV))}
variable {plain : BlockExecutor (Ledger rootOf)}

omit [ChecksumAddress] [LawfulKeyValueDatabase KV] [DurableKeyValueDatabase KV] in
/-- The transactions of a block. -/
theorem afterTxs_mirrors (hashed : EvmAddressed Trie KV Block Tx codeOf) (block : Block)
    (sameChain : cached.chain = plain.chain) (mirrors : Mirrors codeOf plain.db cached.db [] cached.db)
    (kept : ∀ state ∈ plain.blockStates block, EvmState.KeepsAccounts state) :
    (cached.executeTxs block (cached.cfgEnv block) (BlockResponse.transactions block)).1 =
        (plain.executeTxs block (plain.cfgEnv block) (BlockResponse.transactions block)).1 ∧
      Mirrors codeOf (plain.afterTxs block).db cached.db (plain.blockStates block)
        (cached.afterTxs block).db := by
  have cfg : cached.cfgEnv block = plain.cfgEnv block := by
    rw [cfgEnv, cfgEnv, sameChain]
  rw [afterTxs, afterTxs, cfg]
  refine executeTxs_simulates (fun states db ledger => Mirrors codeOf ledger cached.db states db)
    EvmState.KeepsAccounts ?_ ?_ (BlockResponse.transactions block) kept mirrors
  · intro states db ledger read related
    rw [Ledger.answer_snd]
    exact related.read read
  · intro states db ledger tx result related keeps replayed
    have comes := hashed _ block tx db result related.addressed replayed
    have ran := Dialogue.run_simulates (fun db ledger => Mirrors codeOf ledger cached.db states db)
      (fun _ _ read related => by rw [Ledger.answer_snd]; exact related.read read)
      (Evm.replay (plain.cfgEnv block) block tx) related
    exact ran.2.commit comes keeps

/-- A block: unless the commit to the trie fails, the outcome is that of the ledger. -/
theorem executeBlock_mirrors (readable : TrieDatabase.Readable Trie KV)
    (rooted : ∀ trie : Trie, TrieDb.stateRoot trie = rootOf (LawfulTrieDb.view trie))
    (hashed : EvmAddressed Trie KV Block Tx codeOf) (block : Block)
    (sameChain : cached.chain = plain.chain) (mirrors : Mirrors codeOf plain.db cached.db [] cached.db)
    (kept : ∀ state ∈ plain.blockStates block, EvmState.KeepsAccounts state)
    (written : ∀ e, (cached.executeBlock block).1 ≠ .error (.database e)) :
    (cached.executeBlock block).1 = (plain.executeBlock block).1 ∧
      ∀ result, (cached.executeBlock block).1 = .ok result →
        Mirrors codeOf (plain.executeBlock block).2.db (cached.executeBlock block).2.db []
          (cached.executeBlock block).2.db := by
  obtain ⟨results, mid⟩ := afterTxs_mirrors hashed block sameChain mirrors kept
  rw [afterTxs, afterTxs, blockStates] at mid
  unfold executeBlock at written ⊢
  rcases looped : cached.executeTxs block (cached.cfgEnv block) (BlockResponse.transactions block) with
    ⟨outcome, after⟩
  rcases looped' : plain.executeTxs block (plain.cfgEnv block) (BlockResponse.transactions block) with
    ⟨outcome', ledger⟩
  rw [looped] at written
  rw [looped, looped'] at results mid
  cases results
  cases outcome with
  | error e => exact ⟨rfl, fun result failed => by cases failed⟩
  | ok txResults =>
    have states := executeTxs_states (congrArg Prod.fst looped')
    rw [← states] at mid
    dsimp only at written ⊢
    rcases committed : Database.commitBlock after.db (BlockResponse.number block)
      (txResults.map TxResult.state) with ⟨ended, db⟩
    rw [committed] at written
    cases ended with
    | error e => exact absurd rfl (written _)
    | ok root =>
      obtain ⟨rfl, caughtUp⟩ := mid.commitBlock readable rooted committed
      exact ⟨rfl, fun _ _ => caughtUp⟩

/-- A run over the caches is that over the ledger, up to a block whose commit to the trie fails. -/
theorem trace_mirrors (readable : TrieDatabase.Readable Trie KV)
    (rooted : ∀ trie : Trie, TrieDb.stateRoot trie = rootOf (LawfulTrieDb.view trie))
    (hashed : EvmAddressed Trie KV Block Tx codeOf) (events : List (Event Block))
    {cached : BlockExecutor (CachedDatabase (TrieDatabase Trie KV))} {plain : BlockExecutor (Ledger rootOf)}
    (sameChain : cached.chain = plain.chain) (mirrors : Mirrors codeOf plain.db cached.db [] cached.db)
    (keeps : plain.KeepsAccounts events) :
    Replays (cached.trace events) (plain.trace events) := by
  induction events generalizing cached plain with
  | nil => exact .inl rfl
  | cons event rest ih =>
    cases event with
    | read read =>
      obtain ⟨same, after⟩ := mirrors.read read
      rw [trace, trace, same]
      have later : Mirrors codeOf (Database.answer plain.db read).2 (Database.answer cached.db read).2 []
          (Database.answer cached.db read).2 := by
        rw [Ledger.answer_snd]
        exact after.rebase
      exact (@ih (cached.step (.read read : Event Block)) (plain.step (.read read : Event Block)) sameChain later
        keeps).cons _
    | execute block =>
      have ran := executeBlock_mirrors readable rooted hashed block sameChain mirrors keeps.1
      rw [trace, trace]
      rcases executed : cached.executeBlock block with ⟨outcome, after⟩
      rcases executed' : plain.executeBlock block with ⟨outcome', after'⟩
      have afterChain : after.chain = after'.chain := by
        have before := executeBlock_chain cached block
        have before' := executeBlock_chain plain block
        rw [executed] at before
        rw [executed'] at before'
        rw [before, before', sameChain]
      rw [executed, executed'] at ran
      by_cases failed : ∃ e, outcome = .error (.database e)
      · obtain ⟨e, rfl⟩ := failed
        exact .inr ⟨[], e, List.nil_prefix, rfl⟩
      · obtain ⟨same, caughtUp⟩ := ran fun e error => failed ⟨e, error⟩
        cases same
        cases outcome with
        | error e => exact .inl rfl
        | ok result => exact (ih afterChain (caughtUp result rfl) (keeps.2 result after' executed')).cons _

/-- From empty caches over a sound database on: reads and blocks come out as they do over
the ledger that the database stands for, results and state roots alike, up to a block whose
commit to the trie fails. -/
theorem replays_ledger (readable : TrieDatabase.Readable Trie KV)
    (rooted : ∀ trie : Trie, TrieDb.stateRoot trie = rootOf (LawfulTrieDb.view trie))
    (hashed : EvmAddressed Trie KV Block Tx codeOf) {inner : TrieDatabase Trie KV}
    (sound : inner.Sound codeOf) (chain : Chain) (events : List (Event Block))
    (keeps : (⟨Ledger.of rootOf inner, chain⟩ : BlockExecutor (Ledger rootOf)).KeepsAccounts events) :
    Replays (trace ⟨CachedDatabase.new inner, chain⟩ events)
      (trace (⟨Ledger.of rootOf inner, chain⟩ : BlockExecutor (Ledger rootOf)) events) :=
  trace_mirrors readable rooted hashed events rfl (Mirrors.new readable sound) keeps

end BlockExecutor

section Examples

open BlockExecutor Reference Storage

instance : DurableKeyValueDatabase MemoryKv where
  getCode_kept kvdb codeHash code _ _ :=
    ⟨code, congrArg Except.ok (Function.update_self codeHash (some code) kvdb.codes)⟩

private theorem holder_sound : (database [(5, holder)]).Sound codeOf := by
  have found (address : Address) (leaf : Leaf) :
      (database [(5, holder)]).accounts address = some leaf → leaf = holder := by
    intro stored
    change List.lookup address [((5 : Address), holder)] = some leaf at stored
    rw [List.lookup_cons] at stored
    by_cases same : address = 5
    · rw [same] at stored
      exact (Option.some.inj stored).symm
    · rw [beq_false_of_ne same] at stored
      cases stored
  refine ⟨fun _ => ⟨none, rfl⟩, ?_, fun address leaf stored coded => ?_, fun address leaf slot stored => ?_⟩
  · intro codeHash code stored
    cases stored
  · rw [found address leaf stored] at coded
    exact absurd rfl coded
  · rw [found address leaf stored]
    change (if slot = 1 then some 3 else none) ≠ some (0 : U256)
    by_cases first : slot = 1
    · rw [if_pos first]
      decide
    · rw [if_neg first]
      simp

/-- The payment, over the caches and over the ledger. -/
theorem payment_replays_ledger :
    (executorOver [(5, holder)]).trace paymentRun =
      trace (⟨Ledger.of (fun _ => 0) (database [(5, holder)]), baseMainnet⟩ :
        BlockExecutor (Ledger fun _ => 0)) paymentRun := by
  have rooted (trie : MemoryTrie) : TrieDb.stateRoot trie = (fun _ => 0) (LawfulTrieDb.view trie) := rfl
  refine (replays_ledger memory_readable rooted scripted_addressed holder_sound baseMainnet paymentRun
    ?_).resolve_right ?_
  · refine ⟨by decide, ?_⟩
    intro result after _
    trivial
  · rintro ⟨before, e, -, failed⟩
    have last := congrArg List.getLast? failed
    rw [List.getLast?_concat] at last
    cases last

end Examples

end Montana.Vm
