import Montana.Common.ChainSpec
import Montana.Lib.Dialogue
import Montana.Storage.State
import Montana.Vm.Executor

/-! `BlockExecutor`: each transaction runs on the shared database and its changes are
committed to the caches at once; the block is committed at the end. -/

namespace Montana.Vm

open Storage (Address B256 Database DbError EvmState Read)

structure CfgEnv where
  spec : OpSpecId
  chainId : Nat
  deriving DecidableEq, Repr

inductive Output where
  | call (data : Bytes)
  | create (data : Bytes) (address : Option Address)
  deriving DecidableEq, Repr

inductive ExecutionResult where
  | success (output : Output) (gasUsed : Nat)
  | revert (output : Bytes) (gasUsed : Nat)
  | halt (gasUsed : Nat)
  deriving DecidableEq, Repr

structure ResultAndState where
  result : ExecutionResult
  state : EvmState

/-- The EVM is a library: given the configuration, the block and the transaction, it
reads the database as it likes and ends with a result or an error. -/
class Evm (Block Tx : Type) where
  replay : CfgEnv → Block → Tx → Dialogue Read Read.Answer (Except String ResultAndState)

/-- How error messages write an address, with a checksum from its hash. -/
class ChecksumAddress where
  checksum : Address → String

structure TxResult where
  success : Bool
  gasUsed : Nat
  output : Option Bytes
  state : EvmState

structure BlockResult where
  blockNumber : Nat
  txResults : List TxResult
  stateRoot : B256

def Output.data : Output → Bytes
  | .call data => data
  | .create data _ => data

def TxResult.of (result : ResultAndState) : TxResult :=
  match result.result with
  | .success output gasUsed =>
    { success := true, gasUsed, output := some output.data, state := result.state }
  | .revert output gasUsed =>
    { success := false, gasUsed, output := some output, state := result.state }
  | .halt gasUsed => { success := false, gasUsed, output := none, state := result.state }

@[simp] theorem TxResult.of_state (result : ResultAndState) : (TxResult.of result).state = result.state := by
  unfold TxResult.of
  split <;> rfl

structure BlockExecutor (DB : Type) where
  db : DB
  chain : Chain

namespace BlockExecutor

variable {DB Block Tx : Type}

def cfgEnv [BlockResponse Block Tx] (self : BlockExecutor DB) (block : Block) : CfgEnv where
  spec := self.chain.specIdAtTimestamp (BlockResponse.timestamp block)
  chainId := self.chain.chainId

variable [Database DB] [Evm Block Tx]

/-- A transaction that ran is committed to the caches, whatever its result. -/
def executeTx (self : BlockExecutor DB) (tx : Tx) (block : Block) (cfg : CfgEnv) :
    Except ExecutorError TxResult × BlockExecutor DB :=
  match (Evm.replay cfg block tx).run Database.answer self.db with
  | (.error e, db) => (.error (.evm e), { self with db })
  | (.ok result, db) => (.ok (TxResult.of result), { self with db := Database.commit db result.state })

/-- The loop over the transactions stops at the first that fails in the EVM. -/
def executeTxs (self : BlockExecutor DB) (block : Block) (cfg : CfgEnv) :
    List Tx → Except ExecutorError (List TxResult) × BlockExecutor DB
  | [] => (.ok [], self)
  | tx :: rest =>
    match self.executeTx tx block cfg with
    | (.error e, self) => (.error e, self)
    | (.ok txResult, self) =>
      match self.executeTxs block cfg rest with
      | (.error e, self) => (.error e, self)
      | (.ok txResults, self) => (.ok (txResult :: txResults), self)

/-- The states that the EVM returned for the transactions before the first that failed. -/
def executedStates (self : BlockExecutor DB) (block : Block) (cfg : CfgEnv) : List Tx → List EvmState
  | [] => []
  | tx :: rest =>
    match (Evm.replay cfg block tx).run Database.answer self.db with
    | (.error _, _) => []
    | (.ok result, db) =>
      result.state :: { self with db := Database.commit db result.state }.executedStates block cfg rest

/-- What each transaction preserves, given the states committed before it, the loop preserves. -/
theorem executeTxs_invariant {block : Block} {cfg : CfgEnv} (Holds : List EvmState → DB → Prop)
    (commits : ∀ states db (tx : Tx) result, Holds states db →
      ((Evm.replay cfg block tx).run Database.answer db).1 = .ok result →
      Holds (states ++ [result.state])
        (Database.commit ((Evm.replay cfg block tx).run Database.answer db).2 result.state))
    (reads : ∀ states db read, Holds states db → Holds states (Database.answer db read).2)
    (txs : List Tx) {self : BlockExecutor DB} {states : List EvmState}
    (initially : Holds states self.db) :
    Holds (states ++ self.executedStates block cfg txs) (self.executeTxs block cfg txs).2.db := by
  induction txs generalizing self states with
  | nil => simpa [executedStates, executeTxs] using initially
  | cons tx rest ih =>
    have ran := Dialogue.run_invariant (Holds states) (reads states) (Evm.replay cfg block tx) initially
    have committed := commits states self.db tx
    rw [executedStates, executeTxs, executeTx]
    rcases replayed : (Evm.replay cfg block tx).run Database.answer self.db with ⟨outcome, db⟩
    rw [replayed] at ran committed
    cases outcome with
    | error e => simpa using ran
    | ok result =>
      have later := @ih { self with db := Database.commit db result.state } _
        (committed result initially rfl)
      rw [List.append_assoc] at later
      dsimp only
      split <;> rename_i looped <;> rw [looped] at later <;> exact later

theorem executeTxs_states {block : Block} {cfg : CfgEnv} {txs : List Tx} {self : BlockExecutor DB}
    {txResults : List TxResult} (succeeded : (self.executeTxs block cfg txs).1 = .ok txResults) :
    txResults.map TxResult.state = self.executedStates block cfg txs := by
  induction txs generalizing self txResults with
  | nil =>
    cases succeeded
    rfl
  | cons tx rest ih =>
    rw [executeTxs, executeTx] at succeeded
    rw [executedStates]
    rcases replayed : (Evm.replay cfg block tx).run Database.answer self.db with ⟨outcome, db⟩
    rw [replayed] at succeeded
    cases outcome with
    | error e => simp at succeeded
    | ok result =>
      dsimp only at succeeded ⊢
      split at succeeded
      · simp at succeeded
      · rename_i looped
        cases succeeded
        rw [List.map_cons, TxResult.of_state, ih (congrArg Prod.fst looped)]

variable [BlockResponse Block Tx]

/-- The states of a block's transactions, and the executor after the last of them. -/
def blockStates (self : BlockExecutor DB) (block : Block) : List EvmState :=
  self.executedStates block (self.cfgEnv block) (BlockResponse.transactions block)

def afterTxs (self : BlockExecutor DB) (block : Block) : BlockExecutor DB :=
  (self.executeTxs block (self.cfgEnv block) (BlockResponse.transactions block)).2

variable [ChecksumAddress]

def executeBlock (self : BlockExecutor DB) (block : Block) :
    Except ExecutorError BlockResult × BlockExecutor DB :=
  let blockNumber := BlockResponse.number block
  match self.executeTxs block (self.cfgEnv block) (BlockResponse.transactions block) with
  | (.error e, self) => (.error e, self)
  | (.ok txResults, self) =>
    match Database.commitBlock self.db blockNumber (txResults.map TxResult.state) with
    | (.error e, db) => (.error (.database (e.display ChecksumAddress.checksum)), { self with db })
    | (.ok stateRoot, db) => (.ok { blockNumber, txResults, stateRoot }, { self with db })

instance : Executor (BlockExecutor DB) Block BlockResult where
  executeBlock := executeBlock

/-- What happens to an executor: its database, which has clones elsewhere, is read, or
a block is executed. -/
inductive Event (Block : Type) where
  | read (read : Read)
  | execute (block : Block)

def step (self : BlockExecutor DB) : Event Block → BlockExecutor DB
  | .read read => { self with db := (Database.answer self.db read).2 }
  | .execute block => (self.executeBlock block).2

def Succeeds (self : BlockExecutor DB) : Event Block → Prop
  | .read _ => True
  | .execute block => ∃ result, (self.executeBlock block).1 = .ok result

/-- A successful block was committed with the states of its transactions. -/
theorem executeBlock_ok {self after : BlockExecutor DB} {block : Block} {result : BlockResult}
    (succeeded : self.executeBlock block = (.ok result, after)) :
    Database.commitBlock (self.afterTxs block).db (BlockResponse.number block) (self.blockStates block) =
      (.ok result.stateRoot, after.db) := by
  unfold executeBlock at succeeded
  dsimp only at succeeded
  split at succeeded
  · simp at succeeded
  · rename_i looped
    have states := executeTxs_states (congrArg Prod.fst looped)
    split at succeeded
    · simp at succeeded
    · rename_i committed
      cases succeeded
      rw [afterTxs, blockStates, ← states, looped]
      exact committed

/-- A failed block stopped after some transactions, or in the commit of the block. -/
theorem executeBlock_error {self after : BlockExecutor DB} {block : Block} {e : ExecutorError}
    (failed : self.executeBlock block = (.error e, after)) :
    after.db = (self.afterTxs block).db ∨
      ∃ e', Database.commitBlock (self.afterTxs block).db (BlockResponse.number block)
        (self.blockStates block) = (.error e', after.db) := by
  unfold executeBlock at failed
  dsimp only at failed
  split at failed
  · rename_i looped
    cases failed
    exact .inl (congrArg (fun answer => answer.2.db) looped).symm
  · rename_i looped
    have states := executeTxs_states (congrArg Prod.fst looped)
    split at failed
    · rename_i committed
      cases failed
      rw [afterTxs, blockStates, ← states, looped]
      exact .inr ⟨_, committed⟩
    · simp at failed

end BlockExecutor

end Montana.Vm
