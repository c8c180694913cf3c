import Montana.Common.Primitives

/-! The interface between the roles and the execution of blocks. -/

namespace Montana.Vm

inductive ExecutorError where
  | evm (message : String)
  | database (message : String)
  deriving DecidableEq, Repr

def ExecutorError.display : ExecutorError → String
  | .evm message => s!"EVM execution error: {message}"
  | .database message => s!"Database error: {message}"

/-- `Executor`: execute all transactions of a block and commit the state changes. -/
class Executor (Exec Block : Type) (Result : outParam Type) where
  executeBlock : Exec → Block → Except ExecutorError Result × Exec

/-- One call of `execute_block` with its answer. -/
structure Execution (Block Result : Type) where
  block : Block
  outcome : Except ExecutorError Result

/-- The executor after these blocks, whatever it answered to each. -/
def executeAll [Executor Exec Block Result] (executor : Exec) (blocks : List Block) : Exec :=
  blocks.foldl (fun executor block => (Executor.executeBlock executor block).2) executor

theorem executeAll_append [Executor Exec Block Result] (executor : Exec) (first second : List Block) :
    executeAll executor (first ++ second) = executeAll (executeAll executor first) second :=
  List.foldl_append

/-- What the executor answers to these blocks, one after the other. -/
def executionsOf [Executor Exec Block Result] (executor : Exec) :
    List Block → List (Execution Block Result)
  | [] => []
  | block :: rest =>
    ⟨block, (Executor.executeBlock executor block).1⟩ ::
      executionsOf (Executor.executeBlock executor block).2 rest

theorem executionsOf_append [Executor Exec Block Result] (executor : Exec) (first second : List Block) :
    executionsOf executor (first ++ second) =
      executionsOf executor first ++ executionsOf (executeAll executor first) second := by
  induction first generalizing executor with
  | nil => rfl
  | cons block rest ih =>
    rw [List.cons_append, executionsOf, ih]
    rfl

/-- Execution as an arbitrary function, whose result is persisted when it is `Ok`. -/
structure PersistentExecutor (State Block : Type) where
  state : State
  execute : State → Block → Except ExecutorError State

instance : Executor (PersistentExecutor State Block) Block Unit where
  executeBlock executor block :=
    match executor.execute executor.state block with
    | .ok state => (.ok (), { executor with state })
    | .error e => (.error e, executor)

end Montana.Vm
