import Montana.TxMgr.Monitor

/-! What a confirmation says of the chain that gave it, when the chain may have changed
since the receipt was found. -/

namespace Montana.TxMgr

open Storage (B256)

namespace Chain

variable {mined : B256 → List MinedTransaction}

/-- The receipt names a block of the chain and one of its transactions. -/
theorem receiptFrom_inv {txHash : B256} {number : Nat} {blocks : List B256} {receipt : TransactionReceipt}
    (found : receiptFrom mined txHash number blocks = some receipt) :
    ∃ height block, receipt.blockNumber = some (number + height) ∧ receipt.blockHash = some block ∧
      blocks[height]? = some block ∧ txHash ∈ (mined block).map MinedTransaction.hash := by
  induction blocks generalizing number with
  | nil => cases found
  | cons block later ih =>
    rw [receiptFrom] at found
    split at found
    · next transaction included =>
      cases found
      have same : transaction.hash = txHash := by simpa using List.find?_some included
      exact ⟨0, block, rfl, rfl, rfl,
        same ▸ List.mem_map_of_mem (List.mem_of_find?_eq_some included)⟩
    · obtain ⟨height, other, numbered, hashed, placed, included⟩ := ih found
      exact ⟨height + 1, other, by rw [numbered]; congr 1; omega, hashed, placed, included⟩

end Chain

namespace TxMonitor

variable {mined : B256 → List MinedTransaction}

/-- The block of the receipt is on the chain, at its height and with the transaction,
and has the required number of blocks above it. -/
structure Confirmed (mined : B256 → List MinedTransaction) (config : TxManagerConfig) (chain : Chain)
    (txHash : B256) (receipt : TxReceipt) : Prop where
  placed : chain.blocks[receipt.blockNumber]? = some receipt.blockHash
  included : txHash ∈ (mined receipt.blockHash).map MinedTransaction.hash
  deep : receipt.blockNumber + config.numConfirmations.toNat ≤ chain.getBlockNumber

private theorem getReceipt_inv {txHash : B256} {answer : Answer} {receipt : TxReceipt}
    (received : getReceipt mined txHash answer = .ok (some receipt)) :
    ∃ origin, answer = .ok origin ∧ origin.blocks[receipt.blockNumber]? = some receipt.blockHash ∧
      txHash ∈ (mined receipt.blockHash).map MinedTransaction.hash := by
  cases answer with
  | error e => cases received
  | ok origin =>
    rw [getReceipt] at received
    split at received
    · cases received
    · next found =>
      obtain ⟨height, block, numbered, hashed, placed, included⟩ := Chain.receiptFrom_inv found
      rw [numbered, hashed, Nat.zero_add] at received
      split at received
      · cases received
      · cases received
        exact ⟨origin, rfl, placed, included⟩

private theorem isConfirmed_inv {self : TxMonitor} {receipt : TxReceipt} {answer : Answer}
    (confirmed : self.isConfirmed receipt answer = .ok true) :
    ∃ deciding, answer = .ok deciding ∧
      receipt.blockNumber + self.config.numConfirmations.toNat ≤ deciding.getBlockNumber := by
  cases answer with
  | error e => cases confirmed
  | ok deciding =>
    rw [isConfirmed] at confirmed
    split at confirmed
    · cases confirmed
    · next reached =>
      have enough : self.config.numConfirmations.toNat ≤ deciding.getBlockNumber - receipt.blockNumber := by
        simpa using confirmed
      exact ⟨deciding, rfl, by omega⟩

/-- A success is a confirmation exactly when the deciding chain still has the block of the
chain that the receipt was found on. -/
theorem confirmed_iff_block_kept {self : TxMonitor} {txHash : B256} {receipt : TxReceipt}
    {answers later rest : List Answer}
    (received : waitForReceipt mined txHash answers = some (.ok receipt, later))
    (waited : self.waitForConfirmations txHash receipt later = some (.ok (), rest)) :
    ∃ before origin between deciding,
      answers = before ++ .ok origin :: between ++ .ok deciding :: rest ∧
      getReceipt mined txHash (.ok origin) = .ok (some receipt) ∧
      (Confirmed mined self.config deciding txHash receipt ↔
        deciding.blocks[receipt.blockNumber]? = origin.blocks[receipt.blockNumber]?) := by
  obtain ⟨before, first, rfl, answered⟩ := Polling.ask_inv received
  obtain ⟨between, last, rfl, decided⟩ := Polling.ask_inv waited
  have found : getReceipt mined txHash first = .ok (some receipt) := by
    split at answered <;> cases answered
    assumption
  have confirmed : self.isConfirmed receipt last = .ok true := by
    split at decided <;> cases decided
    assumption
  obtain ⟨origin, rfl, placed, included⟩ := getReceipt_inv found
  obtain ⟨deciding, rfl, deep⟩ := isConfirmed_inv confirmed
  refine ⟨before, origin, between, deciding, by simp, found, ?_⟩
  rw [placed]
  exact ⟨Confirmed.placed, fun kept => ⟨kept, included, deep⟩⟩

/-- One transaction, mined in block 1. -/
def oneMined (block : B256) : List MinedTransaction :=
  if block = 1 then [⟨7, true, 21000, 1000000000, none, none⟩] else []

def oneReceipt : TxReceipt := ⟨7, 1, 1, 21000, 1000000000, none, none⟩

theorem confirmed_after_growth : ∃ before origin between deciding,
    [.ok ⟨0, []⟩, .ok ⟨0, [1]⟩, .ok ⟨0, [1, 2]⟩, .ok ⟨0, [1, 2, 3]⟩] =
      before ++ Except.ok origin :: between ++ .ok deciding :: ([] : List Answer) ∧
    getReceipt oneMined 7 (.ok origin) = .ok (some oneReceipt) ∧
    (Confirmed oneMined { numConfirmations := 2 } deciding 7 oneReceipt ↔
      deciding.blocks[oneReceipt.blockNumber]? = origin.blocks[oneReceipt.blockNumber]?) :=
  @confirmed_iff_block_kept oneMined { config := { numConfirmations := 2 } } 7 oneReceipt _
    [.ok ⟨0, [1, 2]⟩, .ok ⟨0, [1, 2, 3]⟩] [] (by decide) (by decide)

/-- The chain that decides has neither the block nor the transaction. -/
theorem confirmed_after_reorg :
    waitForReceipt oneMined 7 [.ok ⟨0, [1]⟩, .ok ⟨0, [2, 3, 4, 5, 6, 7, 8, 9, 10, 11, 12]⟩] =
        some (.ok oneReceipt, [.ok ⟨0, [2, 3, 4, 5, 6, 7, 8, 9, 10, 11, 12]⟩]) ∧
      waitForConfirmations { config := {} } 7 oneReceipt
        [.ok ⟨0, [2, 3, 4, 5, 6, 7, 8, 9, 10, 11, 12]⟩] = some (.ok (), []) ∧
      ¬ Confirmed oneMined {} ⟨0, [2, 3, 4, 5, 6, 7, 8, 9, 10, 11, 12]⟩ 7 oneReceipt := by
  refine ⟨by decide, by decide, fun confirmed => ?_⟩
  exact absurd confirmed.placed (by decide)

end TxMonitor

end Montana.TxMgr
