import Montana.TxMgr.Submitter

/-! Where the two rules for trying again agree. -/

namespace Montana.TxMgr

open Storage (B256)

private theorem contains_trans {text pattern part : String} (whole : contains text pattern = true)
    (inner : part.toList <:+: pattern.toList) : contains text part = true := by
  simp only [contains, decide_eq_true_eq] at whole ⊢
  exact inner.trans whole

namespace TxError

/-- One of the markers that come before a revert. -/
def Earlier (lower : String) : Prop :=
  contains lower "underpriced" = true ∨ contains lower "nonce too low" = true ∨
    contains lower "insufficient funds" = true ∨ contains lower "insufficient balance" = true

instance (lower : String) : Decidable (Earlier lower) := inferInstanceAs (Decidable (_ ∨ _))

/-- The longer markers of a classification say nothing new. -/
theorem fromRpcError_eq (toLowercase : String → String) (msg : String) :
    fromRpcError toLowercase msg =
      if contains (toLowercase msg) "underpriced" then .underpriced
      else if contains (toLowercase msg) "nonce too low" then .nonceTooLow
      else if contains (toLowercase msg) "insufficient funds" ∨
        contains (toLowercase msg) "insufficient balance" then .insufficientFunds
      else if contains (toLowercase msg) "revert" then .reverted
      else if contains (toLowercase msg) "already known" ∨
        contains (toLowercase msg) "already reserved" then .alreadyReserved
      else .rpc msg := by
  have replacement : contains (toLowercase msg) "replacement transaction underpriced" = true →
      contains (toLowercase msg) "underpriced" = true := fun whole => contains_trans whole (by decide)
  have transaction : contains (toLowercase msg) "transaction reverted" = true →
      contains (toLowercase msg) "revert" = true := fun whole => contains_trans whole (by decide)
  have execution : contains (toLowercase msg) "execution reverted" = true →
      contains (toLowercase msg) "revert" = true := fun whole => contains_trans whole (by decide)
  have reverts : ((contains (toLowercase msg) "transaction reverted" = true ∨
      contains (toLowercase msg) "execution reverted" = true) ∨ contains (toLowercase msg) "revert" = true) ↔
        contains (toLowercase msg) "revert" = true :=
    or_iff_right_of_imp (Or.rec transaction execution)
  simp only [fromRpcError, Bool.or_eq_true, or_iff_left_of_imp replacement, reverts]

private theorem fromRpcError_eq_reverted_iff (toLowercase : String → String) (msg : String) :
    fromRpcError toLowercase msg = .reverted ↔
      contains (toLowercase msg) "revert" = true ∧ ¬ Earlier (toLowercase msg) := by
  rw [fromRpcError_eq, Earlier]
  grind

/-- A classified error that may not be retried and yet does not abort is a revert. -/
theorem fromRpcError_cases (toLowercase : String → String) (msg : String) :
    (fromRpcError toLowercase msg).isRetryable = true ∨ fromRpcError toLowercase msg = .reverted ∨
      fromRpcError toLowercase msg = .insufficientFunds ∨
      fromRpcError toLowercase msg = .alreadyReserved := by
  rw [fromRpcError_eq]
  grind [isRetryable]

end TxError

namespace TxSubmitter

/-- The error is given up in every state. -/
def AlwaysAborts (self : TxSubmitter) (error : TxError) : Prop :=
  ∀ state, self.shouldAbort error state = true

/-- The two rules agree on this answer, and what is known already is not given up. -/
structure Agrees (self : TxSubmitter) (toLowercase : String → String) (msg : String) (state : SendState) :
    Prop where
  goesOn : self.shouldAbort (TxError.fromRpcError toLowercase msg) state = false →
    (TxError.fromRpcError toLowercase msg).isRetryable = true
  givesUp : self.AlwaysAborts (TxError.fromRpcError toLowercase msg) →
    (TxError.fromRpcError toLowercase msg).isRetryable = false
  known : contains (toLowercase msg) "already known" = true →
    ∀ error, publish toLowercase (.error msg) = .error error → self.shouldAbort error state = false

/-- Only an error that may not be retried is given up in every state. -/
theorem not_retryable_of_alwaysAborts {self : TxSubmitter} {error : TxError} (aborts : self.AlwaysAborts error) :
    error.isRetryable = false := by
  have fresh := aborts SendState.new
  cases error with
  | rpc message => cases fresh
  | underpriced => cases fresh
  | nonceTooLow =>
    have none : (SendState.new).shouldAbortNonce self.config.safeAbortNonceTooLowCount = true := fresh
    obtain ⟨positive, reached⟩ := (Bool.and_eq_true _ _).mp none
    exact absurd (of_decide_eq_true positive) (BitVec.not_lt.mpr (of_decide_eq_true reached))
  | _ => rfl

theorem rules_agree_iff (self : TxSubmitter) (toLowercase : String → String) (msg : String) (state : SendState) :
    self.Agrees toLowercase msg state ↔
      ¬ contains (toLowercase msg) "already known" = true ∧
      (contains (toLowercase msg) "revert" = true → TxError.Earlier (toLowercase msg)) := by
  constructor
  · rintro ⟨goesOn, _, known⟩
    refine ⟨fun present => ?_, fun reverts => ?_⟩
    · have answer : publish toLowercase (.error msg) = .error .alreadyReserved := by
        simp [publish, Except.mapError, present]
      exact absurd (known present _ answer) (by simp [shouldAbort])
    · by_contra none
      have reverted := (TxError.fromRpcError_eq_reverted_iff toLowercase msg).mpr ⟨reverts, none⟩
      rw [reverted] at goesOn
      exact absurd (goesOn rfl) (by decide)
  · rintro ⟨unknown, earlier⟩
    refine ⟨fun goesOn => ?_, not_retryable_of_alwaysAborts, fun present => absurd present unknown⟩
    rcases TxError.fromRpcError_cases toLowercase msg with retryable | reverted | funds | reserved
    · exact retryable
    · obtain ⟨reverts, none⟩ := (TxError.fromRpcError_eq_reverted_iff toLowercase msg).mp reverted
      exact absurd (earlier reverts) none
    · rw [funds] at goesOn
      cases goesOn
    · rw [reserved] at goesOn
      cases goesOn

/-- A revert goes on but may not be retried, and a transaction that is known already,
which is to be handled as success, is given up. -/
theorem revert_disagrees :
    ¬ Agrees ⟨{}⟩ id "execution reverted" SendState.new ∧
      publish id (.error "already known") = .error .alreadyReserved ∧
      ¬ Agrees ⟨{}⟩ id "already known" SendState.new := by
  refine ⟨fun ⟨goesOn, _, _⟩ => ?_, by decide, fun ⟨_, _, known⟩ => ?_⟩
  · exact absurd (goesOn (by decide)) (by decide)
  · exact absurd (known (by decide) .alreadyReserved (by decide)) (by decide)

end TxSubmitter

end Montana.TxMgr
