import Mathlib.Data.List.Forall2
import Montana.Vm.BlockExecutor

/-! The verification of executed blocks against the receipts that the RPC has of them. -/

namespace Montana.Vm

structure ExecutedBlock (Block : Type) where
  block : Block
  result : BlockResult

/-- The parts of a receipt that are read. -/
structure Receipt where
  gasUsed : Nat
  status : Bool
  deriving DecidableEq, Repr

inductive VerificationEvent where
  | noReceipts (block : Nat)
  | rpcError (block : Nat) (error : String)
  | mismatch (block idx gasUsed receiptGas : Nat) (success receiptSuccess : Bool)
  | passed (block verified total : Nat)
  | failed (block mismatched verified total : Nat)
  deriving DecidableEq, Repr

def VerificationEvent.message : VerificationEvent → String
  | .noReceipts _ => "Verification skipped: no receipts found for block"
  | .rpcError _ _ => "Verification skipped due to upstream RPC error"
  | .mismatch block idx gasUsed receiptGas success receiptSuccess =>
    s!"Block {block} tx {idx}: gas mismatch (exec={gasUsed}, receipt={receiptGas}) or status mismatch " ++
      s!"(exec={success}, receipt={receiptSuccess})"
  | .passed block verified total =>
    s!"Block {block} verification PASSED: {verified}/{total} transactions verified"
  | .failed block mismatched verified total =>
    s!"Block {block} verification FAILED: {mismatched} mismatched, {verified} verified " ++
      s!"out of {total} transactions"

/-- The counters of the comparison, and the lines it has logged. -/
structure Tally where
  verified : Nat := 0
  mismatched : Nat := 0
  events : List VerificationEvent := []
  deriving DecidableEq, Repr

def Matches (pair : TxResult × Receipt) : Prop :=
  pair.1.gasUsed = pair.2.gasUsed ∧ pair.1.success = pair.2.status

instance (pair : TxResult × Receipt) : Decidable (Matches pair) := inferInstanceAs (Decidable (_ ∧ _))

def Tally.compare (blockNumber : Nat) (self : Tally) (entry : (TxResult × Receipt) × Nat) : Tally :=
  if Matches entry.1 then { self with verified := self.verified + 1 }
  else { self with
    mismatched := self.mismatched + 1
    events := self.events ++ [.mismatch blockNumber entry.2 entry.1.1.gasUsed entry.1.2.gasUsed
      entry.1.1.success entry.1.2.status] }

/-- What is logged, given the answer of the RPC. The comparison ends with the shorter list. -/
def verifyBlock {Block : Type} (executed : ExecutedBlock Block)
    (answer : Except String (Option (List Receipt))) : List VerificationEvent :=
  let blockNumber := executed.result.blockNumber
  match answer with
  | .error e => [.rpcError blockNumber e]
  | .ok none => [.noReceipts blockNumber]
  | .ok (some receipts) =>
    let total := executed.result.txResults.length
    let tally := (executed.result.txResults.zip receipts).zipIdx.foldl (Tally.compare blockNumber) {}
    if tally.mismatched = 0 then tally.events ++ [.passed blockNumber tally.verified total]
    else tally.events ++ [.failed blockNumber tally.mismatched tally.verified total]

/-- The transactions that a report counts as verified, and those it counts as mismatched. -/
def VerificationEvent.counts : VerificationEvent → Option (Nat × Nat)
  | .passed _ verified _ => some (verified, 0)
  | .failed _ mismatched verified _ => some (verified, mismatched)
  | _ => none

/-- As many receipts as results, and the same gas and status at every index. -/
def Agree (txResults : List TxResult) (receipts : List Receipt) : Prop :=
  txResults.length = receipts.length ∧ ∀ (index : Nat) (txResult : TxResult) (receipt : Receipt),
    txResults[index]? = some txResult → receipts[index]? = some receipt → Matches (txResult, receipt)

variable {Block : Type}

/-- A report of success means agreement, and every report counts all there is on both sides. -/
structure VerifiesInFull (executed : ExecutedBlock Block) (receipts : List Receipt) : Prop where
  passed : (∃ verified total, .passed executed.result.blockNumber verified total ∈
    verifyBlock executed (.ok (some receipts))) ↔ Agree executed.result.txResults receipts
  accounted : ∀ event ∈ verifyBlock executed (.ok (some receipts)), ∀ verified mismatched,
    event.counts = some (verified, mismatched) →
      verified + mismatched = executed.result.txResults.length ∧ verified + mismatched = receipts.length

private theorem Tally.compare_of_matches (blockNumber : Nat) (self : Tally)
    {entry : (TxResult × Receipt) × Nat}
    (same : Matches entry.1) :
    (self.compare blockNumber entry).verified = self.verified + 1 ∧
      (self.compare blockNumber entry).mismatched = self.mismatched := by
  rw [compare, if_pos same]
  exact ⟨rfl, rfl⟩

private theorem Tally.compare_of_differs (blockNumber : Nat) (self : Tally)
    {entry : (TxResult × Receipt) × Nat}
    (differs : ¬ Matches entry.1) :
    (self.compare blockNumber entry).verified = self.verified ∧
      (self.compare blockNumber entry).mismatched = self.mismatched + 1 := by
  rw [compare, if_neg differs]
  exact ⟨rfl, rfl⟩

/-- Each entry counts once. -/
theorem Tally.foldl_total (blockNumber : Nat) (entries : List ((TxResult × Receipt) × Nat)) (start : Tally) :
    (entries.foldl (Tally.compare blockNumber) start).verified +
      (entries.foldl (Tally.compare blockNumber) start).mismatched =
        start.verified + start.mismatched + entries.length := by
  induction entries generalizing start with
  | nil => rfl
  | cons entry rest ih =>
    rw [List.foldl_cons, ih, List.length_cons]
    by_cases same : Matches entry.1
    · obtain ⟨verified, mismatched⟩ := compare_of_matches blockNumber start same
      rw [verified, mismatched]
      omega
    · obtain ⟨verified, mismatched⟩ := compare_of_differs blockNumber start same
      rw [verified, mismatched]
      omega

/-- No mismatch is counted exactly where all entries match. -/
theorem Tally.foldl_mismatched (blockNumber : Nat) (entries : List ((TxResult × Receipt) × Nat))
    (start : Tally) :
    (entries.foldl (Tally.compare blockNumber) start).mismatched = 0 ↔
      start.mismatched = 0 ∧ ∀ entry ∈ entries, Matches entry.1 := by
  induction entries generalizing start with
  | nil => simp
  | cons entry rest ih =>
    rw [List.foldl_cons, ih, List.forall_mem_cons]
    by_cases same : Matches entry.1
    · rw [(compare_of_matches blockNumber start same).2]
      simp [same]
    · rw [(compare_of_differs blockNumber start same).2]
      simp [same]

/-- What is logged on the way is no report. -/
theorem Tally.foldl_events (blockNumber : Nat) (entries : List ((TxResult × Receipt) × Nat))
    (start : Tally) (before : ∀ event ∈ start.events, event.counts = none) :
    ∀ event ∈ (entries.foldl (Tally.compare blockNumber) start).events, event.counts = none := by
  induction entries generalizing start with
  | nil => exact before
  | cons entry rest ih =>
    apply ih (start.compare blockNumber entry)
    intro event member
    by_cases same : Matches entry.1
    · rw [Tally.compare, if_pos same] at member
      exact before event member
    · rw [Tally.compare, if_neg same] at member
      rcases List.mem_append.mp member with old | new
      · exact before event old
      · rw [List.mem_singleton.mp new]
        rfl

private theorem forall_zip_iff (txResults : List TxResult) (receipts : List Receipt) :
    (∀ entry ∈ (txResults.zip receipts).zipIdx, Matches entry.1) ↔
      ∀ (index : Nat) (txResult : TxResult) (receipt : Receipt), txResults[index]? = some txResult →
        receipts[index]? = some receipt → Matches (txResult, receipt) := by
  rw [← List.forall_mem_map, List.zipIdx_map_fst]
  constructor
  · intro all index txResult receipt result found
    apply all
    rw [List.mem_iff_getElem?]
    exact ⟨index, List.getElem?_zip_eq_some.mpr ⟨result, found⟩⟩
  · intro all pair member
    obtain ⟨index, listed⟩ := List.mem_iff_getElem?.mp member
    obtain ⟨result, found⟩ := List.getElem?_zip_eq_some.mp listed
    exact all index pair.1 pair.2 result found

/-- The report of a block: what it counts, and that it is the only one. -/
theorem verifyBlock_report (executed : ExecutedBlock Block) (receipts : List Receipt) :
    ∃ events report verified mismatched, verifyBlock executed (.ok (some receipts)) = events ++ [report] ∧
      (∀ event ∈ events, event.counts = none) ∧ report.counts = some (verified, mismatched) ∧
      verified + mismatched = min executed.result.txResults.length receipts.length ∧
      ((∃ verified total, .passed executed.result.blockNumber verified total = report) ↔ mismatched = 0) ∧
      (mismatched = 0 ↔ ∀ entry ∈ (executed.result.txResults.zip receipts).zipIdx, Matches entry.1) := by
  have total := Tally.foldl_total executed.result.blockNumber
    (executed.result.txResults.zip receipts).zipIdx {}
  have mismatched := Tally.foldl_mismatched executed.result.blockNumber
    (executed.result.txResults.zip receipts).zipIdx {}
  have events := Tally.foldl_events executed.result.blockNumber
    (executed.result.txResults.zip receipts).zipIdx {} (by simp)
  rw [List.length_zipIdx, List.length_zip] at total
  change _ = 0 + 0 + _ at total
  rw [verifyBlock]
  generalize (executed.result.txResults.zip receipts).zipIdx.foldl _ _ = tally at total mismatched events ⊢
  by_cases clean : tally.mismatched = 0
  · refine ⟨tally.events, _, tally.verified, 0, if_pos clean, events, rfl, ?_, ?_, ?_⟩
    · omega
    · simp
    · simpa [clean] using mismatched
  · refine ⟨tally.events, _, tally.verified, tally.mismatched, if_neg clean, events, rfl, ?_, ?_, ?_⟩
    · omega
    · simp [clean]
    · simpa using mismatched

/-- Verification is complete exactly where there are as many receipts as results: what the
longer list has more, the comparison leaves out. -/
theorem verifiesInFull_iff (executed : ExecutedBlock Block) (receipts : List Receipt) :
    VerifiesInFull executed receipts ↔ receipts.length = executed.result.txResults.length := by
  obtain ⟨events, report, verified, mismatched, same, others, counted, total, passes, clean⟩ :=
    verifyBlock_report executed receipts
  constructor
  · intro verifies
    have member : report ∈ verifyBlock executed (.ok (some receipts)) := by
      rw [same]
      exact List.mem_append_right _ List.mem_cons_self
    obtain ⟨results, found⟩ := verifies.accounted report member verified mismatched counted
    exact found.symm.trans results
  · intro length
    refine ⟨?_, ?_⟩
    · have agree : mismatched = 0 ↔ Agree executed.result.txResults receipts := by
        rw [clean, forall_zip_iff, Agree]
        exact (and_iff_right length.symm).symm
      rw [← agree, ← passes, same]
      constructor
      · intro reported
        obtain ⟨verified, total, member⟩ := reported
        rcases List.mem_append.mp member with early | last
        · cases others _ early
        · exact ⟨verified, total, List.mem_singleton.mp last⟩
      · intro reported
        obtain ⟨verified, total, last⟩ := reported
        refine ⟨verified, total, ?_⟩
        rw [last]
        exact List.mem_append_right _ List.mem_cons_self
    · intro event member v m counts
      rw [same] at member
      rcases List.mem_append.mp member with early | last
      · rw [others event early] at counts
        cases counts
      · rw [List.mem_singleton.mp last, counted] at counts
        cases counts
        rw [length, Nat.min_self] at total
        exact ⟨total, total.trans length.symm⟩

/-- Two executed transactions. -/
def twoTransactions : ExecutedBlock Unit where
  block := ()
  result := {
    blockNumber := 5
    txResults := [⟨true, 21000, none, ∅⟩, ⟨true, 50000, none, ∅⟩]
    stateRoot := 0 }

/-- The RPC has a receipt of the first only. -/
theorem missing_receipt_passes :
    verifyBlock twoTransactions (.ok (some [⟨21000, true⟩])) = [.passed 5 1 2] ∧
      ¬ Agree twoTransactions.result.txResults [⟨21000, true⟩] ∧
      ¬ VerifiesInFull twoTransactions [⟨21000, true⟩] := by
  have reported : verifyBlock twoTransactions (.ok (some [⟨21000, true⟩])) = [.passed 5 1 2] := by
    decide
  have differs : ¬ Agree twoTransactions.result.txResults [⟨21000, true⟩] := by
    intro agree
    exact absurd agree.1 (by decide)
  refine ⟨reported, differs, ?_⟩
  intro verifies
  apply differs
  rw [← verifies.passed, reported]
  exact ⟨1, 2, List.mem_cons_self⟩

end Montana.Vm
