import Mathlib.Data.List.Basic
import Montana.Common.Checkpoint
import Montana.Common.FileSystem

/-! The text of a checkpoint in its file. -/

namespace Montana

/-- `serde_json` on checkpoints. The reader stands for `fs::read_to_string` too:
contents that are no text are an I/O error. -/
structure CheckpointJson where
  toStringPretty : Checkpoint → Except String Bytes
  fromStr : Bytes → Except CheckpointError Checkpoint

/-- Numbers always serialize, to a text that reads back; the empty text is no checkpoint. -/
structure CheckpointJson.Faithful (json : CheckpointJson) : Prop where
  roundtrip : ∀ checkpoint, ∃ text,
    json.toStringPretty checkpoint = .ok text ∧ json.fromStr text = .ok checkpoint
  empty : ∃ e, json.fromStr [] = .error e

/-- `Checkpoint::load`. -/
def Checkpoint.load (json : CheckpointJson) (files : FileSystem) (path : Path) :
    Except CheckpointError (Option Checkpoint) :=
  match files path with
  | none => .ok none
  | some contents =>
    match json.fromStr contents with
    | .error e => .error e
    | .ok checkpoint => .ok (some checkpoint)

namespace Checkpoint

/-- A load reads one file. -/
theorem load_congr (json : CheckpointJson) {files files' : FileSystem} {path : Path}
    (same : files path = files' path) : load json files path = load json files' path := by
  rw [load, load, same]

theorem load_of_json {json : CheckpointJson} {files : FileSystem} {path : Path} {contents : Bytes}
    {checkpoint : Checkpoint} (stored : files path = some contents)
    (read : json.fromStr contents = .ok checkpoint) :
    load json files path = .ok (some checkpoint) := by
  simp only [load, stored, read]

theorem load_of_empty {json : CheckpointJson} (faithful : json.Faithful) {files : FileSystem} {path : Path}
    (stored : files path = some []) (found : Option Checkpoint) : load json files path ≠ .ok found := by
  intro loaded
  obtain ⟨e, refused⟩ := faithful.empty
  simp [load, stored, refused] at loaded

end Checkpoint

namespace Reference

def asciiBytes (text : List Char) : Bytes := text.map fun c => UInt8.ofNat c.toNat

def isDigit (byte : UInt8) : Bool := 48 ≤ byte.toNat && byte.toNat ≤ 57

/-- The numbers that occur in a text, after the digits of one that has begun. -/
def numbersAfter : Option Nat → Bytes → List Nat
  | begun, [] => begun.toList
  | begun, byte :: rest =>
    if isDigit byte then numbersAfter (some (10 * begun.getD 0 + (byte.toNat - 48))) rest
    else begun.toList ++ numbersAfter none rest

def decimal (n : Nat) : Bytes := asciiBytes (Nat.toDigits 10 n)

/-- One line for each field, between braces. -/
def prettyCheckpoint (checkpoint : Checkpoint) : Bytes :=
  asciiBytes "\x7b\n  \"last_batch_submitted\": ".toList ++ (decimal checkpoint.lastBatchSubmitted ++
  (asciiBytes ",\n  \"last_batch_derived\": ".toList ++ (decimal checkpoint.lastBatchDerived ++
  (asciiBytes ",\n  \"last_block_executed\": ".toList ++ (decimal checkpoint.lastBlockExecuted ++
  (asciiBytes ",\n  \"synced_to_block\": ".toList ++ (decimal checkpoint.syncedToBlock ++
  (asciiBytes ",\n  \"updated_at\": ".toList ++ (decimal checkpoint.updatedAt ++
  asciiBytes "\n\x7d".toList)))))))))

def prettyJson : CheckpointJson where
  toStringPretty checkpoint := .ok (prettyCheckpoint checkpoint)
  fromStr bytes :=
    if bytes.getLast? = some 125 then
      match numbersAfter none bytes with
      | [submitted, derived, executed, synced, updated] =>
        .ok ⟨submitted, derived, executed, synced, updated⟩
      | _ => .error (.serialize "missing field")
    else .error (.serialize "EOF while parsing an object")

private theorem numbersAfter_text (text : Bytes) (letters : ∀ byte ∈ text, isDigit byte = false)
    (rest : Bytes) :
    numbersAfter none (text ++ rest) = numbersAfter none rest := by
  induction text with
  | nil => rfl
  | cons byte text ih =>
    have tail := ih fun byte member => letters byte (List.mem_cons_of_mem _ member)
    simp [numbersAfter, letters byte (List.mem_cons_self ..), tail]

/-- The byte of a digit. -/
theorem digit_byte {c : Char} (digit : c.isDigit = true) :
    (UInt8.ofNat c.toNat).toNat = c.toNat ∧ isDigit (UInt8.ofNat c.toNat) = true := by
  obtain ⟨low, high⟩ : 48 ≤ c.toNat ∧ c.toNat ≤ 57 := by
    simpa [Char.isDigit, UInt32.le_iff_toNat_le] using digit
  have small : (UInt8.ofNat c.toNat).toNat = c.toNat := by
    simp only [UInt8.toNat_ofNat']
    omega
  exact ⟨small, by simp [isDigit, small, low, high]⟩

/-- Digits are taken into the number that has begun. -/
theorem numbersAfter_digits (digits : List Char) (areDigits : ∀ c ∈ digits, c.isDigit = true)
    (begun : Nat) (rest : Bytes) :
    numbersAfter (some begun) (asciiBytes digits ++ rest) =
      numbersAfter (some (Nat.ofDigitChars 10 digits begun)) rest := by
  induction digits generalizing begun with
  | nil => simp [asciiBytes]
  | cons c digits ih =>
    obtain ⟨small, digit⟩ := digit_byte (areDigits c (List.mem_cons_self ..))
    have tail := ih (fun c member => areDigits c (List.mem_cons_of_mem _ member))
      (10 * begun + (c.toNat - 48))
    simp only [asciiBytes, List.map_cons, List.cons_append, numbersAfter, digit, if_true,
      Option.getD_some, small, Nat.ofDigitChars_cons]
    exact tail

private theorem numbersAfter_decimal (n : Nat) (text : Bytes)
    (begins : ∀ byte ∈ text.head?, isDigit byte = false)
    (rest : Bytes) (nonempty : text ≠ []) :
    numbersAfter none (decimal n ++ (text ++ rest)) = n :: numbersAfter none (text ++ rest) := by
  have digits : ∀ c ∈ Nat.toDigits 10 n, c.isDigit = true := fun c member =>
    Nat.isDigit_of_mem_toDigits (by decide) (by decide) member
  obtain ⟨byte, text, rfl⟩ := List.exists_cons_of_ne_nil nonempty
  have letter : isDigit byte = false := begins byte rfl
  have started : numbersAfter none (decimal n ++ (byte :: text ++ rest)) =
      numbersAfter (some 0) (decimal n ++ (byte :: text ++ rest)) := by
    cases shape : Nat.toDigits 10 n with
    | nil => exact absurd shape Nat.toDigits_ne_nil
    | cons c tail =>
      have first := digits c (shape ▸ List.mem_cons_self ..)
      simp [decimal, shape, asciiBytes, numbersAfter, (digit_byte first).2]
  rw [started, decimal, numbersAfter_digits _ digits, Nat.ofDigitChars_ten_toDigits]
  simp [numbersAfter, letter]

private theorem numbersAfter_prettyCheckpoint (checkpoint : Checkpoint) :
    numbersAfter none (prettyCheckpoint checkpoint) =
      [checkpoint.lastBatchSubmitted, checkpoint.lastBatchDerived, checkpoint.lastBlockExecuted,
       checkpoint.syncedToBlock, checkpoint.updatedAt] := by
  rw [prettyCheckpoint, numbersAfter_text _ (by decide +kernel),
    numbersAfter_decimal _ _ (by decide +kernel) _ (by decide +kernel),
    numbersAfter_text _ (by decide +kernel),
    numbersAfter_decimal _ _ (by decide +kernel) _ (by decide +kernel),
    numbersAfter_text _ (by decide +kernel),
    numbersAfter_decimal _ _ (by decide +kernel) _ (by decide +kernel),
    numbersAfter_text _ (by decide +kernel),
    numbersAfter_decimal _ _ (by decide +kernel) _ (by decide +kernel),
    numbersAfter_text _ (by decide +kernel)]
  have last := numbersAfter_decimal checkpoint.updatedAt (asciiBytes "\n\x7d".toList)
    (by decide +kernel) [] (by decide +kernel)
  rw [List.append_nil] at last
  rw [last]
  rfl

theorem prettyJson_faithful : prettyJson.Faithful where
  roundtrip checkpoint := by
    refine ⟨prettyCheckpoint checkpoint, rfl, ?_⟩
    have closed : (prettyCheckpoint checkpoint).getLast? = some 125 := by
      simp only [prettyCheckpoint, ← List.append_assoc]
      rw [List.getLast?_append_of_ne_nil _ (by decide)]
      rfl
    simp only [prettyJson, closed, if_true, numbersAfter_prettyCheckpoint]
  empty := ⟨.serialize "EOF while parsing an object", rfl⟩

end Reference

end Montana
