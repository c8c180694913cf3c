import Montana.Local.Sink
import Montana.Local.Source

/-! The strings that `hex_to_bytes` accepts, those that it refuses, and those on which it
panics, against the grammar of hex strings. -/

namespace Montana.Local

open Collecting (collect collect_cons_panic collect_cons_error collect_cons_ok)

private theorem strFrom_zero (s : List Char) : strFrom s 0 = some s := by cases s <;> rfl

/-- Going on from a position inside the string. -/
theorem strFrom_add {s rest : List Char} {start : Nat} (before : strFrom s start = some rest) (length : Nat) :
    strFrom s (start + length) = strFrom rest length := by
  induction s generalizing start with
  | nil =>
    cases start with
    | zero =>
      rw [strFrom_zero] at before
      cases before
      rw [Nat.zero_add]
    | succ start => cases before
  | cons c s ih =>
    cases start with
    | zero =>
      rw [strFrom_zero] at before
      cases before
      rw [Nat.zero_add]
    | succ start =>
      rw [strFrom] at before
      split at before
      · rename_i inside
        have reaches : c.utf8Size ≤ start + length + 1 := by omega
        have left : start + length + 1 - c.utf8Size = start + 1 - c.utf8Size + length := by omega
        rw [Nat.add_right_comm, strFrom, if_pos reaches, left]
        exact ih before
      · cases before

private theorem slice_eq {s rest : List Char} {start : Nat} (before : strFrom s start = some rest)
    (length : Nat) :
    slice s start length = strTo rest length := by
  rw [slice, before]
  rfl

private theorem strTo_wide {c : Char} {rest : List Char} (wide : c.utf8Size = 2) :
    strTo (c :: rest) 2 = some [c] := by
  cases rest <;> simp [strTo, wide]

private theorem strTo_pair {high low : Char} {rest : List Char} (one : high.utf8Size = 1)
    (other : low.utf8Size = 1) :
    strTo (high :: low :: rest) 2 = some [high, low] := by
  cases rest <;> simp [strTo, one, other]

/-- Nothing else stands on two bytes. -/
theorem strTo_none {c : Char} {rest : List Char} (narrow : c.utf8Size ≠ 2)
    (cut : c.utf8Size = 1 → ∀ low later, rest = low :: later → low.utf8Size ≠ 1) :
    strTo (c :: rest) 2 = none := by
  have positive := c.utf8Size_pos
  rw [strTo]
  split
  · have one : c.utf8Size = 1 := by omega
    rw [one]
    cases rest with
    | nil => rfl
    | cons low later =>
      have wide := cut one low later rfl
      have positive := low.utf8Size_pos
      have long : ¬ low.utf8Size ≤ 0 + 1 := by omega
      rw [Nat.add_sub_cancel, strTo, if_neg long]
      rfl
  · rfl

private theorem toDigit_wide {c : Char} (wide : c.utf8Size = 2) : toDigit c = none := by
  apply if_neg
  intro digit
  have narrow := Hex.utf8Size_of_isDigit digit
  omega

private theorem u8FromStrRadix_wide {c : Char} (wide : c.utf8Size = 2) : u8FromStrRadix [c] = none := by
  have unsigned : c ≠ '+' := by
    intro plus
    rw [plus] at wide
    exact absurd wide (by decide)
  simp [u8FromStrRadix, unsigned, parseDigits, toDigit_wide wide]

/-- Two characters that are read as a number: two digits, or a sign and a digit. -/
def IsNumber (high low : Char) : Prop := (Hex.IsDigit high ∨ high = '+') ∧ Hex.IsDigit low

instance (high low : Char) : Decidable (IsNumber high low) := inferInstanceAs (Decidable (_ ∧ _))

private theorem u8FromStrRadix_digits {high low : Char} (first : Hex.IsDigit high)
    (second : Hex.IsDigit low) :
    u8FromStrRadix [high, low] = some (UInt8.ofNat (16 * Hex.value high + Hex.value low)) := by
  have unsigned : high ≠ '+' := by
    intro plus
    rw [plus] at first
    exact absurd first (by decide)
  have highSmall := Hex.value_lt first
  have lowSmall := Hex.value_lt second
  have fits : Hex.value high < 256 := by omega
  have bothFit : Hex.value high * 16 + Hex.value low < 256 := by omega
  simp [u8FromStrRadix, unsigned, parseDigits, toDigit, first, second, fits, bothFit, Nat.mul_comm]

private theorem u8FromStrRadix_isSome (high low : Char) :
    (u8FromStrRadix [high, low]).isSome ↔ IsNumber high low := by
  by_cases second : Hex.IsDigit low
  · by_cases first : Hex.IsDigit high
    · rw [u8FromStrRadix_digits first second]
      simp [IsNumber, first, second]
    · by_cases plus : high = '+'
      · have fits : Hex.value low < 256 := Nat.lt_trans (Hex.value_lt second) (by decide)
        simp [u8FromStrRadix, IsNumber, plus, parseDigits, toDigit, second, fits]
      · simp [u8FromStrRadix, IsNumber, plus, parseDigits, toDigit, first]
  · by_cases plus : high = '+'
    · simp [u8FromStrRadix, IsNumber, plus, parseDigits, toDigit, second]
    · by_cases first : Hex.IsDigit high <;>
        simp [u8FromStrRadix, IsNumber, plus, parseDigits, toDigit, first, second]

private theorem parseByte_error {src : List Char} (noNumber : u8FromStrRadix src = none) :
    parseByte src = .error (.connection "Invalid hex string") := by
  rw [parseByte, noNumber]

private theorem parseByte_ok {src : List Char} {byte : UInt8} (number : u8FromStrRadix src = some byte) :
    parseByte src = .ok byte := by
  rw [parseByte, number]

private theorem parseByte_pair (high low : Char) :
    (∃ byte, parseByte [high, low] = .ok byte) ↔ IsNumber high low := by
  rw [← u8FromStrRadix_isSome]
  cases number : u8FromStrRadix [high, low] with
  | none => simp [parseByte_error number]
  | some byte => simp [parseByte_ok number]

/-- What the slices of two bytes read, character by character. -/
def readPairs : List Char → Option (Except SourceError Bytes)
  | [] => some (.ok [])
  | [c] => if c.utf8Size = 2 then some (.error (.connection "Invalid hex string")) else none
  | high :: low :: rest =>
    if high.utf8Size = 2 then some (.error (.connection "Invalid hex string"))
    else if high.utf8Size = 1 ∧ low.utf8Size = 1 then
      match parseByte [high, low] with
      | .error e => some (.error e)
      | .ok byte => (readPairs rest).map (Except.map (byte :: ·))
    else none

private theorem byteAt_eq {hex rest : List Char} {i : Nat} (before : strFrom hex i = some rest) :
    byteAt hex i = (strTo rest 2).map parseByte := by
  rw [byteAt, slice_eq before]

private theorem strFrom_pair {high low : Char} (rest : List Char) (one : high.utf8Size = 1)
    (other : low.utf8Size = 1) : strFrom (high :: low :: rest) 2 = some rest := by
  simp [strFrom, one, other, strFrom_zero]

/-- As long as there is a character, there is a position to read from. -/
theorem positions_cons (i : Nat) (c : Char) (rest : List Char) :
    ∃ later, List.range' i ((strLen (c :: rest) + 1) / 2) 2 = i :: later := by
  have positive := c.utf8Size_pos
  have some : (strLen (c :: rest) + 1) / 2 = (strLen (c :: rest) - 1) / 2 + 1 := by
    rw [strLen]
    omega
  rw [some, List.range'_succ]
  exact ⟨_, rfl⟩

private theorem collect_wide {hex rest : List Char} {i : Nat} {c : Char}
    (before : strFrom hex i = some (c :: rest))
    (wide : c.utf8Size = 2) :
    collect (byteAt hex) (List.range' i ((strLen (c :: rest) + 1) / 2) 2) =
      some (.error (.connection "Invalid hex string")) := by
  obtain ⟨later, positions⟩ := positions_cons i c rest
  rw [positions]
  apply collect_cons_error
  rw [byteAt_eq before, strTo_wide wide, Option.map_some, parseByte_error (u8FromStrRadix_wide wide)]

private theorem collect_cut {hex rest : List Char} {i : Nat} {c : Char}
    (before : strFrom hex i = some (c :: rest))
    (narrow : c.utf8Size ≠ 2)
    (cut : c.utf8Size = 1 → ∀ low later, rest = low :: later → low.utf8Size ≠ 1) :
    collect (byteAt hex) (List.range' i ((strLen (c :: rest) + 1) / 2) 2) = none := by
  obtain ⟨later, positions⟩ := positions_cons i c rest
  rw [positions]
  apply collect_cons_panic
  rw [byteAt_eq before, strTo_none narrow cut, Option.map_none]

/-- The loop over positions does the same as reading on from each of them. -/
theorem collect_byteAt {hex rest : List Char} {i : Nat} (before : strFrom hex i = some rest) :
    collect (byteAt hex) (List.range' i ((strLen rest + 1) / 2) 2) = readPairs rest := by
  induction rest using readPairs.induct generalizing i with
  | case1 => rfl
  | case2 c wide =>
    rw [collect_wide before wide, readPairs, if_pos wide]
  | case3 c narrow =>
    rw [collect_cut before narrow (by simp), readPairs, if_neg narrow]
  | case4 high low rest wide =>
    rw [collect_wide before wide, readPairs, if_pos wide]
  | case5 high low rest narrow ascii e noNumber =>
    obtain ⟨later, positions⟩ := positions_cons i high (low :: rest)
    have read : byteAt hex i = some (.error e) := by
      rw [byteAt_eq before, strTo_pair ascii.1 ascii.2, Option.map_some, noNumber]
    rw [positions, collect_cons_error read, readPairs, if_neg narrow, if_pos ascii, noNumber]
  | case6 high low rest narrow ascii byte number ih =>
    have count : (strLen (high :: low :: rest) + 1) / 2 = (strLen rest + 1) / 2 + 1 := by
      rw [strLen, strLen, ascii.1, ascii.2]
      omega
    have read : byteAt hex i = some (.ok byte) := by
      rw [byteAt_eq before, strTo_pair ascii.1 ascii.2, Option.map_some, number]
    have next : strFrom hex (i + 2) = some rest := by
      rw [strFrom_add before, strFrom_pair rest ascii.1 ascii.2]
    rw [count, List.range'_succ, collect_cons_ok read, ih next, readPairs, if_neg narrow, if_pos ascii, number]
  | case7 high low rest narrow notAscii =>
    rw [readPairs, if_neg narrow, if_neg notAscii]
    apply collect_cut before narrow
    intro one c later same
    cases same
    intro other
    exact notAscii ⟨one, other⟩

private theorem hexToBytes_eq (hex : String) : hexToBytes hex = readPairs (stripped hex.toList) :=
  collect_byteAt (strFrom_zero _)

/-- Two digits for each byte: the bytes are read. -/
theorem readPairs_grammatical {digits : List Char} (grammatical : Hex.Grammatical digits) :
    readPairs digits = some (.ok (Hex.bytes digits)) := by
  induction digits using Hex.bytes.induct with
  | case1 high low rest ih =>
    obtain ⟨first, second, later⟩ := Hex.grammatical_pair.mp grammatical
    have one := Hex.utf8Size_of_isDigit first
    have narrow : high.utf8Size ≠ 2 := by omega
    have ascii := And.intro one (Hex.utf8Size_of_isDigit second)
    rw [readPairs, if_neg narrow, if_pos ascii, parseByte_ok (u8FromStrRadix_digits first second), ih later]
    rfl
  | case2 digits short =>
    rcases digits with _ | ⟨c, _ | ⟨low, rest⟩⟩
    · rfl
    · exact absurd grammatical (Hex.not_grammatical_singleton c)
    · exact absurd rfl (short c low rest)

/-- In slices of two bytes, a complete one that is not read as a number comes before any that
the end of the string or a wider character cuts off. -/
def refusedInPairs : List Char → Bool
  | [] => false
  | [c] => c.utf8Size == 2
  | high :: low :: rest =>
    high.utf8Size == 2 ||
      high.utf8Size == 1 && low.utf8Size == 1 && (!decide (IsNumber high low) || refusedInPairs rest)

private theorem readPairs_error_iff (digits : List Char) :
    (∃ e, readPairs digits = some (.error e)) ↔ refusedInPairs digits = true := by
  induction digits using readPairs.induct with
  | case1 => simp [readPairs, refusedInPairs]
  | case2 c wide => simp [readPairs, refusedInPairs, wide]
  | case3 c narrow => simp [readPairs, refusedInPairs, narrow]
  | case4 high low rest wide => simp [readPairs, refusedInPairs, wide]
  | case5 high low rest narrow ascii e noNumber =>
    have notNumber : ¬ IsNumber high low := by
      rw [← parseByte_pair]
      intro number
      obtain ⟨byte, same⟩ := number
      rw [noNumber] at same
      cases same
    simp [readPairs, refusedInPairs, ascii, noNumber, notNumber]
  | case6 high low rest narrow ascii byte number ih =>
    have isNumber : IsNumber high low := (parseByte_pair high low).mp ⟨byte, number⟩
    have later : refusedInPairs (high :: low :: rest) = refusedInPairs rest := by
      simp [refusedInPairs, ascii, isNumber]
    rw [later, ← ih, readPairs, if_neg narrow, if_pos ascii, number]
    constructor
    · intro failed
      obtain ⟨e, same⟩ := failed
      obtain ⟨result, read, mapped⟩ := Option.map_eq_some_iff.mp same
      cases result with
      | error e => exact ⟨e, read⟩
      | ok bytes => cases mapped
    · intro failed
      obtain ⟨e, read⟩ := failed
      exact ⟨e, by rw [read]; rfl⟩
  | case7 high low rest narrow notAscii =>
    have cut : refusedInPairs (high :: low :: rest) = false := by
      simp only [refusedInPairs, Bool.or_eq_false_iff, Bool.and_eq_false_imp, beq_eq_false_iff_ne]
      refine ⟨narrow, ?_⟩
      intro ascii
      exact absurd (by simpa using ascii) notAscii
    rw [readPairs, if_neg narrow, if_neg notAscii, cut]
    simp

/-- Pairs of hex digits, in front of which a `0x` may stand. -/
def IsHex (hex : String) : Prop := Hex.Grammatical (stripped hex.toList)

instance (hex : String) : Decidable (IsHex hex) := inferInstanceAs (Decidable (Hex.Grammatical _))

def Denotes (hex : String) (bytes : Bytes) : Prop := IsHex hex ∧ Hex.bytes (stripped hex.toList) = bytes

/-- Exactly the hex strings are read, as what they denote, and everything else is an error. -/
structure MeetsHexGrammar (hex : String) : Prop where
  accepted : ∀ bytes, hexToBytes hex = some (.ok bytes) ↔ Denotes hex bytes
  refused : ¬ IsHex hex → ∃ e, hexToBytes hex = some (.error e)

theorem hexToBytes_denotes {hex : String} {bytes : Bytes} (denotes : Denotes hex bytes) :
    hexToBytes hex = some (.ok bytes) := by
  obtain ⟨grammatical, rfl⟩ := denotes
  rw [hexToBytes_eq, readPairs_grammatical grammatical]

private theorem meetsHexGrammar_iff (hex : String) :
    MeetsHexGrammar hex ↔ IsHex hex ∨ refusedInPairs (stripped hex.toList) = true := by
  rw [← readPairs_error_iff, ← hexToBytes_eq]
  constructor
  · intro meets
    by_cases grammatical : IsHex hex
    · exact .inl grammatical
    · exact .inr (meets.refused grammatical)
  · intro either
    by_cases grammatical : IsHex hex
    · refine ⟨?_, fun not => absurd grammatical not⟩
      intro bytes
      constructor
      · intro read
        rw [hexToBytes_denotes ⟨grammatical, rfl⟩] at read
        cases read
        exact ⟨grammatical, rfl⟩
      · exact hexToBytes_denotes
    · have failed := either.resolve_left grammatical
      refine ⟨?_, fun _ => failed⟩
      obtain ⟨e, same⟩ := failed
      intro bytes
      simp [same, Denotes, grammatical]

private theorem stripped_bytesToHex (bytes : Bytes) :
    stripped (bytesToHex bytes).toList = Hex.encode bytes := by
  simp [bytesToHex, stripped]

/-- What the sink writes, the source reads. -/
theorem hexToBytes_bytesToHex (bytes : Bytes) : hexToBytes (bytesToHex bytes) = some (.ok bytes) := by
  obtain ⟨grammatical, same⟩ := Hex.encode_spec bytes
  apply hexToBytes_denotes
  rw [Denotes, IsHex, stripped_bytesToHex]
  exact ⟨grammatical, same⟩

/-- Hex strings are read as the grammar has them, except those that the slices of two bytes
read to the end with a sign among the digits, and those that they panic on: they run into the
end of the string, or into a character, before anything that is no number. -/
theorem hexToBytes_exact (hex : String) (bytes : Bytes) :
    (MeetsHexGrammar hex ↔ IsHex hex ∨ refusedInPairs (stripped hex.toList) = true) ∧
      hexToBytes (bytesToHex bytes) = some (.ok bytes) :=
  ⟨meetsHexGrammar_iff hex, hexToBytes_bytesToHex bytes⟩

/-- A sign counts as a digit; a digit without a partner panics, and so does half a character. -/
theorem signs_and_halves :
    hexToBytes "+f" = some (.ok [15]) ∧ ¬ MeetsHexGrammar "+f" ∧
      hexToBytes "abc" = none ∧ ¬ MeetsHexGrammar "abc" ∧
      hexToBytes "a\u20AC" = none ∧ ¬ MeetsHexGrammar "a\u20AC" := by
  have sign : hexToBytes "+f" = some (.ok [15]) := by decide +kernel
  have odd : hexToBytes "abc" = none := by decide +kernel
  have wide : hexToBytes "a\u20AC" = none := by decide +kernel
  refine ⟨sign, ?_, odd, ?_, wide, ?_⟩
  · intro meets
    have grammatical := ((meets.accepted [15]).mp sign).1
    exact absurd grammatical (by decide +kernel)
  · intro meets
    obtain ⟨e, same⟩ := meets.refused (by decide +kernel)
    rw [odd] at same
    cases same
  · intro meets
    obtain ⟨e, same⟩ := meets.refused (by decide +kernel)
    rw [wide] at same
    cases same

end Montana.Local
