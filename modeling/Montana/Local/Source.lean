import Montana.Buffer.ExecutedBlocks
import Montana.Lib.Collecting
import Montana.Lib.Hex

/-! The batch source that reads its blocks from a local JSON file. -/

namespace Montana.Local

open Buffer (L2BlockData)
open Collecting (collect)

/-! Strings as their characters, and positions in them in bytes of UTF-8. -/

/-- `str::len`. -/
def strLen : List Char → Nat
  | [] => 0
  | c :: rest => c.utf8Size + strLen rest

/-- What follows this many bytes, unless they end outside the string or inside a character. -/
def strFrom : List Char → Nat → Option (List Char)
  | s, 0 => some s
  | [], _ + 1 => none
  | c :: rest, start + 1 => if c.utf8Size ≤ start + 1 then strFrom rest (start + 1 - c.utf8Size) else none

/-- The first bytes, as many, in the same way. -/
def strTo : List Char → Nat → Option (List Char)
  | _, 0 => some []
  | [], _ + 1 => none
  | c :: rest, length + 1 =>
    if c.utf8Size ≤ length + 1 then (strTo rest (length + 1 - c.utf8Size)).map (c :: ·) else none

/-- `&s[start..start + length]`; no value where the slice panics. -/
def slice (s : List Char) (start length : Nat) : Option (List Char) :=
  (strFrom s start).bind (strTo · length)

/-- `strip_prefix("0x")`, or the string itself. -/
def stripped (hex : List Char) : List Char :=
  if ['0', 'x'].isPrefixOf hex then hex.drop 2 else hex

/-- `char::to_digit(16)`. -/
def toDigit (c : Char) : Option Nat :=
  if Hex.IsDigit c then some (Hex.value c) else none

/-- The digits of a `u8`, with what those before amount to. -/
def parseDigits (value : Nat) : List Char → Option Nat
  | [] => some value
  | c :: rest =>
    match toDigit c with
    | none => none
    | some digit => if value * 16 + digit < 256 then parseDigits (value * 16 + digit) rest else none

/-- `u8::from_str_radix(src, 16)`: digits after an optional `+`. Its errors are not told apart. -/
def u8FromStrRadix (src : List Char) : Option UInt8 :=
  let digits := if src.head? = some '+' then src.tail else src
  if digits.isEmpty then none else (parseDigits 0 digits).map UInt8.ofNat

/-- What the loop makes of a slice. -/
def parseByte (src : List Char) : Except SourceError UInt8 :=
  match u8FromStrRadix src with
  | none => .error (.connection "Invalid hex string")
  | some byte => .ok byte

def byteAt (hex : List Char) (i : Nat) : Option (Except SourceError UInt8) :=
  (slice hex i 2).map parseByte

def hexToBytes (hex : String) : Option (Except SourceError Bytes) :=
  let hex := stripped hex.toList
  collect (byteAt hex) (List.range' 0 ((strLen hex + 1) / 2) 2)

structure JsonTransaction where
  data : String
  deriving DecidableEq, Repr

structure JsonBlock where
  blockNumber : Nat
  timestamp : Nat
  transactions : List JsonTransaction
  deriving DecidableEq, Repr

structure JsonSourceData where
  blocks : List JsonBlock
  deriving DecidableEq, Repr

structure LocalBatchSource where
  data : JsonSourceData
  blocksConsumed : Bool
  deriving DecidableEq, Repr

def decodeBlock (block : JsonBlock) : Option (Except SourceError L2BlockData) :=
  (collect (fun tx => hexToBytes tx.data) block.transactions).map (Except.map fun transactions =>
    { blockNumber := block.blockNumber, timestamp := block.timestamp, transactions })

namespace LocalBatchSource

def fromData (data : JsonSourceData) : LocalBatchSource where
  data := data
  blocksConsumed := false

/-- The blocks count as consumed before the first of them is decoded. -/
def pendingBlocks (self : LocalBatchSource) :
    Option (Except SourceError (List L2BlockData)) × LocalBatchSource :=
  if self.blocksConsumed then (some (.ok []), self)
  else (collect decodeBlock self.data.blocks, { self with blocksConsumed := true })

end LocalBatchSource

end Montana.Local
