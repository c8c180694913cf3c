import Montana.Lib.LittleEndian
import Montana.Roles.Sequencer

/-! The Zstandard compressor. It bounds what it decompresses, but not what it compresses. -/

namespace Montana.Zstd

structure CompressionConfig where
  level : UInt32
  windowSize : UInt32
  deriving DecidableEq, Repr

/-- `zstd::bulk`: `decompress` also takes the capacity of the buffer that it writes to. -/
structure Bulk where
  compress : Bytes → Int32 → Except String Bytes
  decompress : Bytes → Nat → Except String Bytes

structure Bulk.Lawful (zstd : Bulk) : Prop where
  fits : ∀ {data packed : Bytes} {level : Int32} {capacity : Nat},
    zstd.compress data level = .ok packed → data.length ≤ capacity →
      zstd.decompress packed capacity = .ok data
  exceeds : ∀ {data packed : Bytes} {level : Int32} {capacity : Nat},
    zstd.compress data level = .ok packed → capacity < data.length →
      ∃ e, zstd.decompress packed capacity = .error e

/-- 10MB max decompressed size. -/
def maxDecompressedSize : Nat := 10 * 1024 * 1024

structure ZstdCompressor where
  config : CompressionConfig
  deriving DecidableEq, Repr

namespace ZstdCompressor

def new (config : CompressionConfig) : ZstdCompressor where
  config := config

def best : ZstdCompressor := new { level := 19, windowSize := 0 }

def fast : ZstdCompressor := new { level := 1, windowSize := 0 }

def balanced : ZstdCompressor := new { level := 3, windowSize := 0 }

instance : Inhabited ZstdCompressor := ⟨balanced⟩

variable (zstd : Bulk)

def compress (self : ZstdCompressor) (data : Bytes) : Except CompressionError Bytes :=
  (zstd.compress data self.config.level.toInt32).mapError .failed

/-- Whatever the error was, the data counts as corrupted. -/
def decompress (_self : ZstdCompressor) (data : Bytes) : Except CompressionError Bytes :=
  (zstd.decompress data maxDecompressedSize).mapError fun _ => .corrupted

/-- `impl Compressor for ZstdCompressor`. -/
def compressor (self : ZstdCompressor) : Compressor where
  compress := self.compress zstd
  decompress := self.decompress zstd

variable {zstd} {self : ZstdCompressor} {data packed : Bytes}

private theorem compress_ok (compressed : (self.compressor zstd).compress data = .ok packed) :
    zstd.compress data self.config.level.toInt32 = .ok packed := by
  change (zstd.compress data _).mapError _ = _ at compressed
  cases made : zstd.compress data self.config.level.toInt32 with
  | error e =>
    rw [made] at compressed
    cases compressed
  | ok bytes =>
    rw [made] at compressed
    cases compressed
    rfl

private theorem decompress_compress (lawful : zstd.Lawful)
    (compressed : (self.compressor zstd).compress data = .ok packed) :
    (self.compressor zstd).decompress packed =
      if data.length ≤ maxDecompressedSize then .ok data else .error .corrupted := by
  change (zstd.decompress packed _).mapError _ = _
  split
  · rename_i fits
    rw [lawful.fits (compress_ok compressed) fits]
    rfl
  · rename_i exceeds
    obtain ⟨e, failed⟩ := lawful.exceeds (compress_ok compressed) (Nat.lt_of_not_le exceeds)
    rw [failed]
    rfl

/-- The contract of the trait is kept for the data that fits the buffer, and for no other. -/
theorem roundtrips_iff_fits (lawful : zstd.Lawful)
    (compressed : (self.compressor zstd).compress data = .ok packed) :
    (self.compressor zstd).decompress packed = .ok data ↔ data.length ≤ maxDecompressedSize := by
  rw [decompress_compress lawful compressed]
  by_cases fits : data.length ≤ maxDecompressedSize
  · simp [fits]
  · simp [fits]

section Examples

/-- The frame of zstd for a few bytes that do not compress: magic number, descriptor, the
size of the content, and one raw block that is the last. -/
def storedFrame (data : Bytes) : Bytes :=
  [0x28, 0xB5, 0x2F, 0xFD, 0x20] ++ LittleEndian.encode 1 data.length ++
    LittleEndian.encode 3 (8 * data.length + 1) ++ data

def storing : Bulk where
  compress data _ := .ok (storedFrame data)
  decompress frame capacity :=
    if frame.take 5 = [0x28, 0xB5, 0x2F, 0xFD, 0x20] then
      let content := frame.drop 9
      if content.length ≤ capacity then .ok content else .error "Destination buffer is too small"
    else .error "Unknown frame descriptor"

private theorem storing_lawful : storing.Lawful := by
  have read (data : Bytes) (capacity : Nat) : storing.decompress (storedFrame data) capacity =
      if data.length ≤ capacity then .ok data else .error "Destination buffer is too small" := by
    have content : (storedFrame data).drop 9 = data := List.drop_left' (by simp)
    have start : (storedFrame data).take 5 = [0x28, 0xB5, 0x2F, 0xFD, 0x20] := by
      simp [storedFrame]
    simp only [storing, start, content, if_true]
  constructor
  · intro data packed level capacity compressed fits
    cases compressed
    rw [read, if_pos fits]
  · intro data packed level capacity compressed exceeds
    cases compressed
    exact ⟨_, by rw [read, if_neg (Nat.not_le.mpr exceeds)]⟩

theorem roundtrips_iff_fits_five :
    (balanced.compressor storing).decompress
      [0x28, 0xB5, 0x2F, 0xFD, 0x20, 5, 41, 0, 0, 1, 2, 3, 4, 5] = .ok [1, 2, 3, 4, 5] :=
  (roundtrips_iff_fits storing_lawful rfl).mpr (by decide)

/-- The shortest data that is too long for the buffer. -/
def oversized : Bytes := List.replicate (maxDecompressedSize + 1) 0

theorem oversized_not_decompressed :
    (balanced.compressor storing).compress oversized = .ok (storedFrame oversized) ∧
      (balanced.compressor storing).decompress (storedFrame oversized) = .error .corrupted ∧
      ¬ (balanced.compressor storing).Roundtrips := by
  have compressed : (balanced.compressor storing).compress oversized = .ok (storedFrame oversized) := rfl
  have long : ¬ oversized.length ≤ maxDecompressedSize := by
    rw [oversized, List.length_replicate]
    exact Nat.not_succ_le_self _
  have failed := decompress_compress storing_lawful compressed
  rw [if_neg long] at failed
  refine ⟨compressed, failed, fun roundtrips => ?_⟩
  have read := roundtrips oversized _ compressed
  rw [failed] at read
  cases read

end Examples

end ZstdCompressor

end Montana.Zstd
