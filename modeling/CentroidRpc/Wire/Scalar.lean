import CentroidRpc.Number.Double
import CentroidRpc.Wire.Reader

/-!
# Scalars

The values that a field can hold one at a time, and how each kind of them is read and written.
-/

namespace CentroidRpc.Wire

/-- Kinds of scalar. -/
inductive Scalar where
  | text
  | int32
  | uint64
  | bool
  | double
  deriving DecidableEq, Repr

namespace Scalar

/-- The values of a kind. -/
abbrev Value : Scalar → Type
  | text => String
  | int32 => Int32
  | uint64 => UInt64
  | bool => Bool
  | double => Double

/-- The value of a field that is absent. -/
def zero : (s : Scalar) → s.Value
  | text => ""
  | int32 => 0
  | uint64 => 0
  | bool => false
  | double => .zero

/-- Whether a value need not be written, since an absent field has it; negative zero need not. -/
def isZero : (s : Scalar) → s.Value → Bool
  | text, v => v.isEmpty
  | int32, v => v == 0
  | uint64, v => v == 0
  | bool, v => !v
  | double, v => v.isZero

/-- How values of a kind are delimited. -/
def wire : Scalar → WireType
  | text => .lengthDelimited
  | int32 | uint64 | bool => .varint
  | double => .sixtyFourBit

/-- The lowest bytes of a number, the lowest first. -/
def lowBytes : (count n : Nat) → Bytes
  | 0, _ => []
  | count + 1, n => UInt8.ofNat n :: lowBytes count (n / 256)

/-- The bytes of a 64-bit word, the lowest first. -/
def littleEndian (w : UInt64) : Bytes := lowBytes 8 w.toNat

/-- The number that bytes stand for, the lowest first. -/
def ofLittleEndian : Bytes → Nat
  | [] => 0
  | b :: rest => b.toNat + 256 * ofLittleEndian rest

/-- The number that stands for a signed one: its two's complement in 64 bits. -/
def complement (n : Int32) : Nat := n.toInt64.toUInt64.toNat

/-- Writes a value without a key. -/
def write : (s : Scalar) → s.Value → Bytes
  | text, v => writeVarint v.utf8ByteSize ++ v.toUTF8.data.toList
  | int32, v => writeVarint (complement v)
  | uint64, v => writeVarint v.toNat
  | bool, v => writeVarint v.toNat
  | double, v => littleEndian v.bits

/-- How many bytes a value takes. -/
def size : (s : Scalar) → s.Value → Nat
  | text, v => varintSize v.utf8ByteSize + v.utf8ByteSize
  | int32, v => varintSize (complement v)
  | uint64, v => varintSize v.toNat
  | bool, _ => 1
  | double, _ => 8

/-- Takes a value after its key. A number too large for its kind loses its high bits, and every
number but zero is true. -/
def read : (s : Scalar) → Reader s.Value
  | text => do
    let bs ← Reader.block
    match String.fromUTF8? bs.toByteArray with
    | some v => pure v
    | none => Reader.fail .notUtf8
  | int32 => do return (UInt32.ofNat (← Reader.varint)).toInt32
  | uint64 => do return UInt64.ofNat (← Reader.varint)
  | bool => do return (← Reader.varint) != 0
  | double => do return ⟨UInt64.ofNat (ofLittleEndian (← Reader.take 8))⟩

private theorem ofLittleEndian_littleEndian (w : UInt64) :
    ofLittleEndian (littleEndian w) = w.toNat := by
  have := w.toNat_lt
  simp only [littleEndian, lowBytes, ofLittleEndian, UInt8.toNat_ofNat']
  omega

private theorem toInt32_complement (n : Int32) : (UInt32.ofNat (complement n)).toInt32 = n := by
  apply Int32.toBitVec_inj.1
  have hread : (UInt32.ofNat (complement n)).toInt32.toBitVec = BitVec.ofNat 32 (complement n) :=
    rfl
  have hwrite : complement n = (n.toBitVec.signExtend 64).toNat := rfl
  rw [hread, hwrite]
  apply BitVec.eq_of_toNat_eq
  simp only [BitVec.toNat_ofNat, BitVec.toNat_signExtend, BitVec.toNat_setWidth]
  have := n.toBitVec.isLt
  split <;> omega

/-- The bytes of a text stand for it. -/
theorem fromUTF8?_toUTF8 (v : String) :
    String.fromUTF8? v.toUTF8.data.toList.toByteArray = some v := by
  have hbytes : v.toUTF8.data.toList.toByteArray = v.toByteArray := by
    apply ByteArray.ext
    simp [List.data_toByteArray]
  rw [hbytes]
  simp [String.fromUTF8?, v.isValidUTF8]
  rfl

/-- A text has as many bytes as its size says. -/
theorem length_toUTF8 (v : String) : v.toUTF8.data.toList.length = v.utf8ByteSize := by
  rw [Array.length_toList]
  rfl

/-- As many bytes are written of a value as its size says. -/
theorem length_write (s : Scalar) (v : s.Value) : (s.write v).length = s.size v := by
  cases s with
  | text => rw [write, size, List.length_append, length_writeVarint, length_toUTF8]
  | int32 => exact length_writeVarint _
  | uint64 => exact length_writeVarint _
  | bool => cases v <;> simp [write, size, writeVarint]
  | double => simp [write, size, littleEndian, lowBytes]

/-- What is written of a value is read back as that value, and the bytes after it are left. -/
theorem read_write (s : Scalar) (v : s.Value) (rest : Bytes)
    (h : (s.write v).length < UInt64.size) :
    s.read (s.write v ++ rest) = .ok (v, rest) := by
  cases s with
  | text =>
    have hlen : v.toUTF8.data.toList.length < UInt64.size := by
      simp only [write, List.length_append] at h
      omega
    have hblock := Reader.block_append hlen rest
    rw [length_toUTF8, ← List.append_assoc] at hblock
    simp only [read, write, Reader.bind_apply, hblock, Except.bind, fromUTF8?_toUTF8]
    rfl
  | int32 =>
    have hread := Reader.varint_writeVarint (n := complement v) v.toInt64.toUInt64.toNat_lt rest
    simp only [read, write, Reader.bind_apply, hread, Except.bind, toInt32_complement]
    rfl
  | uint64 =>
    have hread := Reader.varint_writeVarint v.toNat_lt rest
    simp only [read, write, Reader.bind_apply, hread, Except.bind, UInt64.ofNat_toNat]
    rfl
  | bool =>
    have hread := Reader.varint_writeVarint (n := v.toNat) (by cases v <;> decide) rest
    simp only [read, write, Reader.bind_apply, hread, Except.bind]
    cases v <;> rfl
  | double =>
    have htake := Reader.take_append (littleEndian v.bits) rest
    rw [show (littleEndian v.bits).length = 8 by simp [littleEndian, lowBytes]] at htake
    simp only [read, write, Reader.bind_apply, htake, Except.bind, ofLittleEndian_littleEndian,
      UInt64.ofNat_toNat]
    rfl

/-- Takes a value whose key has a given wire type. -/
def readAs (s : Scalar) (actual : WireType) : Reader s.Value := do
  Reader.expect s.wire actual
  s.read

end Scalar

/-- Writes the key of a field. -/
def writeKey (number : Nat) (w : WireType) : Bytes := writeVarint (number * 8 + w.number)

/-- How many bytes the key of a field takes. -/
def keySize (number : Nat) : Nat := varintSize (number * 8)

end CentroidRpc.Wire
