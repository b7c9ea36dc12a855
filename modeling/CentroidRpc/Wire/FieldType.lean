import CentroidRpc.Dict
import CentroidRpc.Wire.Record

/-!
# Types of field

A leaf holds at most one scalar. A field of a message is a leaf, a list of scalars, a dictionary of
scalars, or a message made of leaves.
-/

namespace CentroidRpc.Wire

/-- Fields with at most one scalar. -/
inductive LeafType where
  /-- A scalar; zero stands for its absence. -/
  | plain (s : Scalar)
  /-- A scalar that may be absent. -/
  | optional (s : Scalar)

/-- Writes a scalar with its key. -/
def writeScalarField (s : Scalar) (number : Nat) (v : s.Value) : Bytes :=
  writeKey number s.wire ++ s.write v

/-- Writes bytes with a key and their number before them. -/
def writeBlockField (number : Nat) (bs : Bytes) : Bytes :=
  writeKey number .lengthDelimited ++ writeVarint bs.length ++ bs

/-- How many bytes a scalar with its key takes. -/
def scalarFieldSize (s : Scalar) (number : Nat) (v : s.Value) : Nat :=
  keySize number + s.size v

/-- How many bytes a block of `n` bytes takes with its key and length. -/
def blockFieldSize (number n : Nat) : Nat := keySize number + varintSize n + n

namespace LeafType

/-- The values of a leaf. -/
abbrev Value : LeafType → Type
  | plain s => s.Value
  | optional s => Option s.Value

/-- The value of an absent leaf. -/
def absent : (t : LeafType) → t.Value
  | plain s => s.zero
  | optional _ => none

/-- Takes a value in the stead of the one so far. -/
def merge : (t : LeafType) → WireType → t.Value → Reader t.Value
  | plain s, w, _ => s.readAs w
  | optional s, w, _ => do return some (← s.readAs w)

/-- Writes a leaf unless it is absent. -/
def write : (t : LeafType) → (number : Nat) → t.Value → Bytes
  | plain s, number, v => if s.isZero v then [] else writeScalarField s number v
  | optional _, _, none => []
  | optional s, number, some v => writeScalarField s number v

/-- How many bytes a leaf takes. -/
def size : (t : LeafType) → (number : Nat) → t.Value → Nat
  | plain s, number, v => if s.isZero v then 0 else scalarFieldSize s number v
  | optional _, _, none => 0
  | optional s, number, some v => scalarFieldSize s number v

end LeafType

instance : FieldSort LeafType where
  Value := LeafType.Value
  absent := LeafType.absent
  merge t w _ v := t.merge w v
  write := LeafType.write
  size := LeafType.size

/-- Fields of a message. -/
inductive FieldType where
  /-- At most one scalar. -/
  | leaf (t : LeafType)
  /-- Any number of scalars in order. Texts are written one by one, all others packed. -/
  | repeated (s : Scalar)
  /-- Scalars by text. -/
  | dict (s : Scalar)
  /-- A message of leaves that may be absent. -/
  | message (m : Schema LeafType)

/-- Takes the next field of an entry, whose key is the first field and whose value is the second. A
fault in it has no place of its own. -/
def mergeEntry (s : Scalar) (depth : Nat) (e : String × s.Value) : Reader (String × s.Value) := do
  let k ← Reader.key
  match k.number with
  | 1 => do return (← Scalar.text.readAs k.wire, e.2)
  | 2 => do return (e.1, ← s.readAs k.wire)
  | _ => do
    Reader.skipField depth k
    return e

namespace FieldType

/-- The values of a field. -/
abbrev Value : FieldType → Type
  | leaf t => t.Value
  | repeated s => List s.Value
  | dict s => Dict s.Value
  | message m => Option m.Value

/-- The value of an absent field. -/
def absent : (t : FieldType) → t.Value
  | leaf t => t.absent
  | repeated _ => []
  | dict _ => .empty
  | message _ => none

/-- Enters one more level. -/
def descend {α : Type} (depth : Nat) (r : Nat → Reader α) : Reader α :=
  match depth with
  | 0 => Reader.fail .tooDeep
  | depth + 1 => r depth

/-- Takes one occurrence of a field. A scalar takes the stead of the one so far, a list grows at
its end, an entry takes the stead of one with the same key, and messages are merged. The wire type
of an entry is not looked at. -/
def merge : (t : FieldType) → WireType → (depth : Nat) → t.Value → Reader t.Value
  | leaf t, w, _, v => t.merge w v
  | repeated s, w, _, v =>
    if s ≠ .text ∧ w = .lengthDelimited then
      Reader.delimited (fun vs ↦ do return vs ++ [← s.read]) v
    else do return v ++ [← s.readAs w]
  | dict s, _, depth, v =>
    descend depth fun depth ↦ do
      let e ← Reader.delimited (mergeEntry s depth) ("", s.zero)
      return v.insert e.1 e.2
  | message m, w, depth, v => do
    Reader.expect .lengthDelimited w
    descend depth fun depth ↦ do
      return some (← Reader.delimited (m.mergeNext depth) (v.getD m.absent))

/-- Writes an entry of a dictionary as a message. -/
def writeEntry (s : Scalar) (number : Nat) (e : String × s.Value) : Bytes :=
  writeBlockField number
    (LeafType.write (.plain .text) 1 e.1 ++ LeafType.write (.plain s) 2 e.2)

/-- Writes a field unless it is absent. -/
def write : (t : FieldType) → (number : Nat) → t.Value → Bytes
  | leaf t, number, v => t.write number v
  | repeated .text, number, v => v.flatMap (writeScalarField .text number)
  | repeated s, number, v => if v.isEmpty then [] else writeBlockField number (v.flatMap s.write)
  | dict s, number, v => v.entries.flatMap (writeEntry s number)
  | message _, _, none => []
  | message m, number, some v => writeBlockField number (m.encode v)

/-- The sum of the sizes of values. -/
def total {α : Type} (size : α → Nat) : List α → Nat
  | [] => 0
  | a :: rest => size a + total size rest

/-- How many bytes an entry of a dictionary takes. -/
def entrySize (s : Scalar) (number : Nat) (e : String × s.Value) : Nat :=
  blockFieldSize number
    (LeafType.size (.plain .text) 1 e.1 + LeafType.size (.plain s) 2 e.2)

/-- How many bytes a field takes. -/
def size : (t : FieldType) → (number : Nat) → t.Value → Nat
  | leaf t, number, v => t.size number v
  | repeated .text, number, v => total (scalarFieldSize .text number) v
  | repeated s, number, v => if v.isEmpty then 0 else blockFieldSize number (total s.size v)
  | dict s, number, v => total (entrySize s number) v.entries
  | message _, _, none => 0
  | message m, number, some v => blockFieldSize number (m.size v)

end FieldType

instance : FieldSort FieldType where
  Value := FieldType.Value
  absent := FieldType.absent
  merge := FieldType.merge
  write := FieldType.write
  size := FieldType.size

end CentroidRpc.Wire
