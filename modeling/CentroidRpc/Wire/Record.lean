import CentroidRpc.Wire.Scalar

/-!
# Records

A message is described by its name and its fields, and a record holds a value for each field.
Records over any sort of fields are read and written in the same way: fields in any order, the ones
not declared passed over, and on writing in the order of the description. So does the codec that
`SPEC_FULL.md` §10.1 names (`prost`).
-/

namespace CentroidRpc.Wire

/-- A sort of fields: what each type of field holds, and how a value is read and written. -/
class FieldSort (τ : Type) where
  /-- The values of a field of a type. -/
  Value : τ → Type
  /-- The value of a field that does not occur. -/
  absent : (t : τ) → Value t
  /-- Takes one occurrence of a field, and merges it into the value so far. `depth` more levels
  may lie in it. -/
  merge : (t : τ) → (wire : WireType) → (depth : Nat) → Value t → Reader (Value t)
  /-- Writes a field with its key, or nothing where the value is that of an absent field. -/
  write : (t : τ) → (number : Nat) → Value t → Bytes
  /-- How many bytes are written of a field. -/
  size : (t : τ) → (number : Nat) → Value t → Nat

/-- A field of a message: its number on the wire, its name and what it holds. -/
structure FieldDecl (τ : Type) where
  number : Nat
  name : String
  type : τ

/-- The description of a message: its name, and its fields in the order of their writing. -/
structure Schema (τ : Type) where
  name : String
  fields : List (FieldDecl τ)

variable {τ : Type} [FieldSort τ]

/-- A value for each field. -/
def Record : List (FieldDecl τ) → Type
  | [] => Unit
  | f :: fs => FieldSort.Value f.type × Record fs

namespace Record

/-- The record of a message without any field in it. -/
def absent : (fs : List (FieldDecl τ)) → Record fs
  | [] => ()
  | f :: fs => (FieldSort.absent f.type, absent fs)

/-- Takes one field of a message with a given name, and passes over it if it is not declared. -/
def mergeField (message : String) (k : Key) (depth : Nat) :
    (fs : List (FieldDecl τ)) → Record fs → Reader (Record fs)
  | [], r => do
    Reader.skipField depth k
    pure r
  | f :: fs, (v, r) =>
    if f.number = k.number then do
      let v ← (FieldSort.merge f.type k.wire depth v).within message f.name
      pure (v, r)
    else do
      let r ← mergeField message k depth fs r
      pure (v, r)

/-- Writes all fields in order. -/
def write : (fs : List (FieldDecl τ)) → Record fs → Bytes
  | [], _ => []
  | f :: fs, (v, r) => FieldSort.write f.type f.number v ++ write fs r

/-- How many bytes are written of all fields. -/
def size : (fs : List (FieldDecl τ)) → Record fs → Nat
  | [], _ => 0
  | f :: fs, (v, r) => FieldSort.size f.type f.number v + size fs r

end Record

namespace Schema

/-- The records of a message. -/
abbrev Value (m : Schema τ) : Type := Record m.fields

/-- The value of a message without any field in it. -/
def absent (m : Schema τ) : m.Value := Record.absent m.fields

/-- Takes one field with its key. -/
def mergeNext (m : Schema τ) (depth : Nat) (r : m.Value) : Reader m.Value := do
  Record.mergeField m.name (← Reader.key) depth m.fields r

/-- Takes all fields that are left. -/
def reader (m : Schema τ) (depth : Nat) : Reader m.Value :=
  Reader.elements 0 (m.mergeNext depth) m.absent

/-- The number of levels that may lie in each other in a message. -/
def maxDepth : Nat := 100

/-- The value that bytes stand for. -/
def decode (m : Schema τ) (bs : Bytes) : Except Fault m.Value :=
  (m.reader maxDepth bs).map (·.1)

/-- The bytes of a value. -/
def encode (m : Schema τ) (r : m.Value) : Bytes := Record.write m.fields r

/-- How many bytes a value takes, found without writing it. -/
def size (m : Schema τ) (r : m.Value) : Nat := Record.size m.fields r

end Schema

end CentroidRpc.Wire
