/-!
# Why bytes are not a message

A fault is a cause together with the fields in which it was found. Each cause has one text
(`Cause.text`), and a fault writes its fields before it, the innermost first (`Fault.text`). The
texts are those of the codec that `SPEC_FULL.md` §10.1 names (`prost`).
-/

namespace CentroidRpc.Wire

/-- How the value of a field is delimited. -/
inductive WireType where
  | varint
  | sixtyFourBit
  | lengthDelimited
  | startGroup
  | endGroup
  | thirtyTwoBit
  deriving DecidableEq, Repr

namespace WireType

/-- The number of a wire type in a key. -/
def number : WireType → Nat
  | varint => 0
  | sixtyFourBit => 1
  | lengthDelimited => 2
  | startGroup => 3
  | endGroup => 4
  | thirtyTwoBit => 5

/-- The wire type with a number. -/
def ofNumber? : Nat → Option WireType
  | 0 => some varint
  | 1 => some sixtyFourBit
  | 2 => some lengthDelimited
  | 3 => some startGroup
  | 4 => some endGroup
  | 5 => some thirtyTwoBit
  | _ => none

/-- The name of a wire type in texts. -/
def name : WireType → String
  | varint => "Varint"
  | sixtyFourBit => "SixtyFourBit"
  | lengthDelimited => "LengthDelimited"
  | startGroup => "StartGroup"
  | endGroup => "EndGroup"
  | thirtyTwoBit => "ThirtyTwoBit"

/-- A wire type is found by its number and by no other. -/
theorem ofNumber?_eq_some_iff {n : Nat} {w : WireType} : ofNumber? n = some w ↔ n = w.number := by
  constructor
  · intro h
    unfold ofNumber? at h
    split at h <;> simp_all [number] <;> subst h <;> rfl
  · rintro rfl
    cases w <;> rfl

end WireType

/-- What can be wrong with bytes. -/
inductive Cause where
  /-- No number of variable length starts here. -/
  | badVarint
  /-- A key does not fit in 32 bits. -/
  | badKey (key : Nat)
  /-- A key ends in a number that is no wire type. -/
  | badWireType (number : Nat)
  /-- A key has the field number zero. -/
  | zeroField
  /-- A field comes with another wire type than its own. -/
  | wrongWireType (actual expected : WireType)
  /-- Fewer bytes are left than are asked for. -/
  | underflow
  /-- A part of stated length ends inside of an element. -/
  | overrun
  /-- A group ends that was not the last one to start. -/
  | strayGroupEnd
  /-- A text is not valid in UTF-8. -/
  | notUtf8
  /-- Parts lie in each other too deep. -/
  | tooDeep
  deriving DecidableEq, Repr

/-- The wording of a cause. -/
def Cause.text : Cause → String
  | badVarint => "invalid varint"
  | badKey key => "invalid key value: " ++ toString key
  | badWireType number => "invalid wire type value: " ++ toString number
  | zeroField => "invalid tag value: 0"
  | wrongWireType actual expected =>
    "invalid wire type: " ++ actual.name ++ " (expected " ++ expected.name ++ ")"
  | underflow => "buffer underflow"
  | overrun => "delimited length exceeded"
  | strayGroupEnd => "unexpected end group tag"
  | notUtf8 => "invalid string value: data is not UTF-8 encoded"
  | tooDeep => "recursion limit reached"

/-- A cause and where it was found: message and field of each known field around it, the innermost
first. -/
structure Fault where
  path : List (String × String)
  cause : Cause
  deriving DecidableEq, Repr

namespace Fault

/-- A fault outside of every field. -/
def ofCause (c : Cause) : Fault := ⟨[], c⟩

/-- The same fault inside of one more field. -/
def within (message field : String) (f : Fault) : Fault := ⟨f.path ++ [(message, field)], f.cause⟩

/-- The wording of a fault. -/
def text (f : Fault) : String :=
  "failed to decode Protobuf message: " ++
    String.join (f.path.map fun p ↦ p.1 ++ "." ++ p.2 ++ ": ") ++ f.cause.text

end Fault

end CentroidRpc.Wire
