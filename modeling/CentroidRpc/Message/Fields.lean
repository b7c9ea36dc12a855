import CentroidRpc.Wire.FieldType

/-!
# Fields of the service's messages

Short forms for the types of field that occur in messages, and the status that a response carries.
Source: `relevanced.proto`.
-/

namespace CentroidRpc.Message

open Wire

/-- A text. -/
abbrev text (number : Nat) (name : String) : FieldDecl FieldType :=
  ⟨number, name, .leaf (.plain .text)⟩

/-- The number of a language. -/
abbrev language (number : Nat) : FieldDecl FieldType := ⟨number, "language", .leaf (.plain .int32)⟩

/-- A flag. -/
abbrev flag (number : Nat) (name : String) : FieldDecl FieldType :=
  ⟨number, name, .leaf (.plain .bool)⟩

/-- A count or a position. -/
abbrev count (number : Nat) (name : String) : FieldDecl FieldType :=
  ⟨number, name, .leaf (.plain .uint64)⟩

/-- A list of texts. -/
abbrev texts (number : Nat) (name : String) : FieldDecl FieldType := ⟨number, name, .repeated .text⟩

/-- The status of a response as a message. -/
abbrev statusSchema : Schema LeafType :=
  ⟨"Status", [⟨1, "code", .plain .int32⟩, ⟨2, "message", .optional .text⟩]⟩

/-- The status that an enveloped response may carry. -/
abbrev status : FieldDecl FieldType := ⟨1, "status", .message statusSchema⟩

end CentroidRpc.Message

namespace CentroidRpc

/-- What a response says about the outcome of a call: the number of a status code, and what the
service adds in its own words. Source: `relevanced.proto`, `Status`. -/
structure Status where
  code : Int32
  message : Option String
  deriving DecidableEq, Repr

namespace Status

/-- The status of a success. -/
def ok : Status := ⟨0, none⟩

/-- The status that a record holds. -/
def ofRecord (r : Message.statusSchema.Value) : Status := ⟨r.1, r.2.1⟩

/-- The record of a status. -/
def record (s : Status) : Message.statusSchema.Value := (s.code, s.message, ())

/-- A status comes back from its record. -/
@[simp] theorem ofRecord_record (s : Status) : ofRecord s.record = s := rfl

/-- A record comes back from its status. -/
@[simp] theorem record_ofRecord (r : Message.statusSchema.Value) : (ofRecord r).record = r := rfl

end Status

end CentroidRpc
