import CentroidRpc.Message.Request
import CentroidRpc.Message.Response

/-!
# All messages

Every message of the service by name, the status on its own among them. Source: `relevanced.proto`.
-/

namespace CentroidRpc.Message

open Wire

/-- A message of leaves as one of fields. -/
def ofLeaves (m : Schema LeafType) : Schema FieldType :=
  ⟨m.name, m.fields.map fun f ↦ ⟨f.number, f.name, .leaf f.type⟩⟩

/-- Every message: the status, those that ask and those that answer. -/
def all : List (Schema FieldType) :=
  ofLeaves statusSchema :: Operation.all.map Operation.request ++
    ResponseType.all.map ResponseType.schema

/-- The message that an operation is asked with is one of them. -/
theorem request_mem_all (op : Operation) : op.request ∈ all :=
  List.mem_append_left _ (List.mem_cons_of_mem _ (List.mem_map.2 ⟨op, op.mem_all, rfl⟩))

/-- The message of a response is one of them. -/
theorem response_mem_all (t : ResponseType) : t.schema ∈ all :=
  List.mem_append_right _ (List.mem_map.2 ⟨t, t.mem_all, rfl⟩)

/-- The message with a name. -/
def named? (name : String) : Option (Schema FieldType) := all.find? (·.name == name)

end CentroidRpc.Message
