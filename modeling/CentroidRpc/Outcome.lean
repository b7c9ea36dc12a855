import CentroidRpc.CallError
import CentroidRpc.Request

/-!
# The outcome that a response reports

A bare response is a success. An enveloped one is a success if its status is absent or has the code
zero; every other code is an error about the ids that the request names. (`SPEC_FULL.md` §4.3,
Status Interpreter.)
-/

namespace CentroidRpc

/-- The centroids and the documents that a request names, as the caller wrote their ids. Source:
`Subjects`. -/
structure Subjects where
  centroids : List String
  documents : List String
  deriving DecidableEq, Repr

/-- What a call names. -/
def Call.subjects {φ ℓ : Type} (c : Call φ ℓ) : Subjects := ⟨c.centroids, c.documents⟩

/-- The ids that a failure is about. -/
def Failure.idsIn (s : Subjects) : Failure → List String
  | centroidDoesNotExist | centroidAlreadyExists => s.centroids
  | documentDoesNotExist | documentAlreadyExists => s.documents
  | documentAlreadyInCentroid | documentNotInCentroid => s.documents
  | unknownException => []

/-- The error that a status reports, if any. Source: `classify`. -/
def Status.error? (s : Status) (subjects : Subjects) : Option CallError :=
  match StatusCode.ofNumber? s.code with
  | some .ok => none
  | some (.failed f) => some (.reported f (f.idsIn subjects) s.message)
  | none => some (.unrecognised s.code s.message)

namespace Response

variable {t : ResponseType}

/-- The status of an enveloped response; one that is absent counts as success (`SPEC_FULL.md` §9,
`ResponseEnvelope`). -/
def envelope (r : Response t) : Option Status :=
  if t.bare then none else some (r.status.getD .ok)

/-- The payload of a successful response, or the error it reports. Source: `interpret`. -/
def outcome (r : Response t) (subjects : Subjects) : Except CallError (Wire.Record t.payload) :=
  match r.envelope.bind (·.error? subjects) with
  | some e => .error e
  | none => .ok r.payload

end Response

end CentroidRpc
