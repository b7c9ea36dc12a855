import CentroidRpc.Language
import CentroidRpc.Message.Request
import CentroidRpc.Message.Response

/-!
# Requests

A call names an operation and its arguments. Its flags and its language may be left out; in the
request that is sent they are filled in (`Draft.request`). A request is a record of its operation's
message, and comes back from that record (`Request.ofRecord_record`). (`SPEC_FULL.md` §4.2, Request
Builders.)
-/

namespace CentroidRpc

open Wire

/-- An operation with its arguments, where a flag is a `φ` and a language an `ℓ`. -/
inductive Call (φ ℓ : Type) where
  | ping
  | getServerMetadata
  | createDocument (text : String) (language : ℓ)
  | createDocumentWithId (id text : String) (language : ℓ)
  | deleteDocument (id : String) (ignoreMissing : φ)
  | multiDeleteDocuments (ids : List String) (ignoreMissing : φ)
  | getDocumentMetadata (id : String)
  | createCentroid (id : String) (ignoreExisting : φ)
  | multiCreateCentroids (ids : List String) (ignoreExisting : φ)
  | deleteCentroid (id : String) (ignoreMissing : φ)
  | multiDeleteCentroids (ids : List String) (ignoreMissing : φ)
  | joinCentroid (id : String)
  | multiJoinCentroids (ids : List String)
  | addDocumentsToCentroid (centroid : String) (documents : List String) (ignoreMembers : φ)
  | removeDocumentsFromCentroid (centroid : String) (documents : List String) (ignoreOthers : φ)
  | getDocumentSimilarity (centroid document : String)
  | multiGetDocumentSimilarity (centroids : List String) (document : String)
  | getTextSimilarity (centroid text : String) (language : ℓ)
  | multiGetTextSimilarity (centroids : List String) (text : String) (language : ℓ)
  | getCentroidSimilarity (first second : String)
  | listAllCentroids
  | listCentroidRange (offset count : UInt64)
  | listCentroidRangeFromId (id : String) (count : UInt64)
  | listAllDocuments
  | listDocumentRange (offset count : UInt64)
  | listDocumentRangeFromId (id : String) (count : UInt64)
  | listUnusedDocuments (limit : UInt64)
  | listAllDocumentsForCentroid (centroid : String)
  | listCentroidDocumentRange (centroid : String) (offset count : UInt64)
  | listCentroidDocumentRangeFromId (centroid document : String) (count : UInt64)
  deriving DecidableEq

namespace Call

variable {φ ℓ φ' ℓ' : Type}

/-- The operation of a call. -/
abbrev operation : Call φ ℓ → Operation
  | ping => .ping
  | getServerMetadata => .getServerMetadata
  | createDocument .. => .createDocument
  | createDocumentWithId .. => .createDocumentWithId
  | deleteDocument .. => .deleteDocument
  | multiDeleteDocuments .. => .multiDeleteDocuments
  | getDocumentMetadata .. => .getDocumentMetadata
  | createCentroid .. => .createCentroid
  | multiCreateCentroids .. => .multiCreateCentroids
  | deleteCentroid .. => .deleteCentroid
  | multiDeleteCentroids .. => .multiDeleteCentroids
  | joinCentroid .. => .joinCentroid
  | multiJoinCentroids .. => .multiJoinCentroids
  | addDocumentsToCentroid .. => .addDocumentsToCentroid
  | removeDocumentsFromCentroid .. => .removeDocumentsFromCentroid
  | getDocumentSimilarity .. => .getDocumentSimilarity
  | multiGetDocumentSimilarity .. => .multiGetDocumentSimilarity
  | getTextSimilarity .. => .getTextSimilarity
  | multiGetTextSimilarity .. => .multiGetTextSimilarity
  | getCentroidSimilarity .. => .getCentroidSimilarity
  | listAllCentroids => .listAllCentroids
  | listCentroidRange .. => .listCentroidRange
  | listCentroidRangeFromId .. => .listCentroidRangeFromId
  | listAllDocuments => .listAllDocuments
  | listDocumentRange .. => .listDocumentRange
  | listDocumentRangeFromId .. => .listDocumentRangeFromId
  | listUnusedDocuments .. => .listUnusedDocuments
  | listAllDocumentsForCentroid .. => .listAllDocumentsForCentroid
  | listCentroidDocumentRange .. => .listCentroidDocumentRange
  | listCentroidDocumentRangeFromId .. => .listCentroidDocumentRangeFromId

/-- The call with other flags and languages. -/
def map (f : φ → φ') (g : ℓ → ℓ') : Call φ ℓ → Call φ' ℓ'
  | ping => ping
  | getServerMetadata => getServerMetadata
  | createDocument text l => createDocument text (g l)
  | createDocumentWithId id text l => createDocumentWithId id text (g l)
  | deleteDocument id b => deleteDocument id (f b)
  | multiDeleteDocuments ids b => multiDeleteDocuments ids (f b)
  | getDocumentMetadata id => getDocumentMetadata id
  | createCentroid id b => createCentroid id (f b)
  | multiCreateCentroids ids b => multiCreateCentroids ids (f b)
  | deleteCentroid id b => deleteCentroid id (f b)
  | multiDeleteCentroids ids b => multiDeleteCentroids ids (f b)
  | joinCentroid id => joinCentroid id
  | multiJoinCentroids ids => multiJoinCentroids ids
  | addDocumentsToCentroid c ds b => addDocumentsToCentroid c ds (f b)
  | removeDocumentsFromCentroid c ds b => removeDocumentsFromCentroid c ds (f b)
  | getDocumentSimilarity c d => getDocumentSimilarity c d
  | multiGetDocumentSimilarity cs d => multiGetDocumentSimilarity cs d
  | getTextSimilarity c text l => getTextSimilarity c text (g l)
  | multiGetTextSimilarity cs text l => multiGetTextSimilarity cs text (g l)
  | getCentroidSimilarity a b => getCentroidSimilarity a b
  | listAllCentroids => listAllCentroids
  | listCentroidRange offset count => listCentroidRange offset count
  | listCentroidRangeFromId id count => listCentroidRangeFromId id count
  | listAllDocuments => listAllDocuments
  | listDocumentRange offset count => listDocumentRange offset count
  | listDocumentRangeFromId id count => listDocumentRangeFromId id count
  | listUnusedDocuments limit => listUnusedDocuments limit
  | listAllDocumentsForCentroid c => listAllDocumentsForCentroid c
  | listCentroidDocumentRange c offset count => listCentroidDocumentRange c offset count
  | listCentroidDocumentRangeFromId c d count => listCentroidDocumentRangeFromId c d count

/-- Other flags and languages leave the operation as it is. -/
@[simp] theorem operation_map (f : φ → φ') (g : ℓ → ℓ') (c : Call φ ℓ) :
    (c.map f g).operation = c.operation := by
  cases c <;> rfl

/-- The centroids that a call names. The ids at which listings start are not among them. Source:
`RequestSubjects`. -/
def centroids : Call φ ℓ → List String
  | createCentroid id _ | deleteCentroid id _ | joinCentroid id => [id]
  | multiCreateCentroids ids _ | multiDeleteCentroids ids _ | multiJoinCentroids ids => ids
  | addDocumentsToCentroid c _ _ | removeDocumentsFromCentroid c _ _ => [c]
  | getDocumentSimilarity c _ | getTextSimilarity c _ _ => [c]
  | multiGetDocumentSimilarity cs _ | multiGetTextSimilarity cs _ _ => cs
  | getCentroidSimilarity a b => [a, b]
  | listAllDocumentsForCentroid c | listCentroidDocumentRange c _ _ => [c]
  | listCentroidDocumentRangeFromId c _ _ => [c]
  | _ => []

/-- The documents that a call names. Source: `RequestSubjects`. -/
def documents : Call φ ℓ → List String
  | createDocumentWithId id _ _ | deleteDocument id _ | getDocumentMetadata id => [id]
  | multiDeleteDocuments ids _ => ids
  | addDocumentsToCentroid _ ds _ | removeDocumentsFromCentroid _ ds _ => ds
  | getDocumentSimilarity _ d | multiGetDocumentSimilarity _ d => [d]
  | listCentroidDocumentRangeFromId _ d _ => [d]
  | _ => []

end Call

/-- A call as its caller writes it: flags and languages may be left out. -/
abbrev Draft := Call (Option Bool) (Option Language)

/-- Adds one document to a centroid (`SPEC_FULL.md` §6, `addDocumentToCentroid`). -/
def Draft.addDocumentToCentroid (centroid document : String) (ignoreMembers : Option Bool) :
    Draft :=
  .addDocumentsToCentroid centroid [document] ignoreMembers

/-- Removes one document from a centroid (`SPEC_FULL.md` §6, `removeDocumentFromCentroid`). -/
def Draft.removeDocumentFromCentroid (centroid document : String) (ignoreOthers : Option Bool) :
    Draft :=
  .removeDocumentsFromCentroid centroid [document] ignoreOthers

/-- A call as it is sent: a language is the number that stands for it. -/
abbrev Request := Call Bool Int32

/-- The request that a draft becomes. A flag left out is not set, and a language left out is the
standard one (`SPEC_FULL.md` §4.2, Defaulting). -/
def Draft.request (d : Draft) : Request :=
  d.map (·.getD false) fun l ↦ (l.getD .standard).number

namespace Request

/-- The record that a request is sent as. -/
def record : (r : Request) → r.operation.request.Value
  | .ping => ()
  | .getServerMetadata => ()
  | .createDocument text l => (text, l, ())
  | .createDocumentWithId id text l => (id, text, l, ())
  | .deleteDocument id b => (id, b, ())
  | .multiDeleteDocuments ids b => (ids, b, ())
  | .getDocumentMetadata id => (id, ())
  | .createCentroid id b => (id, b, ())
  | .multiCreateCentroids ids b => (ids, b, ())
  | .deleteCentroid id b => (id, b, ())
  | .multiDeleteCentroids ids b => (ids, b, ())
  | .joinCentroid id => (id, ())
  | .multiJoinCentroids ids => (ids, ())
  | .addDocumentsToCentroid c ds b => (c, ds, b, ())
  | .removeDocumentsFromCentroid c ds b => (c, ds, b, ())
  | .getDocumentSimilarity c d => (c, d, ())
  | .multiGetDocumentSimilarity cs d => (cs, d, ())
  | .getTextSimilarity c text l => (c, text, l, ())
  | .multiGetTextSimilarity cs text l => (cs, text, l, ())
  | .getCentroidSimilarity a b => (a, b, ())
  | .listAllCentroids => ()
  | .listCentroidRange offset count => (offset, count, ())
  | .listCentroidRangeFromId id count => (id, count, ())
  | .listAllDocuments => ()
  | .listDocumentRange offset count => (offset, count, ())
  | .listDocumentRangeFromId id count => (id, count, ())
  | .listUnusedDocuments limit => (limit, ())
  | .listAllDocumentsForCentroid c => (c, ())
  | .listCentroidDocumentRange c offset count => (c, offset, count, ())
  | .listCentroidDocumentRangeFromId c d count => (c, d, count, ())

/-- The request that a record of an operation's message is. -/
def ofRecord : (op : Operation) → op.request.Value → Request
  | .ping, _ => .ping
  | .getServerMetadata, _ => .getServerMetadata
  | .createDocument, (text, l, _) => .createDocument text l
  | .createDocumentWithId, (id, text, l, _) => .createDocumentWithId id text l
  | .deleteDocument, (id, b, _) => .deleteDocument id b
  | .multiDeleteDocuments, (ids, b, _) => .multiDeleteDocuments ids b
  | .getDocumentMetadata, (id, _) => .getDocumentMetadata id
  | .createCentroid, (id, b, _) => .createCentroid id b
  | .multiCreateCentroids, (ids, b, _) => .multiCreateCentroids ids b
  | .deleteCentroid, (id, b, _) => .deleteCentroid id b
  | .multiDeleteCentroids, (ids, b, _) => .multiDeleteCentroids ids b
  | .joinCentroid, (id, _) => .joinCentroid id
  | .multiJoinCentroids, (ids, _) => .multiJoinCentroids ids
  | .addDocumentsToCentroid, (c, ds, b, _) => .addDocumentsToCentroid c ds b
  | .removeDocumentsFromCentroid, (c, ds, b, _) => .removeDocumentsFromCentroid c ds b
  | .getDocumentSimilarity, (c, d, _) => .getDocumentSimilarity c d
  | .multiGetDocumentSimilarity, (cs, d, _) => .multiGetDocumentSimilarity cs d
  | .getTextSimilarity, (c, text, l, _) => .getTextSimilarity c text l
  | .multiGetTextSimilarity, (cs, text, l, _) => .multiGetTextSimilarity cs text l
  | .getCentroidSimilarity, (a, b, _) => .getCentroidSimilarity a b
  | .listAllCentroids, _ => .listAllCentroids
  | .listCentroidRange, (offset, count, _) => .listCentroidRange offset count
  | .listCentroidRangeFromId, (id, count, _) => .listCentroidRangeFromId id count
  | .listAllDocuments, _ => .listAllDocuments
  | .listDocumentRange, (offset, count, _) => .listDocumentRange offset count
  | .listDocumentRangeFromId, (id, count, _) => .listDocumentRangeFromId id count
  | .listUnusedDocuments, (limit, _) => .listUnusedDocuments limit
  | .listAllDocumentsForCentroid, (c, _) => .listAllDocumentsForCentroid c
  | .listCentroidDocumentRange, (c, offset, count, _) => .listCentroidDocumentRange c offset count
  | .listCentroidDocumentRangeFromId, (c, d, count, _) =>
    .listCentroidDocumentRangeFromId c d count

/-- A request comes back from its record. -/
theorem ofRecord_record (r : Request) : ofRecord r.operation r.record = r := by
  cases r <;> rfl

/-- The bytes that a request is sent as. -/
def encode (r : Request) : Bytes := r.operation.request.encode r.record

/-- The request for an operation that bytes stand for. -/
def decode (op : Operation) (bs : Bytes) : Except Fault Request :=
  (op.request.decode bs).map (ofRecord op)

/-- What a successful call yields, where a score is an `α`. -/
abbrev Answer (r : Request) (α : Type) : Type := r.operation.response.answerKind.Value α

end Request

end CentroidRpc
