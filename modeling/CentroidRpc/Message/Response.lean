import CentroidRpc.Message.Fields
import CentroidRpc.Operation

/-!
# Messages that answer

The description of the message that each operation answers with. A response is bare, and then a
success, or it comes in an envelope with a status. What a successful call yields to its caller is
one field of the payload, or nothing (`ResponseType.project`). Source: `relevanced.proto`, and
`SPEC_FULL.md` §6 for what is yielded.
-/

namespace CentroidRpc

open Wire

/-- Messages that the service answers with. -/
inductive ResponseType where
  | empty
  | serverMetadata
  | createDocument
  | deleteDocument
  | multiDeleteDocuments
  | getDocumentMetadata
  | createCentroid
  | multiCreateCentroids
  | deleteCentroid
  | multiDeleteCentroids
  | joinCentroid
  | multiJoinCentroids
  | addDocumentsToCentroid
  | removeDocumentsFromCentroid
  | similarity
  | multiSimilarity
  | listCentroidDocuments
  | listCentroids
  | listDocuments
  deriving DecidableEq, Repr

/-- What a call can yield. -/
inductive AnswerKind where
  /-- Nothing but that the call succeeded. -/
  | done
  /-- Facts about the server by name. -/
  | facts
  /-- An id, or another text. -/
  | text
  /-- A list of ids. -/
  | texts
  /-- Whether there was something to do. -/
  | flag
  /-- For each id, whether there was something to do. -/
  | flags
  /-- How similar two things are. -/
  | score
  /-- How similar each of some centroids is, by id. -/
  | scores
  deriving DecidableEq, Repr

/-- The values of a kind of answer, where a score is an `α`. -/
abbrev AnswerKind.Value (α : Type) : AnswerKind → Type
  | done => Unit
  | facts => Dict String
  | text => String
  | texts => List String
  | flag => Bool
  | flags => List Bool
  | score => α
  | scores => Dict α

namespace ResponseType

/-- Every response. -/
def all : List ResponseType :=
  [empty, serverMetadata, createDocument, deleteDocument, multiDeleteDocuments,
    getDocumentMetadata, createCentroid, multiCreateCentroids, deleteCentroid, multiDeleteCentroids,
    joinCentroid, multiJoinCentroids, addDocumentsToCentroid, removeDocumentsFromCentroid,
    similarity, multiSimilarity, listCentroidDocuments, listCentroids, listDocuments]

/-- The name of a response as a message. -/
abbrev name : ResponseType → String
  | empty => "Empty"
  | serverMetadata => "ServerMetadata"
  | createDocument => "CreateDocumentResponse"
  | deleteDocument => "DeleteDocumentResponse"
  | multiDeleteDocuments => "MultiDeleteDocumentsResponse"
  | getDocumentMetadata => "GetDocumentMetadataResponse"
  | createCentroid => "CreateCentroidResponse"
  | multiCreateCentroids => "MultiCreateCentroidsResponse"
  | deleteCentroid => "DeleteCentroidResponse"
  | multiDeleteCentroids => "MultiDeleteCentroidsResponse"
  | joinCentroid => "JoinCentroidResponse"
  | multiJoinCentroids => "MultiJoinCentroidsResponse"
  | addDocumentsToCentroid => "AddDocumentsToCentroidResponse"
  | removeDocumentsFromCentroid => "RemoveDocumentsFromCentroidResponse"
  | similarity => "SimilarityResponse"
  | multiSimilarity => "MultiSimilarityResponse"
  | listCentroidDocuments => "ListCentroidDocumentsResponse"
  | listCentroids => "ListCentroidsResponse"
  | listDocuments => "ListDocumentsResponse"

/-- Whether a response comes without a status. -/
abbrev bare : ResponseType → Bool
  | empty | serverMetadata | listCentroids | listDocuments => true
  | _ => false

/-- The fields of a response beside its status. -/
abbrev payload : ResponseType → List (FieldDecl FieldType)
  | empty => []
  | serverMetadata => [⟨1, "metadata", .dict .text⟩]
  | createDocument => [Message.text 2 "id"]
  | deleteDocument => [Message.text 2 "id"]
  | multiDeleteDocuments => [Message.texts 2 "ids"]
  | getDocumentMetadata => [Message.text 2 "document"]
  | createCentroid => [Message.text 2 "id"]
  | multiCreateCentroids => [Message.texts 2 "ids"]
  | deleteCentroid => [Message.text 2 "id"]
  | multiDeleteCentroids => [Message.texts 2 "ids"]
  | joinCentroid => [Message.text 2 "id", Message.flag 3 "recalculated"]
  | multiJoinCentroids => [Message.texts 2 "ids", ⟨3, "recalculated", .repeated .bool⟩]
  | addDocumentsToCentroid => [Message.text 2 "centroid_id", Message.texts 3 "document_ids"]
  | removeDocumentsFromCentroid => [Message.text 2 "centroid_id", Message.texts 3 "document_ids"]
  | similarity => [⟨2, "similarity", .leaf (.plain .double)⟩]
  | multiSimilarity => [⟨2, "scores", .dict .double⟩]
  | listCentroidDocuments => [Message.texts 2 "documents"]
  | listCentroids => [Message.texts 1 "centroids"]
  | listDocuments => [Message.texts 1 "documents"]

/-- All fields of a response. -/
abbrev fields (t : ResponseType) : List (FieldDecl FieldType) :=
  match t.bare with
  | true => t.payload
  | false => Message.status :: t.payload

/-- The description of a response. -/
abbrev schema (t : ResponseType) : Schema FieldType := ⟨t.name, t.fields⟩

/-- What a call with a response of this type yields. -/
abbrev answerKind : ResponseType → AnswerKind
  | empty | addDocumentsToCentroid | removeDocumentsFromCentroid => .done
  | serverMetadata => .facts
  | createDocument | deleteDocument | getDocumentMetadata | createCentroid | deleteCentroid => .text
  | multiDeleteDocuments | multiCreateCentroids | multiDeleteCentroids => .texts
  | listCentroidDocuments | listCentroids | listDocuments => .texts
  | joinCentroid => .flag
  | multiJoinCentroids => .flags
  | similarity => .score
  | multiSimilarity => .scores

/-- What a payload yields to the caller. -/
def project : (t : ResponseType) → Record t.payload → t.answerKind.Value Double
  | empty, _ => ()
  | serverMetadata, (metadata, _) => metadata
  | createDocument, (id, _) => id
  | deleteDocument, (id, _) => id
  | multiDeleteDocuments, (ids, _) => ids
  | getDocumentMetadata, (document, _) => document
  | createCentroid, (id, _) => id
  | multiCreateCentroids, (ids, _) => ids
  | deleteCentroid, (id, _) => id
  | multiDeleteCentroids, (ids, _) => ids
  | joinCentroid, (_, recalculated, _) => recalculated
  | multiJoinCentroids, (_, recalculated, _) => recalculated
  | addDocumentsToCentroid, _ => ()
  | removeDocumentsFromCentroid, _ => ()
  | similarity, (score, _) => score
  | multiSimilarity, (scores, _) => scores
  | listCentroidDocuments, (documents, _) => documents
  | listCentroids, (centroids, _) => centroids
  | listDocuments, (documents, _) => documents

/-- Every response is in the list. -/
theorem mem_all (t : ResponseType) : t ∈ all := by
  cases t <;> decide

end ResponseType

/-- A response: the fields beside the status, and the status if it is of a type that comes with one,
where it may still be absent. -/
structure Response (t : ResponseType) where
  status : Option Status
  payload : Record t.payload

namespace Response

/-- Splits a record into status and payload. -/
def ofFields : (bare : Bool) → (fs : List (FieldDecl FieldType)) →
    Record (match bare with | true => fs | false => Message.status :: fs) →
    Option Status × Record fs
  | true, _, r => (none, r)
  | false, _, r => (r.1.map Status.ofRecord, r.2)

/-- Puts status and payload into a record; a bare response has no place for a status. -/
def toFields : (bare : Bool) → (fs : List (FieldDecl FieldType)) → Option Status → Record fs →
    Record (match bare with | true => fs | false => Message.status :: fs)
  | true, _, _, r => r
  | false, _, s, r => (s.map Status.record, r)

variable {t : ResponseType}

/-- The response that a record is. -/
def ofRecord (r : t.schema.Value) : Response t :=
  let p := ofFields t.bare t.payload r
  ⟨p.1, p.2⟩

/-- The record of a response. -/
def record (r : Response t) : t.schema.Value := toFields t.bare t.payload r.status r.payload

end Response

/-- The message that an operation answers with. -/
abbrev Operation.response : Operation → ResponseType
  | ping => .empty
  | getServerMetadata => .serverMetadata
  | createDocument | createDocumentWithId => .createDocument
  | deleteDocument => .deleteDocument
  | multiDeleteDocuments => .multiDeleteDocuments
  | getDocumentMetadata => .getDocumentMetadata
  | createCentroid => .createCentroid
  | multiCreateCentroids => .multiCreateCentroids
  | deleteCentroid => .deleteCentroid
  | multiDeleteCentroids => .multiDeleteCentroids
  | joinCentroid => .joinCentroid
  | multiJoinCentroids => .multiJoinCentroids
  | addDocumentsToCentroid => .addDocumentsToCentroid
  | removeDocumentsFromCentroid => .removeDocumentsFromCentroid
  | getDocumentSimilarity | getTextSimilarity | getCentroidSimilarity => .similarity
  | multiGetDocumentSimilarity | multiGetTextSimilarity => .multiSimilarity
  | listAllCentroids | listCentroidRange | listCentroidRangeFromId => .listCentroids
  | listAllDocuments | listDocumentRange | listDocumentRangeFromId => .listDocuments
  | listUnusedDocuments => .listDocuments
  | listAllDocumentsForCentroid | listCentroidDocumentRange => .listCentroidDocuments
  | listCentroidDocumentRangeFromId => .listCentroidDocuments

end CentroidRpc
