import CentroidRpc.Message.Fields
import CentroidRpc.Operation

/-!
# Messages that ask

The description of the message that each operation is asked with. Source: `relevanced.proto`, the
message of the name that each description gives.
-/

namespace CentroidRpc

open Wire

namespace Message

/-- A message without fields. -/
abbrev empty : Schema FieldType := ⟨"Empty", []⟩

/-- A text to store. -/
abbrev createDocumentRequest : Schema FieldType :=
  ⟨"CreateDocumentRequest", [text 1 "text", language 2]⟩

/-- A text to store under an id of the caller's choice. -/
abbrev createDocumentWithIdRequest : Schema FieldType :=
  ⟨"CreateDocumentWithIdRequest", [text 1 "id", text 2 "text", language 3]⟩

/-- A document to delete. -/
abbrev deleteDocumentRequest : Schema FieldType :=
  ⟨"DeleteDocumentRequest", [text 1 "id", flag 2 "ignore_missing"]⟩

/-- A document to describe. -/
abbrev getDocumentMetadataRequest : Schema FieldType :=
  ⟨"GetDocumentMetadataRequest", [text 1 "id"]⟩

/-- Documents to delete. -/
abbrev multiDeleteDocumentsRequest : Schema FieldType :=
  ⟨"MultiDeleteDocumentsRequest", [texts 1 "ids", flag 2 "ignore_missing"]⟩

/-- A centroid to create. -/
abbrev createCentroidRequest : Schema FieldType :=
  ⟨"CreateCentroidRequest", [text 1 "id", flag 2 "ignore_existing"]⟩

/-- Centroids to create. -/
abbrev multiCreateCentroidsRequest : Schema FieldType :=
  ⟨"MultiCreateCentroidsRequest", [texts 1 "ids", flag 2 "ignore_existing"]⟩

/-- A centroid to delete. -/
abbrev deleteCentroidRequest : Schema FieldType :=
  ⟨"DeleteCentroidRequest", [text 1 "id", flag 2 "ignore_missing"]⟩

/-- Centroids to delete. -/
abbrev multiDeleteCentroidsRequest : Schema FieldType :=
  ⟨"MultiDeleteCentroidsRequest", [texts 1 "ids", flag 2 "ignore_missing"]⟩

/-- A centroid to join. -/
abbrev joinCentroidRequest : Schema FieldType := ⟨"JoinCentroidRequest", [text 1 "id"]⟩

/-- Centroids to join. -/
abbrev multiJoinCentroidsRequest : Schema FieldType :=
  ⟨"MultiJoinCentroidsRequest", [texts 1 "ids"]⟩

/-- New members of a centroid. -/
abbrev addDocumentsToCentroidRequest : Schema FieldType :=
  ⟨"AddDocumentsToCentroidRequest",
    [text 1 "centroid_id", texts 2 "document_ids", flag 3 "ignore_already_in_centroid"]⟩

/-- Members that leave a centroid. -/
abbrev removeDocumentsFromCentroidRequest : Schema FieldType :=
  ⟨"RemoveDocumentsFromCentroidRequest",
    [text 1 "centroid_id", texts 2 "document_ids", flag 3 "ignore_not_in_centroid"]⟩

/-- A centroid and a document to compare. -/
abbrev getDocumentSimilarityRequest : Schema FieldType :=
  ⟨"GetDocumentSimilarityRequest", [text 1 "centroid_id", text 2 "document_id"]⟩

/-- Centroids to compare with a document. -/
abbrev multiGetDocumentSimilarityRequest : Schema FieldType :=
  ⟨"MultiGetDocumentSimilarityRequest", [texts 1 "centroid_ids", text 2 "document_id"]⟩

/-- A centroid and a text to compare. -/
abbrev getTextSimilarityRequest : Schema FieldType :=
  ⟨"GetTextSimilarityRequest", [text 1 "centroid_id", text 2 "text", language 3]⟩

/-- Centroids to compare with a text. -/
abbrev multiGetTextSimilarityRequest : Schema FieldType :=
  ⟨"MultiGetTextSimilarityRequest", [texts 1 "centroid_ids", text 2 "text", language 3]⟩

/-- Two centroids to compare. -/
abbrev getCentroidSimilarityRequest : Schema FieldType :=
  ⟨"GetCentroidSimilarityRequest", [text 1 "centroid_1_id", text 2 "centroid_2_id"]⟩

/-- A centroid whose members are listed. -/
abbrev listCentroidDocumentsRequest : Schema FieldType :=
  ⟨"ListCentroidDocumentsRequest", [text 1 "centroid_id"]⟩

/-- A page of the members of a centroid, by position. -/
abbrev listCentroidDocumentRangeRequest : Schema FieldType :=
  ⟨"ListCentroidDocumentRangeRequest", [text 1 "centroid_id", count 2 "offset", count 3 "count"]⟩

/-- A page of the members of a centroid, by the id it starts with. -/
abbrev listCentroidDocumentRangeFromIdRequest : Schema FieldType :=
  ⟨"ListCentroidDocumentRangeFromIdRequest",
    [text 1 "centroid_id", text 2 "document_id", count 3 "count"]⟩

/-- A page of a listing, by position. -/
abbrev listRangeRequest : Schema FieldType :=
  ⟨"ListRangeRequest", [count 1 "offset", count 2 "count"]⟩

/-- A page of a listing, by the id it starts with. -/
abbrev listRangeFromIdRequest : Schema FieldType :=
  ⟨"ListRangeFromIdRequest", [text 1 "id", count 2 "count"]⟩

/-- How many unused documents are listed at most. -/
abbrev listUnusedDocumentsRequest : Schema FieldType :=
  ⟨"ListUnusedDocumentsRequest", [count 1 "limit"]⟩

end Message

open Message in
/-- The message that an operation is asked with. -/
abbrev Operation.request : Operation → Schema FieldType
  | ping => empty
  | getServerMetadata => empty
  | createDocument => createDocumentRequest
  | createDocumentWithId => createDocumentWithIdRequest
  | deleteDocument => deleteDocumentRequest
  | multiDeleteDocuments => multiDeleteDocumentsRequest
  | getDocumentMetadata => getDocumentMetadataRequest
  | createCentroid => createCentroidRequest
  | multiCreateCentroids => multiCreateCentroidsRequest
  | deleteCentroid => deleteCentroidRequest
  | multiDeleteCentroids => multiDeleteCentroidsRequest
  | joinCentroid => joinCentroidRequest
  | multiJoinCentroids => multiJoinCentroidsRequest
  | addDocumentsToCentroid => addDocumentsToCentroidRequest
  | removeDocumentsFromCentroid => removeDocumentsFromCentroidRequest
  | getDocumentSimilarity => getDocumentSimilarityRequest
  | multiGetDocumentSimilarity => multiGetDocumentSimilarityRequest
  | getTextSimilarity => getTextSimilarityRequest
  | multiGetTextSimilarity => multiGetTextSimilarityRequest
  | getCentroidSimilarity => getCentroidSimilarityRequest
  | listAllCentroids => empty
  | listCentroidRange => listRangeRequest
  | listCentroidRangeFromId => listRangeFromIdRequest
  | listAllDocuments => empty
  | listDocumentRange => listRangeRequest
  | listDocumentRangeFromId => listRangeFromIdRequest
  | listUnusedDocuments => listUnusedDocumentsRequest
  | listAllDocumentsForCentroid => listCentroidDocumentsRequest
  | listCentroidDocumentRange => listCentroidDocumentRangeRequest
  | listCentroidDocumentRangeFromId => listCentroidDocumentRangeFromIdRequest

end CentroidRpc
