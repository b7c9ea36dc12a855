/-!
# Operations of the service

The thirty things that the service can be asked to do, each with the name and the path under which
a request for it is sent. They are the operations of `SPEC_FULL.md` §6, in the order of
`relevanced.proto`, `Relevanced`.
-/

namespace CentroidRpc

/-- What the service can be asked to do. -/
inductive Operation where
  | ping
  | getServerMetadata
  | createDocument
  | createDocumentWithId
  | deleteDocument
  | multiDeleteDocuments
  | getDocumentMetadata
  | createCentroid
  | multiCreateCentroids
  | deleteCentroid
  | multiDeleteCentroids
  | joinCentroid
  | multiJoinCentroids
  | addDocumentsToCentroid
  | removeDocumentsFromCentroid
  | getDocumentSimilarity
  | multiGetDocumentSimilarity
  | getTextSimilarity
  | multiGetTextSimilarity
  | getCentroidSimilarity
  | listAllCentroids
  | listCentroidRange
  | listCentroidRangeFromId
  | listAllDocuments
  | listDocumentRange
  | listDocumentRangeFromId
  | listUnusedDocuments
  | listAllDocumentsForCentroid
  | listCentroidDocumentRange
  | listCentroidDocumentRangeFromId
  deriving DecidableEq, Repr

/-- The name under which the service is reached. -/
def serviceName : String := "relevanced.Relevanced"

namespace Operation

/-- Every operation, in the order of the service's own list. -/
def all : List Operation :=
  [ping, getServerMetadata, createDocument, createDocumentWithId, deleteDocument,
    multiDeleteDocuments, getDocumentMetadata, createCentroid, multiCreateCentroids, deleteCentroid,
    multiDeleteCentroids, joinCentroid, multiJoinCentroids, addDocumentsToCentroid,
    removeDocumentsFromCentroid, getDocumentSimilarity, multiGetDocumentSimilarity,
    getTextSimilarity, multiGetTextSimilarity, getCentroidSimilarity, listAllCentroids,
    listCentroidRange, listCentroidRangeFromId, listAllDocuments, listDocumentRange,
    listDocumentRangeFromId, listUnusedDocuments, listAllDocumentsForCentroid,
    listCentroidDocumentRange, listCentroidDocumentRangeFromId]

/-- The name of an operation. -/
def method : Operation → String
  | ping => "Ping"
  | getServerMetadata => "GetServerMetadata"
  | createDocument => "CreateDocument"
  | createDocumentWithId => "CreateDocumentWithId"
  | deleteDocument => "DeleteDocument"
  | multiDeleteDocuments => "MultiDeleteDocuments"
  | getDocumentMetadata => "GetDocumentMetadata"
  | createCentroid => "CreateCentroid"
  | multiCreateCentroids => "MultiCreateCentroids"
  | deleteCentroid => "DeleteCentroid"
  | multiDeleteCentroids => "MultiDeleteCentroids"
  | joinCentroid => "JoinCentroid"
  | multiJoinCentroids => "MultiJoinCentroids"
  | addDocumentsToCentroid => "AddDocumentsToCentroid"
  | removeDocumentsFromCentroid => "RemoveDocumentsFromCentroid"
  | getDocumentSimilarity => "GetDocumentSimilarity"
  | multiGetDocumentSimilarity => "MultiGetDocumentSimilarity"
  | getTextSimilarity => "GetTextSimilarity"
  | multiGetTextSimilarity => "MultiGetTextSimilarity"
  | getCentroidSimilarity => "GetCentroidSimilarity"
  | listAllCentroids => "ListAllCentroids"
  | listCentroidRange => "ListCentroidRange"
  | listCentroidRangeFromId => "ListCentroidRangeFromId"
  | listAllDocuments => "ListAllDocuments"
  | listDocumentRange => "ListDocumentRange"
  | listDocumentRangeFromId => "ListDocumentRangeFromId"
  | listUnusedDocuments => "ListUnusedDocuments"
  | listAllDocumentsForCentroid => "ListAllDocumentsForCentroid"
  | listCentroidDocumentRange => "ListCentroidDocumentRange"
  | listCentroidDocumentRangeFromId => "ListCentroidDocumentRangeFromId"

/-- The path to which a request is sent. -/
def path (op : Operation) : String := "/" ++ serviceName ++ "/" ++ op.method

/-- The operation with a name. -/
def ofMethod? (s : String) : Option Operation := all.find? (·.method == s)

/-- Every operation is in the list. -/
theorem mem_all (op : Operation) : op ∈ all := by
  cases op <;> decide

/-- Every operation is found by its name. -/
theorem ofMethod?_method (op : Operation) : ofMethod? op.method = some op := by
  cases op <;> decide

end Operation

end CentroidRpc
