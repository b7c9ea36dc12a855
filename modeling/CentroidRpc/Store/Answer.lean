import CentroidRpc.Request
import CentroidRpc.Store.Basic

/-!
# What a store answers

Each request is checked against the store as it is before anything is changed: it is refused with
one failure and leaves the store as it was, or it is carried out as a whole. Source: the handlers
of the in-memory service of `SPEC_FULL.md` §10.5.
-/

namespace CentroidRpc

/-- The text that describes a document. The id stands in it as it is. Source:
`get_document_metadata`. -/
def describe (id : String) (language : Language) (terms : Nat) : String :=
  "\x7b\"id\":\"" ++ id ++ "\",\"language\":\"" ++ language.name ++ "\",\"terms\":" ++
    toString terms ++ "\x7d"

namespace Store

variable {α : Type}

/-- Deletes documents, all of which have to exist unless missing ones are ignored. Source:
`delete_documents`. -/
def deleteDocuments (s : Store α) (ids : List String) (ignoreMissing : Bool) :
    Except Failure Unit × Store α :=
  if !ignoreMissing && ids.any (!s.hasDocument ·) then (.error .documentDoesNotExist, s)
  else (.ok (), ids.foldl dropDocument s)

/-- Creates centroids, none of which may exist unless existing ones are ignored. Source:
`create_centroids`. -/
def createCentroids (s : Store α) (ids : List String) (ignoreExisting : Bool) :
    Except Failure Unit × Store α :=
  if !ignoreExisting && ids.any s.hasCentroid then (.error .centroidAlreadyExists, s)
  else (.ok (), ids.foldl putCentroid s)

/-- Deletes centroids, all of which have to exist unless missing ones are ignored. Source:
`delete_centroids`. -/
def deleteCentroids (s : Store α) (ids : List String) (ignoreMissing : Bool) :
    Except Failure Unit × Store α :=
  if !ignoreMissing && ids.any (!s.hasCentroid ·) then (.error .centroidDoesNotExist, s)
  else (.ok (), ids.foldl dropCentroid s)

/-- Adds members to a centroid. The centroid and all documents have to exist, and none of them may
be a member unless members are ignored. Source: `add_documents_to_centroid`. -/
def addDocuments (s : Store α) (centroid : String) (ids : List String) (ignoreMembers : Bool) :
    Except Failure Unit × Store α :=
  match s.members.get? centroid with
  | none => (.error .centroidDoesNotExist, s)
  | some c =>
    if ids.any (!s.hasDocument ·) then (.error .documentDoesNotExist, s)
    else if !ignoreMembers && ids.any c.documents.contains then
      (.error .documentAlreadyInCentroid, s)
    else (.ok (), { s with members := s.members.insert centroid (ids.foldl Centroid.addMember c) })

/-- Removes members from a centroid. The centroid has to exist, and all documents have to be
members unless others are ignored. Source: `remove_documents_from_centroid`. -/
def removeDocuments (s : Store α) (centroid : String) (ids : List String) (ignoreOthers : Bool) :
    Except Failure Unit × Store α :=
  match s.members.get? centroid with
  | none => (.error .centroidDoesNotExist, s)
  | some c =>
    if !ignoreOthers && ids.any (!c.documents.contains ·) then (.error .documentNotInCentroid, s)
    else (.ok (), { s with members := s.members.insert centroid (c.removeMembers ids) })

/-- Some of the members of a centroid. Source: `centroid_documents`. -/
def membersOf (s : Store α) (centroid : String) (select : List String → List String) :
    Except Failure (List String) :=
  match s.members.get? centroid with
  | none => .error .centroidDoesNotExist
  | some c => .ok (select c.documents)

/-- The description of a document. A language without a name cannot be told. Source:
`get_document_metadata`. -/
def metadataOf (s : Store α) (id : String) : Except Failure String :=
  match s.contents.get? id with
  | none => .error .documentDoesNotExist
  | some document =>
    match Language.ofNumber? document.language with
    | none => .error .unknownException
    | some language => .ok (describe id language document.vector.size)

variable [Weight α]

/-- Creates a document under an id that is made up. Source: `create_documents`, without an id. -/
def createDocument (s : Store α) (text : String) (language : Int32)
    (order : EntryOrder α := .byKey) : String × Store α :=
  (s.nextId, { s with generated := s.generated + 1 }.putDocument s.nextId text language order)

/-- Creates a document under an id that has to be new. Source: `create_documents`, with an id. -/
def createDocumentWithId (s : Store α) (id text : String) (language : Int32)
    (order : EntryOrder α := .byKey) : Except Failure String × Store α :=
  if s.hasDocument id then (.error .documentAlreadyExists, s)
  else (.ok id, s.putDocument id text language order)

/-- Joins centroids, all of which have to exist. Source: `join_centroids`. -/
def joinCentroids (s : Store α) (ids : List String)
    (orders : Nat → EntryOrder α := fun _ ↦ .byKey) : Except Failure (List Bool) × Store α :=
  if ids.any (!s.hasCentroid ·) then (.error .centroidDoesNotExist, s)
  else
    let (flags, s) := s.joinAll ids orders
    (.ok flags, s)

/-- How similar a text is to each of some centroids. Source: `similarity_to_text`. -/
def textScores (s : Store α) (centroids : List String) (text : String)
    (order : EntryOrder α := .byKey) : Except Failure (Dict α) :=
  s.scores (.ofText text order) centroids .empty

/-- How similar a document is to each of some centroids. Source: `similarity_to_document`. -/
def documentScores (s : Store α) (centroids : List String) (document : String) :
    Except Failure (Dict α) :=
  match s.contents.get? document with
  | none => .error .documentDoesNotExist
  | some d => s.scores d.vector centroids .empty

/-- How similar two centroids are. Source: `get_centroid_similarity`. -/
def centroidScore (s : Store α) (first second : String) : Except Failure α :=
  match s.members.get? first, s.members.get? second with
  | some a, some b => .ok (a.vector.dot b.vector)
  | _, _ => .error .centroidDoesNotExist

/-- The score of one centroid among scores. -/
def scoreOf (centroid : String) (scores : Dict α) : α := (scores.get? centroid).getD Weight.zero

/-- Facts about the server. Source: `get_server_metadata`. -/
def facts : Dict String :=
  .ofList [("relevanced_version", "0.9.8"), ("backend", "in-memory")]

/-- What is answered to a request, and the store afterwards. Each vector that is made for it is
scaled in an order of its own. -/
def answer (s : Store α) (r : Request) (orders : Nat → EntryOrder α := fun _ ↦ .byKey) :
    Except Failure (r.Answer α) × Store α :=
  match r with
  | .ping => (.ok (), s)
  | .getServerMetadata => (.ok facts, s)
  | .createDocument text l =>
    let (id, s) := s.createDocument text l (orders 0)
    (.ok id, s)
  | .createDocumentWithId id text l => s.createDocumentWithId id text l (orders 0)
  | .deleteDocument id b =>
    let (result, s) := s.deleteDocuments [id] b
    (result.map fun _ ↦ id, s)
  | .multiDeleteDocuments ids b =>
    let (result, s) := s.deleteDocuments ids b
    (result.map fun _ ↦ ids, s)
  | .getDocumentMetadata id => (s.metadataOf id, s)
  | .createCentroid id b =>
    let (result, s) := s.createCentroids [id] b
    (result.map fun _ ↦ id, s)
  | .multiCreateCentroids ids b =>
    let (result, s) := s.createCentroids ids b
    (result.map fun _ ↦ ids, s)
  | .deleteCentroid id b =>
    let (result, s) := s.deleteCentroids [id] b
    (result.map fun _ ↦ id, s)
  | .multiDeleteCentroids ids b =>
    let (result, s) := s.deleteCentroids ids b
    (result.map fun _ ↦ ids, s)
  | .joinCentroid id =>
    let (result, s) := s.joinCentroids [id] orders
    (result.map (·.headD false), s)
  | .multiJoinCentroids ids => s.joinCentroids ids orders
  | .addDocumentsToCentroid c ds b => s.addDocuments c ds b
  | .removeDocumentsFromCentroid c ds b => s.removeDocuments c ds b
  | .getDocumentSimilarity c d => ((s.documentScores [c] d).map (scoreOf c), s)
  | .multiGetDocumentSimilarity cs d => (s.documentScores cs d, s)
  | .getTextSimilarity c text _ => ((s.textScores [c] text (orders 0)).map (scoreOf c), s)
  | .multiGetTextSimilarity cs text _ => (s.textScores cs text (orders 0), s)
  | .getCentroidSimilarity a b => (s.centroidScore a b, s)
  | .listAllCentroids => (.ok s.centroids, s)
  | .listCentroidRange offset count => (.ok (page offset count s.centroids), s)
  | .listCentroidRangeFromId id count => (.ok (pageFrom id count s.centroids), s)
  | .listAllDocuments => (.ok s.documents, s)
  | .listDocumentRange offset count => (.ok (page offset count s.documents), s)
  | .listDocumentRangeFromId id count => (.ok (pageFrom id count s.documents), s)
  | .listUnusedDocuments limit => (.ok (s.unused.take limit.toNat), s)
  | .listAllDocumentsForCentroid c => (s.membersOf c id, s)
  | .listCentroidDocumentRange c offset count => (s.membersOf c (page offset count), s)
  | .listCentroidDocumentRangeFromId c d count => (s.membersOf c (pageFrom d count), s)

end Store

end CentroidRpc
