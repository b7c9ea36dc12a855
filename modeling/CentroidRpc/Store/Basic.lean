import CentroidRpc.Failure
import CentroidRpc.Language
import CentroidRpc.Store.TermVector

/-!
# Documents and centroids

A store keeps documents and centroids in the order of their creation, with what belongs to each of
them beside. The vector of a centroid is made from its members only when it is joined, and a mark
says whether the members have changed since. Source: the state of the in-memory service of
`SPEC_FULL.md` §10.5; each operation names the item that it stands for.
-/

namespace CentroidRpc

/-- What is kept of a document: the number of its language, and the vector of its text. -/
structure Document (α : Type) where
  language : Int32
  vector : TermVector α
  deriving DecidableEq

/-- What is kept of a centroid: its members in the order in which they came, its vector as of the
last time it was joined, and whether the members have changed since. -/
structure Centroid (α : Type) where
  documents : List String
  vector : TermVector α
  dirty : Bool
  deriving DecidableEq

namespace Centroid

variable {α : Type}

/-- A centroid without members. -/
def empty : Centroid α := ⟨[], .empty, false⟩

/-- The centroid with one more member, unless it has it already. -/
def addMember (c : Centroid α) (document : String) : Centroid α :=
  if document ∈ c.documents then c
  else { c with documents := c.documents ++ [document], dirty := true }

/-- The centroid without some members. -/
def removeMembers (c : Centroid α) (documents : List String) : Centroid α :=
  let kept := c.documents.filter (· ∉ documents)
  { c with documents := kept, dirty := c.dirty || kept.length != c.documents.length }

end Centroid

/-- Documents and centroids, with their ids in the order of creation. -/
structure Store (α : Type) where
  generated : UInt64
  documents : List String
  contents : Dict (Document α)
  centroids : List String
  members : Dict (Centroid α)
  deriving DecidableEq

namespace Store

variable {α : Type}

/-- The store before anything has been created. -/
def empty : Store α := ⟨0, [], .empty, [], .empty⟩

/-- Whether a document exists. -/
def hasDocument (s : Store α) (id : String) : Bool := s.contents.contains id

/-- Whether a centroid exists. -/
def hasCentroid (s : Store α) (id : String) : Bool := s.members.contains id

/-- The number of the language that a document was stored with. Source: `document_language`. -/
def languageOf (s : Store α) (id : String) : Option Int32 := (s.contents.get? id).map (·.language)

/-- The id that is made up next. -/
def nextId (s : Store α) : String := "doc-" ++ toString (s.generated + 1)

/-- The store with a document, at the end of the list, in the stead of one with the same id. Source:
`insert_document`. -/
def putDocument [Weight α] (s : Store α) (id text : String) (language : Int32)
    (order : EntryOrder α := .byKey) : Store α :=
  { s with
    contents := s.contents.insert id ⟨language, .ofText text order⟩
    documents := s.documents ++ [id] }

/-- The store without a document, which leaves every centroid too. Source: `remove_document`. -/
def dropDocument (s : Store α) (id : String) : Store α :=
  if s.hasDocument id then
    { s with
      contents := s.contents.erase id
      documents := s.documents.filter (· ≠ id)
      members := s.members.map (·.removeMembers [id]) }
  else s

/-- The store with a centroid, which is without members if it is new. Source: `insert_centroid`. -/
def putCentroid (s : Store α) (id : String) : Store α :=
  if s.hasCentroid id then s
  else { s with members := s.members.insert id .empty, centroids := s.centroids ++ [id] }

/-- The store without a centroid. Source: `remove_centroid`. -/
def dropCentroid (s : Store α) (id : String) : Store α :=
  if s.hasCentroid id then
    { s with members := s.members.erase id, centroids := s.centroids.filter (· ≠ id) }
  else s

/-- The vector that the members of a centroid make up now. -/
def joinedVector [Weight α] (s : Store α) (documents : List String)
    (order : EntryOrder α := .byKey) : TermVector α :=
  (documents.foldl (fun sum id ↦
    match s.contents.get? id with
    | none => sum
    | some document => TermVector.add sum document.vector) .empty).normalized order

/-- Joins a centroid. Source: `join`. -/
def join [Weight α] (s : Store α) (id : String) (order : EntryOrder α := .byKey) : Store α :=
  { s with
    members := s.members.modify id fun c ↦
      { c with vector := s.joinedVector c.documents order, dirty := false } }

/-- Joins centroids one after the other, each with an order of its own, and says of each whether its
members had changed. -/
def joinAll [Weight α] (s : Store α) (ids : List String)
    (orders : Nat → EntryOrder α := fun _ ↦ .byKey) : List Bool × Store α :=
  match ids with
  | [] => ([], s)
  | id :: ids =>
    match s.members.get? id with
    | none => s.joinAll ids fun n ↦ orders (n + 1)
    | some c =>
      let (rest, s) := (s.join id (orders 0)).joinAll ids fun n ↦ orders (n + 1)
      (c.dirty :: rest, s)

/-- A centroid that does not exist is passed by. -/
theorem joinAll_cons_of_none [Weight α] {s : Store α} {id : String}
    (h : s.members.get? id = none) (ids : List String) (orders : Nat → EntryOrder α) :
    s.joinAll (id :: ids) orders = s.joinAll ids fun n ↦ orders (n + 1) := by
  simp only [joinAll, h]

/-- One that exists is joined, and then the others are. -/
theorem joinAll_cons_of_some [Weight α] {s : Store α} {id : String} {c : Centroid α}
    (h : s.members.get? id = some c) (ids : List String) (orders : Nat → EntryOrder α) :
    s.joinAll (id :: ids) orders =
      (c.dirty :: ((s.join id (orders 0)).joinAll ids fun n ↦ orders (n + 1)).1,
        ((s.join id (orders 0)).joinAll ids fun n ↦ orders (n + 1)).2) := by
  simp only [joinAll, h]

/-- How similar a vector is to each of some centroids. -/
def scores [Weight α] (s : Store α) (v : TermVector α) :
    List String → Dict α → Except Failure (Dict α)
  | [], found => .ok found
  | id :: ids, found =>
    match s.members.get? id with
    | none => .error .centroidDoesNotExist
    | some c => s.scores v ids (found.insert id (c.vector.dot v))

/-- The documents that are members of no centroid. Source: `list_unused_documents`. -/
def unused (s : Store α) : List String :=
  s.documents.filter fun id ↦ !s.members.values.any (·.documents.contains id)

end Store

/-- A page of a listing, by position. Source: `page`. -/
def page (offset count : UInt64) (l : List String) : List String :=
  (l.drop offset.toNat).take count.toNat

/-- A page of a listing, from the first place of an id; nothing if the id is not in it. Source:
`page_from`. -/
def pageFrom (id : String) (count : UInt64) (l : List String) : List String :=
  (l.dropWhile (· ≠ id)).take count.toNat

end CentroidRpc
