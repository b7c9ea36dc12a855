import CentroidRpc.Service.Basic
import CentroidRpc.Store.Answer

/-!
# The service over a store

Requests are read, answered from a store, and the answers written as responses. A failure is the
code of a status without words. Source: the in-memory service of `SPEC_FULL.md` §10.5
(`InMemoryRelevanced`), whose handlers are `Request.respond` after `Store.answer`.
-/

namespace CentroidRpc

open Wire

/-- Applies a function to the scores in an answer. -/
def AnswerKind.map {α β : Type} (f : α → β) : (k : AnswerKind) → k.Value α → k.Value β
  | done, v => v
  | facts, v => v
  | text, v => v
  | texts, v => v
  | flag, v => v
  | flags, v => v
  | score, v => f v
  | scores, v => Dict.map f v

/-- The status that tells of an outcome. -/
def Status.ofOutcome {α : Type} : Except Failure α → Status
  | .ok _ => .ok
  | .error f => ⟨f.number, none⟩

/-- The list in an outcome; a failed call has none. -/
def listIn {α : Type} : Except Failure (List α) → List α
  | .ok l => l
  | .error _ => []

namespace Request

/-- The response that tells of an outcome. It names what was asked for, also after a failure. -/
def respond : (r : Request) → Except Failure (r.Answer Double) → Response r.operation.response
  | .ping, _ => ⟨none, ()⟩
  | .getServerMetadata, o => ⟨none, (o.toOption.getD .empty, ())⟩
  | .createDocument .., o => ⟨some (.ofOutcome o), (o.toOption.getD "", ())⟩
  | .createDocumentWithId id .., o => ⟨some (.ofOutcome o), (id, ())⟩
  | .deleteDocument id _, o => ⟨some (.ofOutcome o), (id, ())⟩
  | .multiDeleteDocuments ids _, o => ⟨some (.ofOutcome o), (ids, ())⟩
  | .getDocumentMetadata _, o => ⟨some (.ofOutcome o), (o.toOption.getD "", ())⟩
  | .createCentroid id _, o => ⟨some (.ofOutcome o), (id, ())⟩
  | .multiCreateCentroids ids _, o => ⟨some (.ofOutcome o), (ids, ())⟩
  | .deleteCentroid id _, o => ⟨some (.ofOutcome o), (id, ())⟩
  | .multiDeleteCentroids ids _, o => ⟨some (.ofOutcome o), (ids, ())⟩
  | .joinCentroid id, o => ⟨some (.ofOutcome o), (id, o.toOption.getD false, ())⟩
  | .multiJoinCentroids ids, o => ⟨some (.ofOutcome o), (ids, listIn o, ())⟩
  | .addDocumentsToCentroid c ds _, o => ⟨some (.ofOutcome o), (c, ds, ())⟩
  | .removeDocumentsFromCentroid c ds _, o => ⟨some (.ofOutcome o), (c, ds, ())⟩
  | .getDocumentSimilarity .., o => ⟨some (.ofOutcome o), (o.toOption.getD .zero, ())⟩
  | .multiGetDocumentSimilarity .., o => ⟨some (.ofOutcome o), (o.toOption.getD .empty, ())⟩
  | .getTextSimilarity .., o => ⟨some (.ofOutcome o), (o.toOption.getD .zero, ())⟩
  | .multiGetTextSimilarity .., o => ⟨some (.ofOutcome o), (o.toOption.getD .empty, ())⟩
  | .getCentroidSimilarity .., o => ⟨some (.ofOutcome o), (o.toOption.getD .zero, ())⟩
  | .listAllCentroids, o => ⟨none, (listIn o, ())⟩
  | .listCentroidRange .., o => ⟨none, (listIn o, ())⟩
  | .listCentroidRangeFromId .., o => ⟨none, (listIn o, ())⟩
  | .listAllDocuments, o => ⟨none, (listIn o, ())⟩
  | .listDocumentRange .., o => ⟨none, (listIn o, ())⟩
  | .listDocumentRangeFromId .., o => ⟨none, (listIn o, ())⟩
  | .listUnusedDocuments _, o => ⟨none, (listIn o, ())⟩
  | .listAllDocumentsForCentroid _, o => ⟨some (.ofOutcome o), (listIn o, ())⟩
  | .listCentroidDocumentRange .., o => ⟨some (.ofOutcome o), (listIn o, ())⟩
  | .listCentroidDocumentRangeFromId .., o => ⟨some (.ofOutcome o), (listIn o, ())⟩

end Request

namespace Service

/-- What a store answers, with its scores as doubles. -/
def inDoubles {α : Type} (f : α → Double) {r : Request} (o : Except Failure (r.Answer α)) :
    Except Failure (r.Answer Double) :=
  o.map (AnswerKind.map f r.operation.response.answerKind)

/-- The service over a store of machine numbers. -/
def inMemory : Service (Store Float) := fun op bs store ↦
  match Request.decode op bs with
  | .error fault => (.error (.plain .internal fault.text), store)
  | .ok r =>
    let (outcome, store) := store.answer r
    let response := r.respond (inDoubles .ofFloat outcome)
    (.ok (r.operation.response.schema.encode response.record), store)

end Service

end CentroidRpc
