import CentroidRpc.Service.InMemory

/-!
# A refused request changes nothing

A request that changes a store is checked as a whole before any of it is carried out, so a failure
leaves the store as it was (`Store.Atomic`), whichever of the ids is the bad one. A query leaves it
as it was in any case.
-/

namespace CentroidRpc

/-- Whether an operation asks for something and is not to change anything. -/
def Operation.isQuery : Operation → Bool
  | ping | getServerMetadata | getDocumentMetadata => true
  | getDocumentSimilarity | multiGetDocumentSimilarity => true
  | getTextSimilarity | multiGetTextSimilarity | getCentroidSimilarity => true
  | listAllCentroids | listCentroidRange | listCentroidRangeFromId => true
  | listAllDocuments | listDocumentRange | listDocumentRangeFromId | listUnusedDocuments => true
  | listAllDocumentsForCentroid | listCentroidDocumentRange => true
  | listCentroidDocumentRangeFromId => true
  | createDocument | createDocumentWithId | deleteDocument | multiDeleteDocuments => false
  | createCentroid | multiCreateCentroids | deleteCentroid | multiDeleteCentroids => false
  | joinCentroid | multiJoinCentroids => false
  | addDocumentsToCentroid | removeDocumentsFromCentroid => false

private theorem eq_error_of_map {α β : Type} {o : Except Failure α} {g : α → β} {f : Failure}
    (h : o.map g = .error f) : o = .error f := by
  cases o with
  | ok a => cases h
  | error e =>
    cases h
    rfl

private theorem Status.eq_error_of_code_ne_zero {α : Type} {o : Except Failure α}
    (h : (Status.ofOutcome o).code ≠ 0) : ∃ f, o = .error f := by
  cases o with
  | ok a => exact absurd rfl h
  | error f => exact ⟨f, rfl⟩

/-- A response in an envelope carries the status of the outcome that it tells of. -/
theorem Request.envelope_respond (r : Request) (o : Except Failure (r.Answer Double)) :
    (r.respond o).envelope =
      if r.operation.response.bare then none else some (.ofOutcome o) := by
  cases r <;> rfl

namespace Store

variable {α β γ : Type}

/-- A request is carried out as a whole or not at all: a failure leaves the store as it was. -/
def Atomic (s : Store α) (result : Except Failure β × Store α) : Prop :=
  ∀ f, result.1 = .error f → result.2 = s

variable {s : Store α}

private theorem atomic_ok (a : β) (s' : Store α) : s.Atomic (.ok a, s') := nofun

private theorem atomic_refused (o : Except Failure β) : s.Atomic (o, s) := fun _ _ ↦ rfl

/-- What a success is told as does not matter to failures. -/
theorem Atomic.map {result : Except Failure β × Store α} (h : s.Atomic result) (g : β → γ) :
    s.Atomic (result.1.map g, result.2) :=
  fun f hf ↦ h f (eq_error_of_map hf)

private theorem atomic_deleteDocuments (s : Store α) (ids : List String) (ignoreMissing : Bool) :
    s.Atomic (s.deleteDocuments ids ignoreMissing) := by
  unfold deleteDocuments
  split
  · exact atomic_refused _
  · exact atomic_ok _ _

private theorem atomic_createCentroids (s : Store α) (ids : List String) (ignoreExisting : Bool) :
    s.Atomic (s.createCentroids ids ignoreExisting) := by
  unfold createCentroids
  split
  · exact atomic_refused _
  · exact atomic_ok _ _

private theorem atomic_deleteCentroids (s : Store α) (ids : List String) (ignoreMissing : Bool) :
    s.Atomic (s.deleteCentroids ids ignoreMissing) := by
  unfold deleteCentroids
  split
  · exact atomic_refused _
  · exact atomic_ok _ _

private theorem atomic_addDocuments (s : Store α) (centroid : String) (ids : List String)
    (ignoreMembers : Bool) : s.Atomic (s.addDocuments centroid ids ignoreMembers) := by
  unfold addDocuments
  split
  · exact atomic_refused _
  · split
    · exact atomic_refused _
    · split
      · exact atomic_refused _
      · exact atomic_ok _ _

private theorem atomic_removeDocuments (s : Store α) (centroid : String) (ids : List String)
    (ignoreOthers : Bool) : s.Atomic (s.removeDocuments centroid ids ignoreOthers) := by
  unfold removeDocuments
  split
  · exact atomic_refused _
  · split
    · exact atomic_refused _
    · exact atomic_ok _ _

variable [Weight α]

private theorem atomic_createDocumentWithId (s : Store α) (id text : String) (language : Int32) :
    s.Atomic (s.createDocumentWithId id text language) := by
  unfold createDocumentWithId
  split
  · exact atomic_refused _
  · exact atomic_ok _ _

private theorem atomic_joinCentroids (s : Store α) (ids : List String) :
    s.Atomic (s.joinCentroids ids) := by
  unfold joinCentroids
  split
  · exact atomic_refused _
  · show s.Atomic (.ok (s.joinAll ids).1, (s.joinAll ids).2)
    exact atomic_ok _ _

/-- Whatever is asked, a failure leaves the store as it was. -/
theorem atomic_answer (s : Store α) (r : Request) : s.Atomic (s.answer r) := by
  cases r with
  | createDocument text l => exact atomic_ok s.nextId _
  | createDocumentWithId id text l => exact atomic_createDocumentWithId s id text l
  | deleteDocument id b => exact (atomic_deleteDocuments s [id] b).map _
  | multiDeleteDocuments ids b => exact (atomic_deleteDocuments s ids b).map _
  | createCentroid id b => exact (atomic_createCentroids s [id] b).map _
  | multiCreateCentroids ids b => exact (atomic_createCentroids s ids b).map _
  | deleteCentroid id b => exact (atomic_deleteCentroids s [id] b).map _
  | multiDeleteCentroids ids b => exact (atomic_deleteCentroids s ids b).map _
  | joinCentroid id => exact (atomic_joinCentroids s [id]).map _
  | multiJoinCentroids ids => exact atomic_joinCentroids s ids
  | addDocumentsToCentroid c ds b => exact atomic_addDocuments s c ds b
  | removeDocumentsFromCentroid c ds b => exact atomic_removeDocuments s c ds b
  | _ => exact atomic_refused _

/-- A query leaves the store as it was, whatever it is answered. -/
theorem answer_of_isQuery (s : Store α) {r : Request} (h : r.operation.isQuery = true) :
    (s.answer r).2 = s := by
  cases r
  all_goals first | rfl | cases h

/-- A request whose response has another status code than the one of success leaves the store as it
was, ids that were made up and marks of centroids included; and a query does so whatever the
response is. -/
theorem answer_unchanged (s : Store α) (toDouble : α → Double) (r : Request) :
    (∀ status, (r.respond (Service.inDoubles toDouble (s.answer r).1)).envelope = some status →
      status.code ≠ 0 → (s.answer r).2 = s) ∧
    (r.operation.isQuery = true → (s.answer r).2 = s) := by
  refine ⟨fun status hstatus hcode ↦ ?_, answer_of_isQuery s⟩
  rw [Request.envelope_respond] at hstatus
  split at hstatus
  · cases hstatus
  · cases hstatus
    obtain ⟨f, hf⟩ := Status.eq_error_of_code_ne_zero hcode
    exact atomic_answer s r f (eq_error_of_map hf)

/-- A store with one document. -/
def oneDocument : Store Float := empty.putDocument "a" "red" 0

/-- Of two documents to be deleted the second one does not exist, and so the first one stays. -/
theorem answer_unchanged_missing :
    (Request.respond (.multiDeleteDocuments ["a", "b"] false) (Service.inDoubles .ofFloat
        (oneDocument.answer (.multiDeleteDocuments ["a", "b"] false)).1)).envelope =
      some ⟨3, none⟩ ∧
    (oneDocument.answer (.multiDeleteDocuments ["a", "b"] false)).2 = oneDocument ∧
    (oneDocument.answer .listAllDocuments).1 = .ok ["a"] ∧
    (oneDocument.answer .listAllDocuments).2 = oneDocument := by
  obtain ⟨hfailed, -⟩ :=
    answer_unchanged oneDocument .ofFloat (.multiDeleteDocuments ["a", "b"] false)
  obtain ⟨-, hquery⟩ := answer_unchanged oneDocument .ofFloat .listAllDocuments
  exact ⟨rfl, hfailed ⟨3, none⟩ rfl (by decide), rfl, hquery rfl⟩

end Store

end CentroidRpc
