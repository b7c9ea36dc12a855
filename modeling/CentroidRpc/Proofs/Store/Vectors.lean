import CentroidRpc.Proofs.Store.Centroids

/-!
# Centroids pick up changes only when they are joined

Members come and go, and the vector of a centroid stays as it is until the centroid is joined. So no
request but a join moves the scores of a centroid that is still there
(`Store.Reachable.scores_kept`), and one that is deleted and created again begins from nothing.
-/

namespace CentroidRpc

private theorem Call.not_mem_centroidsCreated {φ ℓ : Type} {call : Call φ ℓ} {id : String}
    (h : id ∈ call.centroidsDeleted) : id ∉ call.centroidsCreated := by
  cases call with
  | deleteCentroid k b => exact List.not_mem_nil
  | multiDeleteCentroids ids b => exact List.not_mem_nil
  | _ => exact absurd h List.not_mem_nil

namespace Store

variable {α : Type} [Weight α] {s s' : Store α}

/-- Whether a request may give a centroid another vector: it is carried out, and it joins the
centroid or deletes it. -/
def Revises (s : Store α) (r : Request) (id : String) : Prop :=
  s.Succeeds r ∧ (id ∈ r.centroidsJoined ∨ id ∈ r.centroidsDeleted)

/-- A centroid that a request neither joins nor deletes is still there, with the same vector. -/
theorem Intact.vector_kept (h : s.Intact) {r : Request} {id : String} {c : Centroid α}
    (hc : s.members.get? id = some c) (hr : ¬ s.Revises r id) :
    ∃ c', (s.answer r).2.members.get? id = some c' ∧ c'.vector = c.vector := by
  by_cases hok : s.Succeeds r
  · have hjoined : id ∉ r.centroidsJoined := fun hid ↦ hr ⟨hok, .inl hid⟩
    have hdeleted : id ∉ r.centroidsDeleted := fun hid ↦ hr ⟨hok, .inr hid⟩
    rw [h.get?_answer hok, hc, turned, if_neg hdeleted, if_neg hjoined]
    exact ⟨_, rfl, Centroid.vector_foldl_addMember c (r.addedTo id)⟩
  · rw [answer_of_not_succeeds hok]
    exact ⟨c, hc, rfl⟩

private theorem answer_getTextSimilarity {id : String} {c : Centroid α}
    (hc : s.members.get? id = some c) (text : String) (language : Int32) :
    (s.answer (.getTextSimilarity id text language)).1 = .ok (c.vector.dot (.ofText text)) := by
  have hscores : s.textScores [id] text =
      .ok (Dict.empty.insert id (c.vector.dot (.ofText text))) := by
    simp only [textScores, scores, hc]
  show (s.textScores [id] text).map (scoreOf id) = _
  rw [hscores, Except.map, scoreOf, Dict.get?_insert, if_pos rfl]
  rfl

/-- Two centroids are scored by their vectors. -/
theorem answer_getCentroidSimilarity {first second : String} {a b : Centroid α}
    (ha : s.members.get? first = some a) (hb : s.members.get? second = some b) :
    (s.answer (.getCentroidSimilarity first second)).1 = .ok (a.vector.dot b.vector) := by
  show s.centroidScore first second = _
  rw [centroidScore, ha, hb]

/-- A centroid that a request neither joins nor deletes is still there with its vector, and so
texts, and other such centroids, score the same against it before and after. A deleted centroid is
gone, and one that is created where there is none has no members and an empty vector. -/
theorem Reachable.scores_kept (h : s.Reachable) (r : Request) :
    (∀ id c, s.members.get? id = some c → ¬ s.Revises r id →
      (∃ c', (s.answer r).2.members.get? id = some c' ∧ c'.vector = c.vector) ∧
      ∀ text language, ((s.answer r).2.answer (.getTextSimilarity id text language)).1 =
        (s.answer (.getTextSimilarity id text language)).1) ∧
    (∀ a b, s.hasCentroid a = true → ¬ s.Revises r a → s.hasCentroid b = true →
      ¬ s.Revises r b → ((s.answer r).2.answer (.getCentroidSimilarity a b)).1 =
        (s.answer (.getCentroidSimilarity a b)).1) ∧
    (s.Succeeds r →
      (∀ id ∈ r.centroidsDeleted, (s.answer r).2.hasCentroid id = false) ∧
      ∀ id ∈ r.centroidsCreated, s.hasCentroid id = false →
        ∃ c, (s.answer r).2.members.get? id = some c ∧ c.documents = [] ∧ c.vector = .empty) := by
  have hs := h.intact
  refine ⟨fun id c hc hr ↦ ?_, fun a b ha hra hb hrb ↦ ?_, fun hok ↦ ⟨fun id hid ↦ ?_,
    fun id hid hnew ↦ ?_⟩⟩
  · obtain ⟨c', hc', hvector⟩ := hs.vector_kept hc hr
    refine ⟨⟨c', hc', hvector⟩, fun text language ↦ ?_⟩
    rw [answer_getTextSimilarity hc, answer_getTextSimilarity hc', hvector]
  · obtain ⟨ca, hca⟩ := exists_of_hasCentroid ha
    obtain ⟨cb, hcb⟩ := exists_of_hasCentroid hb
    obtain ⟨ca', hca', hveca⟩ := hs.vector_kept hca hra
    obtain ⟨cb', hcb', hvecb⟩ := hs.vector_kept hcb hrb
    rw [answer_getCentroidSimilarity hca hcb, answer_getCentroidSimilarity hca' hcb', hveca, hvecb]
  · apply hasCentroid_of_get?_none
    rw [hs.get?_answer hok]
    cases hc : s.members.get? id with
    | none => exact if_neg (Call.not_mem_centroidsCreated hid)
    | some c => exact if_pos hid
  · have hnone : s.members.get? id = none :=
      Option.isNone_iff_eq_none.1 (Option.isSome_eq_false_iff.1 hnew)
    rw [hs.get?_answer hok, hnone]
    exact ⟨.empty, if_pos hid, rfl, rfl⟩

/-- A centroid with two members is joined, and one of them leaves it. -/
def leftSinceJoin : List Request :=
  [.createDocumentWithId "a" "red" 0, .createDocumentWithId "b" "blue" 0,
    .createCentroid "c" false, .addDocumentsToCentroid "c" ["a", "b"] false, .joinCentroid "c"]

/-- One of the members is deleted, and every text scores as before. -/
theorem scores_kept_leftSinceJoin :
    let s : Store Float := empty.run leftSinceJoin
    let s' := (s.answer (.deleteDocument "a" false)).2
    s.Reachable ∧ ¬ s.Revises (.deleteDocument "a" false) "c" ∧
    (s.answer (.listAllDocumentsForCentroid "c")).1 = .ok ["a", "b"] ∧
    (s'.answer (.listAllDocumentsForCentroid "c")).1 = .ok ["b"] ∧
    ∀ text language, (s'.answer (.getTextSimilarity "c" text language)).1 =
      (s.answer (.getTextSimilarity "c" text language)).1 := by
  intro s s'
  have hs : s.Reachable := ⟨leftSinceJoin, rfl⟩
  have hr : ¬ s.Revises (.deleteDocument "a" false) "c" := by
    rintro ⟨-, h | h⟩ <;> exact absurd h List.not_mem_nil
  have hexists : s.hasCentroid "c" = true := rfl
  obtain ⟨c, hc⟩ := exists_of_hasCentroid hexists
  obtain ⟨hkept, -, -⟩ := hs.scores_kept (.deleteDocument "a" false)
  exact ⟨hs, hr, rfl, rfl, (hkept "c" c hc hr).2⟩

end Store

end CentroidRpc
