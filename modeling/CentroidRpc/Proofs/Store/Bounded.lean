import CentroidRpc.Proofs.RealVectors
import CentroidRpc.Proofs.Store.Scores
import CentroidRpc.Proofs.Store.Stored

/-!
# Scores lie between zero and one

In a store of real numbers all vectors are scaled to length one, or empty (`Store.Scaled`), and so
every score is the cosine of an angle between two of them (`Store.scores_bounded`). A centroid that
was joined when it had one member has the vector of that member.
-/

namespace CentroidRpc

/-- The scores in an answer. -/
def AnswerKind.scoresIn {α : Type} : (k : AnswerKind) → k.Value α → List α
  | score, x => [x]
  | scores, d => d.values
  | _, _ => []

namespace Store

section Joining

variable {α : Type} [Weight α]

/-- Whether a request joins a centroid that has one member. -/
def JoinsAlone (s : Store α) (centroid document : String) (r : Request) : Prop :=
  s.Succeeds r ∧ centroid ∈ r.centroidsJoined ∧ s.listedMembers centroid = [document]

variable (α) in
/-- A centroid was joined when it had one member; since then it has not been given another vector,
and the member is the document that it was. -/
def JoinedAlone (rs : List Request) (centroid document : String) : Prop :=
  Since (fun (s : Store α) r ↦ s.JoinsAlone centroid document r)
    (fun s r ↦ s.Revises r centroid ∨ s.Replaces document r) rs

variable {s : Store α} {r : Request} {id d : String}

private theorem not_replaces_of_joined (s : Store α) (h : id ∈ r.centroidsJoined) (d : String) :
    ¬ s.Replaces d r := by
  cases r with
  | joinCentroid | multiJoinCentroids => exact s.not_replaces nofun nofun List.not_mem_nil
  | _ => exact absurd h List.not_mem_nil

/-- A request that joins centroids deletes none. -/
theorem not_mem_centroidsDeleted_of_joined (h : id ∈ r.centroidsJoined) :
    id ∉ r.centroidsDeleted := by
  cases r with
  | joinCentroid | multiJoinCentroids => exact List.not_mem_nil
  | _ => exact absurd h List.not_mem_nil

private theorem exists_of_mem_listedMembers (h : d ∈ s.listedMembers id) :
    ∃ c, s.members.get? id = some c := by
  rw [listedMembers, answer_listAllDocumentsForCentroid] at h
  cases hc : s.members.get? id with
  | some c => exact ⟨c, rfl⟩
  | none =>
    rw [hc] at h
    exact absurd h List.not_mem_nil

end Joining

/-- All vectors of a store of real numbers are scaled. -/
structure Scaled (s : Store ℝ) : Prop where
  documents : ∀ {d document}, s.contents.get? d = some document → document.vector.Normal
  centroids : ∀ {id c}, s.members.get? id = some c → c.vector.Normal

namespace Scaled

variable {s s' : Store ℝ}

/-- What the members of a centroid make up is scaled. -/
theorem joinedVector (h : s.Scaled) (ds : List String) (order : EntryOrder ℝ) :
    (s.joinedVector ds order).Normal := by
  rw [joinedVector_eq s ds order, TermVector.normalized_order]
  apply TermVector.Positive.normal_normalized
  apply TermVector.positive_sum
  intro v hv
  obtain ⟨document, hdocument, rfl⟩ := List.mem_map.1 hv
  obtain ⟨d, -, hd⟩ := List.mem_filterMap.1 hdocument
  exact (h.documents hd).positive

private theorem modifyCentroid (h : s.Scaled) (id : String) {f : Centroid ℝ → Centroid ℝ}
    (hf : ∀ c, c.vector.Normal → (f c).vector.Normal) : (s.modifyCentroid id f).Scaled := by
  refine ⟨h.documents, fun {k c} hc ↦ ?_⟩
  have hget : (s.members.modify id f).get? k = some c := hc
  rw [Dict.get?_modify] at hget
  split at hget
  · obtain ⟨c', hc', rfl⟩ := Option.map_eq_some_iff.1 hget
    exact hf c' (h.centroids hc')
  · exact h.centroids hget

private theorem putDocument (h : s.Scaled) (id text : String) (language : Int32)
    (order : EntryOrder ℝ) :
    (s.putDocument id text language order).Scaled := by
  refine ⟨fun {d document} hd ↦ ?_, h.centroids⟩
  have hget : (s.contents.insert id ⟨language, .ofText text order⟩).get? d = some document := hd
  rw [Dict.get?_insert, TermVector.ofText, TermVector.normalized_order] at hget
  split at hget
  · cases hget
    exact TermVector.normal_ofText text
  · exact h.documents hget

private theorem dropDocument (h : s.Scaled) (id : String) : (s.dropDocument id).Scaled := by
  refine ⟨fun hd ↦ h.documents ((retains_dropDocument s id).contents hd), fun {k c} hc ↦ ?_⟩
  unfold Store.dropDocument at hc
  split at hc
  · have hget : (s.members.map (·.removeMembers [id])).get? k = some c := hc
    rw [Dict.get?_map] at hget
    obtain ⟨c', hc', rfl⟩ := Option.map_eq_some_iff.1 hget
    have hvector : c'.vector.Normal := h.centroids hc'
    exact hvector
  · exact h.centroids hc

private theorem putCentroid (h : s.Scaled) (id : String) : (s.putCentroid id).Scaled := by
  unfold Store.putCentroid
  split
  · exact h
  · refine ⟨h.documents, fun {k c} hc ↦ ?_⟩
    have hget : (s.members.insert id .empty).get? k = some c := hc
    rw [Dict.get?_insert] at hget
    split at hget
    · cases hget
      exact TermVector.normal_empty
    · exact h.centroids hget

private theorem dropCentroid (h : s.Scaled) (id : String) : (s.dropCentroid id).Scaled := by
  unfold Store.dropCentroid
  split
  · refine ⟨h.documents, fun {k c} hc ↦ ?_⟩
    have hget : (s.members.erase id).get? k = some c := hc
    rw [Dict.get?_erase] at hget
    split at hget
    · cases hget
    · exact h.centroids hget
  · exact h

/-- Every small change keeps all vectors scaled. -/
theorem change (h : s.Scaled) (hchange : Change s s') : s'.Scaled := by
  cases hchange with
  | generate => exact ⟨h.documents, h.centroids⟩
  | putDocument id text l order => exact h.putDocument id text l order
  | dropDocument id => exact h.dropDocument id
  | putCentroid id => exact h.putCentroid id
  | dropCentroid id => exact h.dropCentroid id
  | join id order => exact h.modifyCentroid id fun c _ ↦ h.joinedVector c.documents order
  | addMember centroid d _ =>
    exact h.modifyCentroid centroid fun c hc ↦ (c.vector_foldl_addMember [d]).symm ▸ hc
  | removeMembers centroid ds => exact h.modifyCentroid centroid fun c hc ↦ hc

end Scaled

/-- Requests lead to stores with scaled vectors only. -/
theorem Reachable.scaled {s : Store ℝ} (h : s.Reachable) : s.Scaled :=
  h.attainable.induction ⟨nofun, nofun⟩ fun _ _ hs hchange ↦ hs.change hchange

private theorem Scaled.joinedVector_singleton {s : Store ℝ} (h : s.Scaled) {d : String}
    {document : Document ℝ} (hd : s.contents.get? d = some document) :
    s.joinedVector [d] = document.vector := by
  rw [joinedVector_eq, List.filterMap_cons_some hd]
  show (TermVector.add .empty document.vector).normalized = _
  rw [TermVector.empty_add, (h.documents hd).normalized_eq_self]

/-- A centroid that was joined when it had one member has the vector of that member. -/
theorem vector_of_joinedAlone {rs : List Request} {id d : String} (h : JoinedAlone ℝ rs id d) :
    ∃ c document, (empty.run rs : Store ℝ).members.get? id = some c ∧
      (empty.run rs : Store ℝ).contents.get? d = some document ∧ c.vector = document.vector := by
  induction rs using List.reverseRecOn with
  | nil => exact absurd h not_since_nil
  | append_singleton rs r ih =>
    have hreachable : (empty.run rs : Store ℝ).Reachable := ⟨rs, rfl⟩
    have hs := hreachable.intact
    have hs' : (empty.run (rs ++ [r]) : Store ℝ).Intact := Reachable.intact ⟨rs ++ [r], rfl⟩
    rw [run_concat] at hs' ⊢
    -- The last request is the join, or it leaves both vectors as they were.
    rcases since_concat.1 h with ⟨hok, hjoined, hlisted⟩ | ⟨hbefore, hkept⟩
    · obtain ⟨c, hc⟩ := exists_of_mem_listedMembers (hlisted ▸ List.mem_singleton_self d)
      rw [listedMembers_of_get? hc] at hlisted
      have hstored := (hs.members id c hc).stored d (hlisted ▸ List.mem_singleton_self d)
      obtain ⟨document, hd⟩ := Option.isSome_iff_exists.1 hstored
      have hreplaces := not_replaces_of_joined (empty.run rs : Store ℝ) hjoined d
      have hvector : ((empty.run rs : Store ℝ).joined c).vector = document.vector := by
        show (empty.run rs : Store ℝ).joinedVector c.documents = _
        rw [hlisted, hreachable.scaled.joinedVector_singleton hd]
      rw [hs.get?_answer hok, hc, turned,
        if_neg (not_mem_centroidsDeleted_of_joined hjoined), if_pos hjoined,
        hs.get?_answer_of_not_replaces hs' hreplaces]
      exact ⟨_, document, rfl, hd, hvector⟩
    · obtain ⟨hvector, hdocument⟩ := not_or.1 hkept
      obtain ⟨c, document, hc, hd, hsame⟩ := ih hbefore
      obtain ⟨c', hc', hsame'⟩ := hs.vector_kept hc hvector
      rw [hs.get?_answer_of_not_replaces hs' hdocument]
      exact ⟨c', document, hc', hd, hsame'.trans hsame⟩

/-- A scaled vector has a score between zero and one against each centroid. -/
theorem Scaled.scoreAgainst_bounded {s : Store ℝ} (h : s.Scaled) {v : TermVector ℝ}
    (hv : v.Normal) {id : String} {x : ℝ} (hx : s.scoreAgainst v id = .ok x) : 0 ≤ x ∧ x ≤ 1 := by
  unfold scoreAgainst at hx
  split at hx
  · cases hx
  · next c hc =>
    cases hx
    exact ⟨(h.centroids hc).dot_nonneg hv, (h.centroids hc).dot_le_one hv⟩

private theorem Scaled.forall_scores {s : Store ℝ} (h : s.Scaled) {v : TermVector ℝ} (hv : v.Normal)
    {ids : List String} {scores : Dict ℝ} (hscores : s.scores v ids .empty = .ok scores) :
    ∀ x ∈ scores.values, 0 ≤ x ∧ x ≤ 1 := by
  intro x hx
  have hgathers := s.gathers_scores v ids
  rw [hscores] at hgathers
  obtain ⟨id, hid⟩ := hgathers.exists_of_mem_values hx
  exact h.scoreAgainst_bounded hv hid

/-- The vector of a document that exists is scaled. -/
theorem Scaled.vectorOf {s : Store ℝ} (h : s.Scaled) {d : String} {v : TermVector ℝ}
    (hv : s.vectorOf d = .ok v) : v.Normal := by
  unfold Store.vectorOf at hv
  split at hv
  · cases hv
  · next document hd =>
    cases hv
    exact h.documents hd

/-- Every score in an answer lies between zero and one. -/
theorem Scaled.answer_bounded {s : Store ℝ} (h : s.Scaled) {r : Request} {v : r.Answer ℝ}
    (hv : (s.answer r).1 = .ok v) :
    ∀ x ∈ r.operation.response.answerKind.scoresIn v, 0 ≤ x ∧ x ≤ 1 := by
  intro x hx
  cases r with
  | getDocumentSimilarity c d =>
    cases List.mem_singleton.1 hx
    rw [answer_getDocumentSimilarity_eq] at hv
    obtain ⟨w, hw, hscore⟩ := exists_of_bind_ok hv
    exact h.scoreAgainst_bounded (h.vectorOf hw) hscore
  | multiGetDocumentSimilarity cs d =>
    have hscores : s.documentScores cs d = .ok v := hv
    rw [documentScores_eq_bind] at hscores
    obtain ⟨w, hw, hscores⟩ := exists_of_bind_ok hscores
    exact h.forall_scores (h.vectorOf hw) hscores x hx
  | getTextSimilarity c text l =>
    cases List.mem_singleton.1 hx
    rw [answer_getTextSimilarity_eq] at hv
    exact h.scoreAgainst_bounded (TermVector.normal_ofText text) hv
  | multiGetTextSimilarity cs text l =>
    exact h.forall_scores (TermVector.normal_ofText text) hv x hx
  | getCentroidSimilarity a b =>
    cases List.mem_singleton.1 hx
    have hscore : s.centroidScore a b = .ok x := hv
    unfold centroidScore at hscore
    split at hscore
    · next ca cb ha hb =>
      cases hscore
      exact ⟨(h.centroids ha).dot_nonneg (h.centroids hb),
        (h.centroids ha).dot_le_one (h.centroids hb)⟩
    · cases hscore
  | _ => exact absurd hx List.not_mem_nil

/-- Two centroids are as similar as they are the other way round. -/
theorem centroidScore_comm (s : Store ℝ) (a b : String) :
    s.centroidScore a b = s.centroidScore b a := by
  unfold centroidScore
  cases s.members.get? a with
  | none => cases s.members.get? b <;> rfl
  | some ca =>
    cases s.members.get? b with
    | none => rfl
    | some cb => exact congrArg Except.ok (TermVector.dot_comm ca.vector cb.vector)

/-- In a store of real numbers every vector of a document or of a centroid has positive weights
only, and is empty or of length one. So every score in an answer lies between zero and one, that of
two centroids does not depend on their order, and that of a centroid with itself is one if its
vector is not empty. A centroid that was joined when it had one member, whose text has words, has
the score one against that member, until one of the two changes. -/
theorem scores_bounded (rs : List Request) :
    let s : Store ℝ := empty.run rs
    (∀ d document, s.contents.get? d = some document → document.vector.Normal) ∧
    (∀ id c, s.members.get? id = some c → c.vector.Normal) ∧
    (∀ r v, (s.answer r).1 = .ok v →
      ∀ x ∈ r.operation.response.answerKind.scoresIn v, 0 ≤ x ∧ x ≤ 1) ∧
    (∀ a b, (s.answer (.getCentroidSimilarity a b)).1 =
      (s.answer (.getCentroidSimilarity b a)).1) ∧
    (∀ a c, s.members.get? a = some c → c.vector ≠ .empty →
      (s.answer (.getCentroidSimilarity a a)).1 = .ok (1 : ℝ)) ∧
    ∀ id d text language, JoinedAlone ℝ rs id d → StoredSince ℝ rs d text language →
      wordsOf text ≠ [] → (s.answer (.getDocumentSimilarity id d)).1 = .ok (1 : ℝ) := by
  intro s
  have hs : s.Scaled := Reachable.scaled ⟨rs, rfl⟩
  refine ⟨fun d document hd ↦ hs.documents hd, fun id c hc ↦ hs.centroids hc,
    fun r v hv ↦ hs.answer_bounded hv, s.centroidScore_comm, fun a c hc hne ↦ ?_,
    fun id d text l hjoined hstored hwords ↦ ?_⟩
  · rw [answer_getCentroidSimilarity hc hc, (hs.centroids hc).dot_self hne]
  · obtain ⟨c, document, hc, hd, hvector⟩ := vector_of_joinedAlone hjoined
    have hdocument := get?_run_iff.2 ⟨text, l, hstored, rfl⟩
    cases Option.some.inj (hd.symm.trans hdocument)
    have hne := TermVector.ofText_ne_empty hwords
    rw [answer_getDocumentSimilarity_eq, documentScore_eq_textScore hd, textScore,
      scoreAgainst_of_get? hc, hvector, (TermVector.normal_ofText text).dot_self hne]

/-- A centroid is joined when it has one of two documents, and then it gets the other one. -/
def joinedWithOne : List Request :=
  [.createDocumentWithId "b" "blue" 0, .createDocumentWithId "a" "Red, red sky" 0,
    .createCentroid "c" false, .addDocumentsToCentroid "c" ["a"] false, .joinCentroid "c",
    .addDocumentsToCentroid "c" ["b"] false]

/-- As long as it is not joined again it has the score one against the first document. -/
theorem scores_bounded_joinedWithOne :
    let s : Store ℝ := empty.run joinedWithOne
    s.listedMembers "c" = ["a", "b"] ∧ JoinedAlone ℝ joinedWithOne "c" "a" ∧
    StoredSince ℝ joinedWithOne "a" "Red, red sky" 0 ∧ wordsOf "Red, red sky" ≠ [] ∧
    (s.answer (.getDocumentSimilarity "c" "a")).1 = .ok (1 : ℝ) := by
  intro s
  have hwords : wordsOf "Red, red sky" ≠ [] := by decide +kernel
  have hjoined : JoinedAlone ℝ joinedWithOne "c" "a" := by
    have hevent : (empty.run (joinedWithOne.take 4) : Store ℝ).JoinsAlone "c" "a"
        (.joinCentroid "c") := ⟨⟨true, rfl⟩, List.mem_singleton_self "c", rfl⟩
    have hafter : ∀ r ∈ joinedWithOne.drop 5, ∀ s : Store ℝ,
        ¬ (s.Revises r "c" ∨ s.Replaces "a" r) := by
      intro r hr s
      cases List.mem_singleton.1 hr
      rw [not_or]
      refine ⟨?_, s.not_replaces nofun nofun List.not_mem_nil⟩
      rintro ⟨-, hmem | hmem⟩ <;> exact absurd hmem List.not_mem_nil
    show Since _ _ (joinedWithOne.take 4 ++ .joinCentroid "c" :: joinedWithOne.drop 5)
    exact since_of_forall hevent hafter
  have hstored : StoredSince ℝ joinedWithOne "a" "Red, red sky" 0 := by
    have hevent : (empty.run (joinedWithOne.take 1) : Store ℝ).Stores "a" "Red, red sky" 0
        (.createDocumentWithId "a" "Red, red sky" 0) := .chosen rfl
    have hafter : ∀ r ∈ joinedWithOne.drop 2, r.operation ≠ .createDocument ∧
        r.operation ≠ .createDocumentWithId ∧ "a" ∉ r.documentsDeleted := by
      decide
    exact storedSince_of_forall hevent hafter
  obtain ⟨-, -, -, -, -, hone⟩ := scores_bounded joinedWithOne
  exact ⟨rfl, hjoined, hstored, hwords, hone "c" "a" _ 0 hjoined hstored hwords⟩

end Store

end CentroidRpc
