import CentroidRpc.Proofs.Store.Bounded

/-!
# A joined centroid is made of the set of its members

Over the real numbers vectors may be added in any order, so what a centroid is when it is joined
depends on which documents its members are, and neither on their order nor on how they came in
(`Store.Reachable.joined_alike`). That no member is counted twice is the integrity of the store.
-/

namespace CentroidRpc

namespace TermVector

private theorem add_add_comm (u v w : TermVector ℝ) : (u.add v).add w = (u.add w).add v := by
  apply Dict.ext_get?
  intro k
  simp only [get?_add, weight]
  -- Only a word of both vectors that are added is added to twice.
  cases v.get? k with
  | none => cases w.get? k <;> simp
  | some y =>
    cases w.get? k with
    | none => simp
    | some z =>
      simp only [Option.map_some, Option.some_or, Option.getD_some, Option.some.injEq]
      exact add_right_comm _ y z

/-- The order of vectors does not matter to their sum. -/
theorem sum_of_perm {vs ws : List (TermVector ℝ)} (h : vs.Perm ws) : sum vs = sum ws :=
  h.foldl_eq' (fun v _ w _ u ↦ add_add_comm u v w) .empty

end TermVector

namespace Store

section Lookup

variable {α : Type} {s t : Store α} {r : Request} {id : String} {c : Centroid α}

private theorem map_vector_of_vectorOf {d : String} (h : s.vectorOf d = t.vectorOf d) :
    (s.contents.get? d).map (·.vector) = (t.contents.get? d).map (·.vector) := by
  unfold vectorOf at h
  cases hs : s.contents.get? d <;> cases ht : t.contents.get? d <;> simp_all

variable [Weight α]

/-- The vector of a centroid. -/
def centroidVector (s : Store α) (id : String) : Except Failure (TermVector α) :=
  match s.members.get? id with
  | none => .error .centroidDoesNotExist
  | some c => .ok c.vector

/-- A vector is scored against that of the centroid. -/
theorem scoreAgainst_eq_map (s : Store α) (v : TermVector α) (id : String) :
    s.scoreAgainst v id = (s.centroidVector id).map (·.dot v) := by
  unfold scoreAgainst centroidVector
  cases s.members.get? id <;> rfl

/-- Two centroids are scored by their vectors, if both exist. -/
theorem centroidScore_eq_bind (s : Store α) (first second : String) :
    s.centroidScore first second =
      (s.centroidVector first).bind fun v ↦ (s.centroidVector second).map v.dot := by
  unfold centroidScore centroidVector
  cases s.members.get? first <;> cases s.members.get? second <;> rfl

private theorem contents_answer_of_joined (s : Store α) (h : id ∈ r.centroidsJoined) :
    (s.answer r).2.contents = s.contents := by
  have hkept (ids : List String) : (s.joinCentroids ids).2.contents = s.contents :=
    (documents_of_withoutCentroids
      (withoutCentroids_of_withoutMembers (s.withoutMembers_joinCentroids ids))).2
  cases r with
  | joinCentroid k => exact hkept [k]
  | multiJoinCentroids ids => exact hkept ids
  | _ => exact absurd h List.not_mem_nil

/-- A centroid that is joined has the vector that its members make up. -/
theorem Intact.centroidVector_answer (h : s.Intact) (hok : s.Succeeds r)
    (hjoined : id ∈ r.centroidsJoined) (hc : s.members.get? id = some c) :
    (s.answer r).2.centroidVector id = .ok (s.joinedVector c.documents) := by
  rw [centroidVector, h.get?_answer hok, hc, turned,
    if_neg (not_mem_centroidsDeleted_of_joined hjoined), if_pos hjoined]
  rfl

private theorem succeeds_joinCentroid (h : s.hasCentroid id = true) :
    s.Succeeds (.joinCentroid id) := by
  refine ⟨((s.joinAll [id]).1).headD false, ?_⟩
  show (s.joinCentroids [id]).1.map (·.headD false) = _
  simp [joinCentroids, h, Except.map]

/-- Whether a store comes from another one by a request that joins a centroid, alone or together
with others. -/
def JoinedInto (s : Store α) (id : String) (s' : Store α) : Prop :=
  ∃ r : Request, id ∈ r.centroidsJoined ∧ s.Succeeds r ∧ s' = (s.answer r).2

/-- Whether two stores keep a centroid each under two ids, with the same members in whatever order,
and the same vector of each member. -/
structure SameMembers (s t : Store α) (c k : String) : Prop where
  exist : s.hasCentroid c = true ∧ t.hasCentroid k = true
  members : ∀ d, d ∈ s.listedMembers c ↔ d ∈ t.listedMembers k
  vectors : ∀ d ∈ s.listedMembers c, s.vectorOf d = t.vectorOf d

/-- Whether two stores score whatever they keep the same vectors of alike against a centroid of
each: texts, documents and other centroids, alone or together with more. -/
structure ScoresAlike (s t : Store α) (c k : String) : Prop where
  text : ∀ text l l', (s.answer (.getTextSimilarity c text l)).1 =
    (t.answer (.getTextSimilarity k text l')).1
  texts : ∀ text l l' ids ids' scores scores',
    (s.answer (.multiGetTextSimilarity ids text l)).1 = .ok scores →
    (t.answer (.multiGetTextSimilarity ids' text l')).1 = .ok scores' →
    c ∈ ids → k ∈ ids' → scores.get? c = scores'.get? k
  document : ∀ d e, s.vectorOf d = t.vectorOf e →
    (s.answer (.getDocumentSimilarity c d)).1 = (t.answer (.getDocumentSimilarity k e)).1
  documents : ∀ d e, s.vectorOf d = t.vectorOf e → ∀ ids ids' scores scores',
    (s.answer (.multiGetDocumentSimilarity ids d)).1 = .ok scores →
    (t.answer (.multiGetDocumentSimilarity ids' e)).1 = .ok scores' →
    c ∈ ids → k ∈ ids' → scores.get? c = scores'.get? k
  centroid : ∀ a b, s.centroidVector a = t.centroidVector b →
    (s.answer (.getCentroidSimilarity c a)).1 = (t.answer (.getCentroidSimilarity k b)).1 ∧
    (s.answer (.getCentroidSimilarity a c)).1 = (t.answer (.getCentroidSimilarity b k)).1

variable {k : String}

private theorem scoreAgainst_of_centroidVector (h : s.centroidVector id = t.centroidVector k)
    (v : TermVector α) : s.scoreAgainst v id = t.scoreAgainst v k := by
  rw [scoreAgainst_eq_map, scoreAgainst_eq_map, h]

private theorem documentScore_of_centroidVector (h : s.centroidVector id = t.centroidVector k)
    {d e : String}
    (hde : s.vectorOf d = t.vectorOf e) : s.documentScore id d = t.documentScore k e := by
  simp only [documentScore, hde, scoreAgainst_of_centroidVector h]

/-- Centroids with the same vector are scored alike. -/
theorem scoresAlike_of_centroidVector (h : s.centroidVector id = t.centroidVector k) :
    s.ScoresAlike t id k where
  text text l l' := by
    rw [answer_getTextSimilarity_eq, answer_getTextSimilarity_eq]
    exact scoreAgainst_of_centroidVector h (.ofText text)
  texts text l l' ids ids' scores scores' hscores hscores' hid hk := by
    apply (s.gathers_textScores ids text).get?_eq (t.gathers_textScores ids' text) hscores hscores'
      hid hk
    exact scoreAgainst_of_centroidVector h (.ofText text)
  document d e hde := by
    rw [answer_getDocumentSimilarity_eq, answer_getDocumentSimilarity_eq]
    exact documentScore_of_centroidVector h hde
  documents d e hde ids ids' scores scores' hscores hscores' hid hk := by
    apply (s.gathers_documentScores (List.ne_nil_of_mem hid) d).get?_eq
      (t.gathers_documentScores (List.ne_nil_of_mem hk) e) hscores hscores' hid hk
    exact documentScore_of_centroidVector h hde
  centroid a b hab := by
    show s.centroidScore id a = t.centroidScore k b ∧ s.centroidScore a id = t.centroidScore b k
    simp only [centroidScore_eq_bind, h, hab, and_self]

end Lookup

variable {s t : Store ℝ} {c k : String}

/-- The order of the members does not matter to what they make up. -/
theorem joinedVector_of_perm (s : Store ℝ) {ds es : List String} (h : ds.Perm es) :
    s.joinedVector ds = s.joinedVector es := by
  rw [joinedVector_eq, joinedVector_eq,
    TermVector.sum_of_perm ((h.filterMap s.contents.get?).map (·.vector))]

/-- When centroids with the same members are joined, they get the same vector: the one that the
members make up. -/
theorem SameMembers.centroidVector_eq (h : s.SameMembers t c k) (hs : s.Intact) (ht : t.Intact)
    {s' t' : Store ℝ} (hs' : s.JoinedInto c s') (ht' : t.JoinedInto k t') :
    s'.centroidVector c = .ok (s.joinedVector (s.listedMembers c)) ∧
      t'.centroidVector k = s'.centroidVector c := by
  obtain ⟨cs, hcs⟩ := exists_of_hasCentroid h.exist.1
  obtain ⟨ct, hct⟩ := exists_of_hasCentroid h.exist.2
  have hmembers := h.members
  have hvectors := h.vectors
  rw [listedMembers_of_get? hcs] at hmembers hvectors
  rw [listedMembers_of_get? hct] at hmembers
  -- Neither list names a document twice, so that they differ in their order only.
  have hperm : cs.documents.Perm ct.documents :=
    (List.perm_ext_iff_of_nodup (hs.members c cs hcs).nodup (ht.members k ct hct).nodup).2 hmembers
  obtain ⟨r, hr, hok, rfl⟩ := hs'
  obtain ⟨r', hr', hok', rfl⟩ := ht'
  have hsame : s.joinedVector cs.documents = t.joinedVector cs.documents :=
    joinedVector_congr fun d hd ↦ map_vector_of_vectorOf (hvectors d hd)
  rw [hs.centroidVector_answer hok hr hcs, ht.centroidVector_answer hok' hr' hct,
    listedMembers_of_get? hcs, hsame, t.joinedVector_of_perm hperm]
  exact ⟨rfl, rfl⟩

/-- A store keeps the vectors of documents when centroids are joined. -/
theorem JoinedInto.vectorOf {s' : Store ℝ} (h : s.JoinedInto c s') (d : String) :
    s'.vectorOf d = s.vectorOf d := by
  obtain ⟨r, hr, -, rfl⟩ := h
  rw [Store.vectorOf, s.contents_answer_of_joined hr, ← Store.vectorOf]

/-- When centroids with the same members are joined, in whatever order the members came and whatever
else happened to the two centroids, they get the same vector, the one that the members make up. So
everything that has the same vector in both stores scores alike against them, and documents have the
vectors that they had before. -/
theorem Reachable.joined_alike (hs : s.Reachable) (ht : t.Reachable) (h : s.SameMembers t c k) :
    s.Succeeds (.joinCentroid c) ∧ t.Succeeds (.joinCentroid k) ∧
    ∀ s' t', s.JoinedInto c s' → t.JoinedInto k t' →
      s'.centroidVector c = .ok (s.joinedVector (s.listedMembers c)) ∧
      t'.centroidVector k = s'.centroidVector c ∧ s'.ScoresAlike t' c k ∧
      (∀ d, s'.vectorOf d = s.vectorOf d) ∧ ∀ d, t'.vectorOf d = t.vectorOf d := by
  refine ⟨succeeds_joinCentroid h.exist.1, succeeds_joinCentroid h.exist.2,
    fun s' t' hs' ht' ↦ ?_⟩
  obtain ⟨hvector, hsame⟩ := h.centroidVector_eq hs.intact ht.intact hs' ht'
  exact ⟨hvector, hsame, scoresAlike_of_centroidVector hsame.symm, hs'.vectorOf, ht'.vectorOf⟩

/-- A centroid gets two members at once. -/
def bothAtOnce : List Request :=
  [.createDocumentWithId "a" "Red, red sky" 0, .createDocumentWithId "b" "blue sky" 0,
    .createCentroid "c" false, .addDocumentsToCentroid "c" ["a", "b"] false]

/-- Another one gets them one after the other, the second one first, with a join between them and a
third member that leaves again. -/
def oneAfterOther : List Request :=
  [.createDocument "green" 0, .createDocumentWithId "b" "blue sky" 0,
    .createDocumentWithId "a" "Red, red sky" 0, .createCentroid "k" false,
    .addDocumentsToCentroid "k" ["b", "doc-1"] false, .joinCentroid "k",
    .addDocumentsToCentroid "k" ["a"] false, .removeDocumentsFromCentroid "k" ["doc-1"] false]

/-- They have their members in different orders, and a member scores the same against both of them
when they are joined, the one alone and the other twice. -/
theorem joined_alike_oneAfterOther :
    let s : Store ℝ := empty.run bothAtOnce
    let t : Store ℝ := empty.run oneAfterOther
    s.listedMembers "c" = ["a", "b"] ∧ t.listedMembers "k" = ["b", "a"] ∧
    s.Reachable ∧ t.Reachable ∧ s.SameMembers t "c" "k" ∧
    ((s.answer (.joinCentroid "c")).2.answer (.getDocumentSimilarity "c" "a")).1 =
      ((t.answer (.multiJoinCentroids ["k", "k"])).2.answer
        (.getDocumentSimilarity "k" "a")).1 := by
  intro s t
  have hs : s.Reachable := ⟨bothAtOnce, rfl⟩
  have ht : t.Reachable := ⟨oneAfterOther, rfl⟩
  have hlisted : s.listedMembers "c" = ["a", "b"] := rfl
  have hlisted' : t.listedMembers "k" = ["b", "a"] := rfl
  have h : s.SameMembers t "c" "k" := by
    constructor
    · exact ⟨rfl, rfl⟩
    · intro d
      rw [hlisted, hlisted']
      simp [or_comm]
    · rw [hlisted]
      simp only [List.forall_mem_cons]
      exact ⟨rfl, rfl, List.forall_mem_nil _⟩
  obtain ⟨hc, -, hjoined⟩ := hs.joined_alike ht h
  have hk : t.JoinedInto "k" (t.answer (.multiJoinCentroids ["k", "k"])).2 :=
    ⟨.multiJoinCentroids ["k", "k"], List.mem_cons_self, ⟨_, rfl⟩, rfl⟩
  obtain ⟨-, -, halike, hsame, hsame'⟩ := hjoined _ _ ⟨_, List.mem_cons_self, hc, rfl⟩ hk
  refine ⟨hlisted, hlisted', hs, ht, h, halike.document "a" "a" ?_⟩
  rw [hsame, hsame']
  rfl

end Store

end CentroidRpc
