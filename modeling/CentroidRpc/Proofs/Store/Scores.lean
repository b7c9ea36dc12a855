import CentroidRpc.Proofs.Store.Vectors

/-!
# Scores one by one and together

The score of one centroid is the product of its vector with that of a text or of a document. Scores
of several centroids are those of each of them, and if one of them has none, there are none at all
(`Store.gathers_textScores`, `Store.gathers_documentScores`).
-/

namespace CentroidRpc

/-- Whether the outcome for some ids together is made of the outcomes for each of them. -/
structure Gathers {ε β φ : Type} (reason : ε → φ) (ids : List String)
    (single : String → Except ε β) (batch : Except ε (Dict β)) : Prop where
  succeeds : (∃ values, batch = .ok values) ↔ ∀ id ∈ ids, ∃ x, single id = .ok x
  keys : ∀ values, batch = .ok values → ∀ id, id ∈ values.keys ↔ id ∈ ids
  values : ∀ values, batch = .ok values → ∀ id ∈ ids, ∃ x,
    single id = .ok x ∧ values.get? id = some x
  failure : ∀ e, batch = .error e → ∃ id ∈ ids, ∃ e', single id = .error e' ∧ reason e' = reason e

namespace Gathers

variable {ε β φ : Type} {reason : ε → φ} {ids : List String} {single : String → Except ε β}

/-- Values together are made of those that the ids have alone. -/
theorem of_ok {values : Dict β} (hkeys : ∀ id, id ∈ values.keys ↔ id ∈ ids)
    (hvalues : ∀ id ∈ ids, ∃ x, single id = .ok x ∧ values.get? id = some x) :
    Gathers reason ids single (.ok values) := by
  constructor
  · refine iff_of_true ⟨values, rfl⟩ fun id hid ↦ ?_
    obtain ⟨x, hx, -⟩ := hvalues id hid
    exact ⟨x, hx⟩
  · rintro _ ⟨⟩
    exact hkeys
  · rintro _ ⟨⟩
    exact hvalues
  · rintro _ ⟨⟩

/-- One id that has no value alone is a reason for there being none together. -/
theorem of_error {e e' : ε} {id : String} (hid : id ∈ ids) (hfailed : single id = .error e')
    (hreason : reason e' = reason e) : Gathers reason ids single (.error e) := by
  constructor
  · constructor
    · rintro ⟨_, ⟨⟩⟩
    · intro hall
      obtain ⟨x, hx⟩ := hall id hid
      cases hfailed.symm.trans hx
  · rintro _ ⟨⟩
  · rintro _ ⟨⟩
  · rintro _ ⟨⟩
    exact ⟨id, hid, e', hfailed, hreason⟩

/-- Every value of a batch is that of one of the ids. -/
theorem exists_of_mem_values {values : Dict β} (h : Gathers reason ids single (.ok values)) {x : β}
    (hx : x ∈ values.values) : ∃ id, single id = .ok x := by
  obtain ⟨id, hget⟩ := Dict.mem_values_iff.1 hx
  have hkey : id ∈ values.keys := Dict.mem_keys_iff.2 (Option.isSome_iff_exists.2 ⟨x, hget⟩)
  obtain ⟨y, hy, hget'⟩ := h.values values rfl id ((h.keys values rfl id).1 hkey)
  cases Option.some.inj (hget.symm.trans hget')
  exact ⟨id, hy⟩

/-- In two batches ids that have the same value alone have the same one. -/
theorem get?_eq {ids' : List String} {single' : String → Except ε β}
    {batch batch' : Except ε (Dict β)} {values values' : Dict β} {id id' : String}
    (h : Gathers reason ids single batch) (h' : Gathers reason ids' single' batch')
    (hvalues : batch = .ok values) (hvalues' : batch' = .ok values') (hid : id ∈ ids)
    (hid' : id' ∈ ids') (hsame : single id = single' id') : values.get? id = values'.get? id' := by
  obtain ⟨x, hx, hget⟩ := h.values values hvalues id hid
  obtain ⟨y, hy, hget'⟩ := h'.values values' hvalues' id' hid'
  rw [hsame, hy] at hx
  cases hx
  rw [hget, hget']

end Gathers

/-- What goes on with a success and succeeds again went on with one. -/
theorem exists_of_bind_ok {ε β γ : Type} {o : Except ε β} {f : β → Except ε γ} {v : γ}
    (h : o.bind f = .ok v) : ∃ u, o = .ok u ∧ f u = .ok v := by
  cases o with
  | error e => cases h
  | ok u => exact ⟨u, rfl, h⟩

namespace Store

variable {α : Type} [Weight α] {s : Store α}

/-- The vector of a document. -/
def vectorOf (s : Store α) (document : String) : Except Failure (TermVector α) :=
  match s.contents.get? document with
  | none => .error .documentDoesNotExist
  | some d => .ok d.vector

/-- How similar a centroid is to a vector. -/
def scoreAgainst (s : Store α) (v : TermVector α) (centroid : String) : Except Failure α :=
  match s.members.get? centroid with
  | none => .error .centroidDoesNotExist
  | some c => .ok (c.vector.dot v)

/-- A centroid that exists has a score. -/
theorem scoreAgainst_of_get? {id : String} {c : Centroid α} (hc : s.members.get? id = some c)
    (v : TermVector α) : s.scoreAgainst v id = .ok (c.vector.dot v) := by
  rw [scoreAgainst, hc]

private theorem scores_cases (s : Store α) (v : TermVector α) (ids : List String) (found : Dict α) :
    (∃ scores, s.scores v ids found = .ok scores ∧ (∀ id ∈ ids, ∃ x, s.scoreAgainst v id = .ok x) ∧
      ∀ k, scores.get? k = if k ∈ ids then (s.scoreAgainst v k).toOption else found.get? k) ∨
    (s.scores v ids found = .error .centroidDoesNotExist ∧
      ∃ id ∈ ids, s.scoreAgainst v id = .error .centroidDoesNotExist) := by
  induction ids generalizing found with
  | nil => exact .inl ⟨found, rfl, fun _ hid ↦ absurd hid List.not_mem_nil, fun _ ↦ rfl⟩
  | cons id ids ih =>
    unfold scores
    cases hc : s.members.get? id with
    | none => exact .inr ⟨rfl, id, List.mem_cons_self, by rw [scoreAgainst, hc]⟩
    | some c =>
      have hscore := scoreAgainst_of_get? hc v
      rcases ih (found.insert id (c.vector.dot v)) with
        ⟨scores, hscores, hall, hget⟩ | ⟨hfailed, k, hk, hmissing⟩
      · refine .inl ⟨scores, hscores, List.forall_mem_cons.2 ⟨⟨_, hscore⟩, hall⟩, fun k ↦ ?_⟩
        rw [hget, Dict.get?_insert]
        by_cases hk : k = id
        · rw [hk, hscore, if_pos rfl, if_pos List.mem_cons_self]
          exact ite_self _
        · simp only [hk, if_false, List.mem_cons, false_or]
      · exact .inr ⟨hfailed, k, List.mem_cons_of_mem id hk, hmissing⟩

private theorem map_scoreOf_scores (s : Store α) (v : TermVector α) (centroid : String) :
    (s.scores v [centroid] .empty).map (scoreOf centroid) = s.scoreAgainst v centroid := by
  unfold scores scoreAgainst
  cases s.members.get? centroid with
  | none => rfl
  | some c =>
    show Except.ok (scoreOf centroid (Dict.empty.insert centroid (c.vector.dot v))) = _
    rw [scoreOf, Dict.get?_insert, if_pos rfl, Option.getD_some]

/-- The scores of a vector are made of its score against each of the centroids. -/
theorem gathers_scores (s : Store α) (v : TermVector α) (ids : List String) :
    Gathers some ids (s.scoreAgainst v) (s.scores v ids .empty) := by
  rcases s.scores_cases v ids .empty with
    ⟨scores, hscores, hall, hget⟩ | ⟨hfailed, id, hid, hmissing⟩
  · rw [hscores]
    apply Gathers.of_ok
    · intro id
      rw [Dict.mem_keys_iff, Dict.contains, hget]
      by_cases hid : id ∈ ids
      · obtain ⟨x, hx⟩ := hall id hid
        rw [if_pos hid, hx]
        exact iff_of_true rfl hid
      · rw [if_neg hid]
        exact iff_of_false Bool.false_ne_true hid
    · intro id hid
      obtain ⟨x, hx⟩ := hall id hid
      rw [hget, if_pos hid, hx]
      exact ⟨x, rfl, rfl⟩
  · rw [hfailed]
    exact .of_error hid hmissing rfl

/-- How similar a text is to a centroid. -/
def textScore (s : Store α) (centroid text : String) : Except Failure α :=
  s.scoreAgainst (.ofText text) centroid

/-- How similar a document is to a centroid. -/
def documentScore (s : Store α) (centroid document : String) : Except Failure α :=
  (s.vectorOf document).bind (s.scoreAgainst · centroid)

/-- A text is compared with one centroid. -/
theorem answer_getTextSimilarity_eq (s : Store α) (centroid text : String) (language : Int32) :
    (s.answer (.getTextSimilarity centroid text language)).1 = s.textScore centroid text :=
  s.map_scoreOf_scores (.ofText text) centroid

/-- The scores of a document are those of its vector, if it exists. -/
theorem documentScores_eq_bind (s : Store α) (ids : List String) (document : String) :
    s.documentScores ids document = (s.vectorOf document).bind (s.scores · ids .empty) := by
  unfold documentScores vectorOf
  cases s.contents.get? document <;> rfl

/-- A document is compared with one centroid. -/
theorem answer_getDocumentSimilarity_eq (s : Store α) (centroid document : String) :
    (s.answer (.getDocumentSimilarity centroid document)).1 =
      s.documentScore centroid document := by
  show (s.documentScores [centroid] document).map (scoreOf centroid) = _
  rw [documentScores_eq_bind, documentScore]
  cases s.vectorOf document with
  | error f => rfl
  | ok v => exact s.map_scoreOf_scores v centroid

/-- The scores of a text are made of its score against each of the centroids. -/
theorem gathers_textScores (s : Store α) (ids : List String) (text : String) :
    Gathers some ids (s.textScore · text) (s.textScores ids text) :=
  s.gathers_scores (.ofText text) ids

/-- The scores of a document are made of its score against each of the centroids, if there is one.
If the document does not exist, it has no score against any. -/
theorem gathers_documentScores (s : Store α) {ids : List String} (hids : ids ≠ [])
    (document : String) :
    Gathers some ids (s.documentScore · document) (s.documentScores ids document) := by
  unfold documentScore
  rw [documentScores_eq_bind]
  cases s.vectorOf document with
  | ok v => exact s.gathers_scores v ids
  | error f =>
    obtain ⟨id, hid⟩ := List.exists_mem_of_ne_nil ids hids
    exact .of_error hid rfl rfl

/-- A document scores as the text that its vector is made from. -/
theorem documentScore_eq_textScore {document text : String} {language : Int32}
    (h : s.contents.get? document = some ⟨language, .ofText text⟩) (centroid : String) :
    s.documentScore centroid document = s.textScore centroid text := by
  rw [documentScore, vectorOf, h]
  rfl

end Store

end CentroidRpc
