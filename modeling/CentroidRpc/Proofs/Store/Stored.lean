import CentroidRpc.Proofs.Store.Freshness
import CentroidRpc.Proofs.Store.Listings

/-!
# What is kept of a document

A store keeps of each document the language and the vector of the text that it was last stored with,
as long as it is not deleted (`Store.get?_run_iff`).
-/

namespace CentroidRpc

namespace Store

variable {α : Type} [Weight α]

/-- Whether a request stores a document with some text and some language: it is carried out, and the
document has the id that it is answered with. -/
inductive Stores (s : Store α) (d text : String) (language : Int32) : Request → Prop where
  | generated (told : (s.answer (.createDocument text language)).1 = .ok d) :
      Stores s d text language (.createDocument text language)
  | chosen (told : (s.answer (.createDocumentWithId d text language)).1 = .ok d) :
      Stores s d text language (.createDocumentWithId d text language)

/-- Whether a request puts an end to what is kept of a document: it stores another one under the
same id, or it deletes the document. -/
def Replaces (s : Store α) (d : String) (r : Request) : Prop :=
  (∃ text language, s.Stores d text language r) ∨ s.Succeeds r ∧ d ∈ r.documentsDeleted

variable (α) in
/-- A document was stored by one of some requests, with some text and some language, and has neither
been deleted nor stored again since. -/
def StoredSince (rs : List Request) (d text : String) (language : Int32) : Prop :=
  Since (fun (s : Store α) r ↦ s.Stores d text language r) (fun s r ↦ s.Replaces d r) rs

variable {s : Store α} {r : Request} {d text : String} {language : Int32}

/-- A request stores one text with one language. -/
theorem Stores.unique (h : s.Stores d text language r) {text' : String} {language' : Int32}
    (h' : s.Stores d text' language' r) : text' = text ∧ language' = language := by
  cases h <;> cases h' <;> exact ⟨rfl, rfl⟩

/-- A document stays what it is if none is created and it is not deleted. -/
theorem not_replaces (s : Store α) (hgenerated : r.operation ≠ .createDocument)
    (hchosen : r.operation ≠ .createDocumentWithId) (hdeleted : d ∉ r.documentsDeleted) :
    ¬ s.Replaces d r := by
  rintro (⟨_, _, hstores⟩ | ⟨-, hmem⟩)
  · cases hstores with
    | generated => exact hgenerated rfl
    | chosen => exact hchosen rfl
  · exact hdeleted hmem

/-- A document stays stored while no other one is created and it is not deleted. -/
theorem storedSince_of_forall {before after : List Request}
    (h : (empty.run before : Store α).Stores d text language r)
    (hafter : ∀ r' ∈ after, r'.operation ≠ .createDocument ∧
      r'.operation ≠ .createDocumentWithId ∧ d ∉ r'.documentsDeleted) :
    StoredSince α (before ++ r :: after) d text language := by
  refine since_of_forall h fun r' hr' s ↦ ?_
  obtain ⟨hgenerated, hchosen, hdeleted⟩ := hafter r' hr'
  exact s.not_replaces hgenerated hchosen hdeleted

private theorem mem_toList_toOption {o : Except Failure String} :
    d ∈ o.toOption.toList ↔ o = .ok d := by
  cases o with
  | ok v => simp [Except.toOption, eq_comm]
  | error f => simp [Except.toOption]

private theorem eq_of_createDocumentWithId {id : String}
    (h : (s.createDocumentWithId id text language).1 = .ok d) : d = id := by
  unfold createDocumentWithId at h
  split at h
  · cases h
  · cases h
    rfl

/-- The documents that a request stores are told by the answer to it. -/
theorem mem_documentsStored_iff :
    d ∈ r.documentsStored (s.answer r).1 ↔ ∃ text language, s.Stores d text language r := by
  constructor
  · intro h
    cases r with
    | createDocument text l => exact ⟨text, l, .generated (mem_toList_toOption.1 h)⟩
    | createDocumentWithId id text l =>
      have htold := mem_toList_toOption.1 h
      cases eq_of_createDocumentWithId htold
      exact ⟨text, l, .chosen htold⟩
    | _ => exact absurd h List.not_mem_nil
  · rintro ⟨text, l, h⟩
    cases h with
    | generated told => exact mem_toList_toOption.2 told
    | chosen told => exact mem_toList_toOption.2 told

/-- What exists after a successful request: what existed before and was not to be deleted, and what
was stored. -/
theorem Intact.hasDocument_answer (h : s.Intact) (h' : (s.answer r).2.Intact)
    (hok : s.Succeeds r) : (s.answer r).2.hasDocument d = true ↔
      s.hasDocument d = true ∧ d ∉ r.documentsDeleted ∨
        ∃ text language, s.Stores d text language r := by
  rw [← h'.mem_documents, h.documents_answer hok, List.mem_append, List.mem_filter,
    decide_eq_true_iff, h.mem_documents, mem_documentsStored_iff]

/-- A document that is stored is kept with the language and the vector of its text. -/
theorem Stores.get?_answer (h : s.Stores d text language r) :
    (s.answer r).2.contents.get? d = some ⟨language, .ofText text⟩ := by
  cases h with
  | generated told =>
    cases told
    exact (Dict.get?_insert ..).trans (if_pos rfl)
  | chosen told =>
    have htold : (s.createDocumentWithId d text language).1 = .ok d := told
    show (s.createDocumentWithId d text language).2.contents.get? d = _
    unfold createDocumentWithId at htold ⊢
    split at htold
    · cases htold
    · next hnew =>
      rw [if_neg hnew]
      exact (Dict.get?_insert ..).trans (if_pos rfl)

/-- What is kept of a document that a request does not replace is the same afterwards. -/
theorem Intact.get?_answer_of_not_replaces (h : s.Intact) (h' : (s.answer r).2.Intact)
    (hr : ¬ s.Replaces d r) : (s.answer r).2.contents.get? d = s.contents.get? d := by
  by_cases hok : s.Succeeds r
  · have hstored : ¬ ∃ text language, s.Stores d text language r := fun hst ↦ hr (.inl hst)
    have hdeleted : d ∉ r.documentsDeleted := fun hd ↦ hr (.inr ⟨hok, hd⟩)
    have hexists : (s.answer r).2.hasDocument d = true ↔ s.hasDocument d = true := by
      rw [h.hasDocument_answer h' hok, or_iff_left hstored, and_iff_left hdeleted]
    by_cases hd : s.hasDocument d = true
    · apply contents_answer hd (hexists.2 hd)
      rintro hcreate rfl
      cases r with
      | createDocument text l => exact hstored ⟨text, l, .generated rfl⟩
      | _ => cases hcreate
    · have hnone : s.contents.get? d = none := Option.not_isSome_iff_eq_none.1 hd
      have hnone' : (s.answer r).2.contents.get? d = none :=
        Option.not_isSome_iff_eq_none.1 (mt hexists.1 hd)
      rw [hnone, hnone']
  · rw [answer_of_not_succeeds hok]

/-- After one more request, what is kept of a document is what that one stored, or what was kept
before if that one does not replace it. -/
theorem Intact.get?_contents_answer (h : s.Intact) (h' : (s.answer r).2.Intact)
    {document : Document α} : (s.answer r).2.contents.get? d = some document ↔
      (∃ text language, s.Stores d text language r ∧ document = ⟨language, .ofText text⟩) ∨
        s.contents.get? d = some document ∧ ¬ s.Replaces d r := by
  by_cases hstored : ∃ text language, s.Stores d text language r
  · obtain ⟨text, l, hst⟩ := hstored
    rw [hst.get?_answer]
    constructor
    · intro heq
      exact .inl ⟨text, l, hst, (Option.some.inj heq).symm⟩
    · rintro (⟨text', l', hst', rfl⟩ | ⟨-, hr⟩)
      · obtain ⟨rfl, rfl⟩ := hst.unique hst'
        rfl
      · exact absurd (.inl ⟨text, l, hst⟩) hr
  · have hnot : ¬ ∃ text language, s.Stores d text language r ∧
        document = ⟨language, .ofText text⟩ :=
      fun ⟨text, l, hst, _⟩ ↦ hstored ⟨text, l, hst⟩
    rw [or_iff_right hnot]
    by_cases hr : s.Replaces d r
    · obtain ⟨hok, hd⟩ := hr.resolve_left hstored
      refine iff_of_false (fun hget ↦ ?_) fun hkept ↦ hkept.2 hr
      have hexists : (s.answer r).2.hasDocument d = true :=
        Option.isSome_iff_exists.2 ⟨document, hget⟩
      exact (((h.hasDocument_answer h' hok).1 hexists).resolve_right hstored).2 hd
    · rw [h.get?_answer_of_not_replaces h' hr, and_iff_left hr]

/-- After some requests, what is kept of a document is the language and the vector of the text that
it was stored with since it was last replaced. -/
theorem get?_run_iff {rs : List Request} {document : Document α} :
    (empty.run rs : Store α).contents.get? d = some document ↔
      ∃ text language, StoredSince α rs d text language ∧ document = ⟨language, .ofText text⟩ := by
  induction rs using List.reverseRecOn with
  | nil => exact iff_of_false nofun fun ⟨_, _, hsince, _⟩ ↦ not_since_nil hsince
  | append_singleton rs r ih =>
    have hs : (empty.run rs : Store α).Intact := Reachable.intact ⟨rs, rfl⟩
    have hs' : (empty.run (rs ++ [r]) : Store α).Intact := Reachable.intact ⟨rs ++ [r], rfl⟩
    rw [run_concat] at hs' ⊢
    rw [hs.get?_contents_answer hs', ih]
    constructor
    · rintro (⟨text, l, hst, rfl⟩ | ⟨⟨text, l, hsince, rfl⟩, hr⟩)
      · exact ⟨text, l, since_concat.2 (.inl hst), rfl⟩
      · exact ⟨text, l, since_concat.2 (.inr ⟨hsince, hr⟩), rfl⟩
    · rintro ⟨text, l, hsince, rfl⟩
      rcases since_concat.1 hsince with hst | ⟨hbefore, hr⟩
      · exact .inl ⟨text, l, hst, rfl⟩
      · exact .inr ⟨⟨text, l, hbefore, rfl⟩, hr⟩

end Store

end CentroidRpc
