import CentroidRpc.Proofs.Store.GeneratedId

/-!
# Stores that calls lead to

A caller names the language of a text or leaves it out, so a request that a call is sent as has the
number of some language. This is why the languages of all documents are known in the stores that
calls lead to (`Store.Served.knowsLanguages`); requests of other makings may bring other numbers.
-/

namespace CentroidRpc

/-- The language of the text in a call. -/
def Call.language? {φ ℓ : Type} : Call φ ℓ → Option ℓ
  | createDocument _ l | createDocumentWithId _ _ l => some l
  | getTextSimilarity _ _ l | multiGetTextSimilarity _ _ l => some l
  | _ => none

/-- In the request for a draft the language has its number, and one that is left out is the standard
one. -/
theorem Draft.language?_request (d : Draft) :
    d.request.language? = d.language?.map fun l ↦ (l.getD .standard).number := by
  cases d <;> rfl

private theorem Draft.exists_language {d : Draft} {n : Int32} (h : d.request.language? = some n) :
    ∃ l : Language, l.number = n := by
  rw [d.language?_request] at h
  obtain ⟨l, -, hl⟩ := Option.map_eq_some_iff.1 h
  exact ⟨l.getD .standard, hl⟩

namespace Store

variable {α : Type}

/-- The language of each document is one that has a name. -/
def KnowsLanguages (s : Store α) : Prop :=
  ∀ id document, s.contents.get? id = some document → ∃ l : Language, l.number = document.language

variable [Weight α]

/-- The stores that calls lead to from the empty one. -/
def Served (s : Store α) : Prop := ∃ ds : List Draft, s = empty.run (ds.map Draft.request)

variable {s : Store α}

/-- Calls are requests. -/
theorem Served.reachable (h : s.Served) : s.Reachable := by
  obtain ⟨ds, hs⟩ := h
  exact ⟨ds.map Draft.request, hs⟩

/-- Calls lead on from stores that calls lead to. -/
theorem Served.answer (h : s.Served) (d : Draft) : (s.answer d.request).2.Served := by
  obtain ⟨ds, rfl⟩ := h
  refine ⟨ds ++ [d], ?_⟩
  rw [run, run, List.map_append, List.foldl_append]
  rfl

/-- What the empty store has and every call keeps holds of all stores that calls lead to. -/
theorem Served.induction {P : Store α → Prop} (h0 : P empty)
    (hstep : ∀ (s : Store α) (d : Draft), P s → P (s.answer d.request).2) (h : s.Served) : P s := by
  obtain ⟨ds, rfl⟩ := h
  suffices hrun : ∀ s : Store α, P s → P (s.run (ds.map Draft.request)) from hrun empty h0
  induction ds with
  | nil => exact fun _ hs ↦ hs
  | cons d ds ih => exact fun s hs ↦ ih _ (hstep s d hs)

/-- What is stored by a call has the language of the call, and all else has been there before. -/
theorem KnowsLanguages.answer (h : s.KnowsLanguages) (d : Draft) :
    (s.answer d.request).2.KnowsLanguages := by
  have hsent {n : Int32} (hn : d.request.language? = some n) : ∃ l : Language, l.number = n :=
    d.exists_language hn
  intro id document hget
  generalize d.request = r at hget hsent
  cases documentEffect_answer s r with
  | created _ hcontents | stored _ _ hcontents =>
    rw [hcontents, Dict.get?_insert] at hget
    split at hget
    · cases hget
      exact hsent rfl
    · exact h id document hget
  | retained _ hretains => exact h id document (hretains.contents hget)

/-- Calls lead to no document whose language is unknown. -/
theorem Served.knowsLanguages (h : s.Served) : s.KnowsLanguages :=
  h.induction nofun fun _ d hs ↦ hs.answer d

end Store

end CentroidRpc
