import CentroidRpc.Proofs.Clients
import CentroidRpc.Proofs.Store.Stored

/-!
# Recorded languages

The language that is recorded of a document is the one that the call named by which it was stored
last, and the standard one if that call named none; whatever else is done leaves it alone
(`Store.records_askAll`). It always has a name, so a document can always be described.
-/

namespace CentroidRpc

/-- A call stores a document: it reaches the store, which answers with the document's id. Its caller
has named the language of the text, or has left it out. -/
structure Asking.Stores (a : Asking) (s : Store Float) (id : String) (named : Option Language) :
    Prop where
  reaches : a.Reaches
  language : a.draft.language? = some named
  stored : ∃ text language, s.Stores id text language a.request

namespace Store

/-- The language that is recorded of a document. -/
def documentLanguage {α : Type} (s : Store α) (id : String) : Option Language :=
  (s.languageOf id).bind Language.ofNumber?

/-- The language that a caller wrote, or left out, where a document was stored for the last time by
some calls. -/
inductive LastStored (id : String) : List Asking → Option Language → Prop where
  | last {as : List Asking} {a : Asking} {named : Option Language}
      (stores : a.Stores (empty.askAll as).2 id named) : LastStored id (as ++ [a]) named
  | before {as : List Asking} {a : Asking} {named : Option Language}
      (stored : LastStored id as named)
      (other : ∀ named', ¬ a.Stores (empty.askAll as).2 id named') :
      LastStored id (as ++ [a]) named

/-- What is recorded of the language of a document, and how the document is described. -/
structure Records (s : Store Float) (id : String) (language : Language) : Prop where
  number : s.languageOf id = some language.number
  told : s.documentLanguage id = some language
  described : ∃ terms, (s.answer (.getDocumentMetadata id)).1 = .ok (describe id language terms)

section Asking

variable {s : Store Float} {a : Asking} {id : String} {named : Option Language}
  {document : Document Float}

private theorem Stores.exists_named {text : String} {language : Int32}
    (h : s.Stores id text language a.request) :
    ∃ named, a.draft.language? = some named ∧ language = (named.getD .standard).number := by
  have hrequest : a.request.language? = some language := by
    generalize a.request = r at h
    cases h <;> rfl
  rw [a.draft.language?_request] at hrequest
  obtain ⟨named, hnamed, hlanguage⟩ := Option.map_eq_some_iff.1 hrequest
  exact ⟨named, hnamed, hlanguage.symm⟩

/-- What is kept of a document after a call is what the call stored, or what was kept before. -/
theorem Served.stores_or_kept (h : s.Served)
    (hget : (s.ask a).2.contents.get? id = some document) :
    (∃ named, a.Stores s id named ∧ document.language = (named.getD .standard).number) ∨
      s.contents.get? id = some document ∧ ∀ named, ¬ a.Stores s id named := by
  rw [world_ask] at hget
  split at hget
  · next hreaches =>
    have hbefore : s.Intact := h.reachable.intact
    have hafter : (s.answer a.request).2.Intact := (h.answer a.draft).reachable.intact
    rcases (hbefore.get?_contents_answer hafter).1 hget with
      ⟨text, language, hstores, rfl⟩ | ⟨hkept, hreplaces⟩
    · obtain ⟨named, hnamed, hlanguage⟩ := hstores.exists_named
      exact .inl ⟨named, ⟨hreaches, hnamed, text, language, hstores⟩, hlanguage⟩
    · exact .inr ⟨hkept, fun named hstores ↦ hreplaces (.inl hstores.stored)⟩
  · next hfails => exact .inr ⟨hget, fun named hstores ↦ hfails hstores.reaches⟩

end Asking

variable {as : List Asking} {id : String} {named : Option Language} {document : Document Float}

/-- What is kept has been stored by some call for the last time. -/
theorem exists_lastStored (hget : (empty.askAll as).2.contents.get? id = some document) :
    ∃ named, LastStored id as named := by
  induction as using List.reverseRecOn with
  | nil => cases hget
  | append_singleton as a ih =>
    rw [askAll_concat] at hget
    rcases (served_askAll as).stores_or_kept hget with
      ⟨named, hstores, -⟩ | ⟨hkept, hother⟩
    · exact ⟨named, .last hstores⟩
    · obtain ⟨named, hstored⟩ := ih hkept
      exact ⟨named, .before hstored hother⟩

/-- What is kept of a document has the language of the call that stored it for the last time. -/
theorem LastStored.language_eq (h : LastStored id as named)
    (hget : (empty.askAll as).2.contents.get? id = some document) :
    document.language = (named.getD .standard).number := by
  induction h with
  | @last as a named hstores =>
    rw [askAll_concat] at hget
    rcases (served_askAll as).stores_or_kept hget with
      ⟨named', hstores', hlanguage⟩ | ⟨-, hother⟩
    · cases hstores.language.symm.trans hstores'.language
      exact hlanguage
    · exact absurd hstores (hother named)
  | @before as a named _ hother ih =>
    rw [askAll_concat] at hget
    rcases (served_askAll as).stores_or_kept hget with
      ⟨named', hstores, -⟩ | ⟨hkept, -⟩
    · exact absurd hstores (hother named')
    · exact ih hkept

private theorem records_of_get? {s : Store Float} {language : Language}
    (hget : s.contents.get? id = some document) (hlanguage : document.language = language.number) :
    s.Records id language := by
  have hnumber : s.languageOf id = some language.number := by
    rw [languageOf, hget, Option.map_some, hlanguage]
  refine ⟨hnumber, ?_, document.vector.size, ?_⟩
  · rw [documentLanguage, hnumber, Option.bind_some, Language.ofNumber?_number]
  · show s.metadataOf id = _
    simp only [metadataOf, hget, hlanguage, Language.ofNumber?_number]

/-- After calls over any clients, each document that exists was stored for the last time by one of
them, and the language that the caller wrote there is recorded of it, English if none was written,
whatever came after. So a document is never without a description because its language has no
name. -/
theorem records_askAll (as : List Asking) :
    let s := (empty.askAll as).2
    (∀ id, s.hasDocument id = true →
      (∃ named, LastStored id as named) ∧
      ∀ named, LastStored id as named → s.Records id (named.getD .english)) ∧
    ∀ id, (s.answer (.getDocumentMetadata id)).1 ≠ .error .unknownException := by
  intro s
  have hrecords {id : String} {document : Document Float} {named : Option Language}
      (hget : s.contents.get? id = some document) (hlast : LastStored id as named) :
      s.Records id (named.getD .english) :=
    records_of_get? hget (hlast.language_eq hget)
  constructor
  · intro id hid
    obtain ⟨document, hget⟩ := Option.isSome_iff_exists.1 hid
    exact ⟨exists_lastStored hget, fun named hlast ↦ hrecords hget hlast⟩
  · intro id hfailed
    cases hget : s.contents.get? id with
    | none =>
      have hmissing : s.metadataOf id = .error .documentDoesNotExist := by
        simp only [metadataOf, hget]
      cases hmissing.symm.trans hfailed
    | some document =>
      obtain ⟨named, hlast⟩ := exists_lastStored hget
      obtain ⟨terms, hdescribed⟩ := (hrecords hget hlast).described
      cases hdescribed.symm.trans hfailed

/-- A document that was French is deleted and stored again in German, and one whose language is left
out is English. -/
theorem records_askAll_storedAgain :
    let client : Client Unit := .ofStub ()
    let before : List Asking :=
      [⟨client, .createDocumentWithId "a" "rouge" (some .french)⟩,
        ⟨client, .deleteDocument "a" none⟩]
    let as : List Asking :=
      before ++ [⟨client, .createDocumentWithId "a" "rot" (some .german)⟩] ++
        [⟨client, .createDocument "red" none⟩]
    (empty.askAll as).2.hasDocument "a" = true ∧ (empty.askAll as).2.hasDocument "doc-1" = true ∧
    (empty.askAll as).2.Records "a" .german ∧ (empty.askAll as).2.Records "doc-1" .english := by
  intro client before as
  have ha : (empty.askAll as).2.hasDocument "a" = true := by decide +kernel
  have hdoc : (empty.askAll as).2.hasDocument "doc-1" = true := by decide +kernel
  obtain ⟨hrecords, -⟩ := records_askAll as
  have hlast : LastStored "a" as (some .german) := by
    have hnew : (empty.askAll before).2.hasDocument "a" = false := by decide +kernel
    have htold : ((empty.askAll before).2.createDocumentWithId "a" "rot" 1).1 = .ok "a" := by
      rw [createDocumentWithId, hnew]
      rfl
    refine .before (.last ⟨⟨rfl, by decide +kernel⟩, rfl, "rot", 1, .chosen htold⟩) ?_
    intro named hstores
    obtain ⟨text, language, hother⟩ := hstores.stored
    cases hother with
    | generated told =>
      have hnext : (empty.askAll (before ++ [⟨client, _⟩])).2.nextId = "a" := Except.ok.inj told
      exact absurd hnext (by decide +kernel)
  have hlast' : LastStored "doc-1" as none := by
    refine .last ⟨⟨rfl, by decide +kernel⟩, rfl, "red", 0, .generated (congrArg Except.ok ?_)⟩
    decide +kernel
  exact ⟨ha, hdoc, (hrecords "a" ha).2 _ hlast, (hrecords "doc-1" hdoc).2 _ hlast'⟩

end Store

end CentroidRpc
