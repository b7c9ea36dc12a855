import Mathlib.Data.Finset.Card
import CentroidRpc.Proofs.Json.Scanning
import CentroidRpc.Proofs.Store.Served
import CentroidRpc.Proofs.Store.Stored

/-!
# Descriptions as JSON

A description is meant to be an object of JSON. The id stands in it as it is, so it is an object
with the id exactly if the id needs no escapes (`describes_describe_iff`): with a quote, a backslash
or a control character in the id it says something else, or nothing at all. For the documents of a
store this is `Store.metadataOf_run`.
-/

namespace CentroidRpc

open Json (Plain Token scan tokensOf?)

/-- A text says in JSON of a document which id, which language and how many terms it has. -/
def Describes (told id : String) (language : Language) (terms : ℕ) : Prop :=
  ∃ members, Json.Says told (.object members) ∧ ("id", .text id) ∈ members ∧
    ("language", .text language.name) ∈ members ∧ ("terms", .number terms) ∈ members

section Describe

variable {id : String} {language : Language} {terms : ℕ}

/-- What stands in a description behind the id and the quote that closes it. -/
def behindId (language : Language) (terms : ℕ) : List Char :=
  ',' :: '"' :: ("language".toList ++ '"' :: ':' :: '"' :: (language.name.toList ++ '"' ::
    ',' :: '"' :: ("terms".toList ++ '"' :: ':' :: (Nat.toDigits 10 terms ++ ['\x7d']))))

/-- The tokens behind the id. -/
def tokensBehindId (language : Language) (terms : ℕ) : List Token :=
  [.comma, .atom (.text "language"), .colon, .atom (.text language.name), .comma,
    .atom (.text "terms"), .colon, .atom (.number terms), .closeObject]

/-- In a description the id stands between two quotes. -/
theorem toList_describe : (describe id language terms).toList =
    '\x7b' :: '"' :: ("id".toList ++ '"' :: ':' :: '"' ::
      (id.toList ++ '"' :: behindId language terms)) := by
  simp [describe, behindId, Nat.toList_repr]

private theorem Language.plain_name (language : Language) : Plain language.name.toList := by
  cases language <;> decide

/-- What stands behind the id is cut into tokens. -/
theorem scan_behindId :
    scan (.between []) (behindId language terms) = some (tokensBehindId language terms) := by
  have hlanguage : Plain "language".toList := by decide
  have hterms : Plain "terms".toList := by decide
  have hcomma : Json.separatorOf? ',' = some [.comma] := rfl
  have hcolon : Json.separatorOf? ':' = some [.colon] := rfl
  have hclose : Json.separatorOf? '\x7d' = some [.closeObject] := rfl
  simp only [behindId, Json.scan_separator hcomma, Json.scan_separator hcolon,
    hlanguage.scan_quoted, language.plain_name.scan_quoted, hterms.scan_quoted,
    Json.scan_toDigits hclose]
  simp [scan, Json.Place.endWord, tokensBehindId]

private theorem plain_of_mem_tokensBehindId {s : String}
    (h : .atom (.text s) ∈ tokensBehindId language terms) : Plain s.toList := by
  simp only [tokensBehindId, List.mem_cons, Token.atom.injEq, Json.Atom.text.injEq, reduceCtorEq,
    List.not_mem_nil, false_or, or_false] at h
  rcases h with rfl | rfl | rfl
  · decide
  · exact language.plain_name
  · decide

private theorem tokensOf?_describe : tokensOf? (describe id language terms) =
    (scan (.within []) (id.toList ++ '"' :: behindId language terms)).map
      ([.openObject, .atom (.text "id"), .colon] ++ ·) := by
  have hid : Plain "id".toList := by decide
  have hopen : Json.separatorOf? '\x7b' = some [.openObject] := rfl
  have hcolon : Json.separatorOf? ':' = some [.colon] := rfl
  rw [tokensOf?, toList_describe, Json.scan_separator hopen, hid.scan_quoted,
    Json.scan_separator hcolon, Json.scan_quote]
  simp [Function.comp_def]

/-- A description with an id that needs no escapes tells what it should. -/
theorem says_describe (hid : Plain id.toList) : Json.Says (describe id language terms)
    (.object [("id", .text id), ("language", .text language.name), ("terms", .number terms)]) := by
  have htokens : tokensOf? (describe id language terms) =
      some ([.openObject, .atom (.text "id"), .colon, .atom (.text id)] ++
        tokensBehindId language terms) := by
    rw [tokensOf?_describe, hid.scan_closed, scan_behindId, String.ofList_toList]
    rfl
  exact ⟨_, htokens, .object (.member .atom (.member .atom (.lastMember .atom)))⟩

private theorem scan_language_eq_none {read rest : List Char} :
    scan (.within read) ('"' :: ("language".toList ++ '"' :: rest)) = none := by
  have hword : scan (.between []) ("language".toList ++ '"' :: rest) = none := by
    rw [Json.scan_word (by decide), Json.scan_cons]
    rfl
  rw [Json.scan_close, hword]
  cases Json.unescape? read <;> rfl

private theorem exists_within_of_scan {p : Json.Place} {ts : List Token}
    (h : scan p ('"' :: behindId language terms) = some ts) : ∃ read, p = .within read := by
  obtain ⟨rest, hrest⟩ : ∃ rest, behindId language terms =
      ',' :: '"' :: ("language".toList ++ '"' :: rest) := ⟨_, rfl⟩
  have hcomma (read : List Char) : scan (.within read) (behindId language terms) = none := by
    have hplain : Plain [','] := by decide
    rw [hrest]
    exact hplain.scan_within.trans scan_language_eq_none
  cases p with
  | within read => exact ⟨read, rfl⟩
  | between word =>
    cases word with
    | nil =>
      rw [Json.scan_quote, hcomma] at h
      cases h
    | cons c word => cases h
  | escaped read =>
    rw [Json.scan_cons, Json.Place.step, Option.bind_some, hcomma] at h
    cases h

private theorem not_mem_tokensOf?_describe (hid : ¬ Plain id.toList) {ts : List Token}
    (h : tokensOf? (describe id language terms) = some ts) : .atom (.text id) ∉ ts := by
  rw [tokensOf?_describe] at h
  obtain ⟨us, hus, rfl⟩ := Option.map_eq_some_iff.1 h
  obtain ⟨p, within, after, rfl, hafter, hpending, hwithin⟩ := Json.scan_append hus
  obtain ⟨read, rfl⟩ := exists_within_of_scan hafter
  simp only [Json.Place.pending, List.length_nil, Nat.zero_add] at hpending hwithin
  rw [Json.scan_close, scan_behindId] at hafter
  obtain ⟨cs, hcs, hlast⟩ := Option.bind_eq_some_iff.1 hafter
  cases hlast
  rw [List.mem_append, List.mem_append]
  rintro (hmem | hmem | hmem)
  · have hname : id = "id" := by simpa using hmem
    exact hid (hname ▸ by decide)
  · exact Nat.lt_irrefl _ (hwithin id hmem)
  · rcases List.mem_cons.1 hmem with hlast | hbehind
    · have hlast : id.toList = cs := by
        cases hlast
        exact String.toList_ofList
      exact hid (hlast ▸ Json.plain_of_unescape? hcs (hlast ▸ hpending))
    · exact hid (plain_of_mem_tokensBehindId hbehind)

/-- A description tells the id exactly if the id needs no escapes. -/
theorem describes_describe_iff :
    Describes (describe id language terms) id language terms ↔ Plain id.toList := by
  constructor
  · rintro ⟨members, hsays, hmem, -⟩
    by_contra hid
    obtain ⟨ts, htokens, htoken⟩ := hsays.mem_of_member hmem
    exact not_mem_tokensOf?_describe hid htokens htoken
  · intro hid
    exact ⟨_, says_describe hid, by simp, by simp, by simp⟩

end Describe

/-- The vector of a text has as many entries as the text has different words. -/
theorem TermVector.size_ofText {α : Type} [Weight α] (text : String) :
    (ofText text : TermVector α).size = (wordsOf text).toFinset.card := by
  have hkeys : (ofText text : TermVector α).keys.toFinset = (wordsOf text).toFinset := by
    ext k
    rw [List.mem_toFinset, List.mem_toFinset, mem_keys_ofText]
  rw [← hkeys, Dict.keys, List.toFinset_card_of_nodup (Dict.nodup_keys _), List.length_map,
    Dict.size]

namespace Store

variable {α : Type} [Weight α]

/-- What is told about a document with some text and some language. -/
structure TellsOf (s : Store α) (id text : String) (language : Language) (told : String) :
    Prop where
  answered : (s.answer (.getDocumentMetadata id)).1 = .ok told
  describes_iff : Describes told id language (wordsOf text).toFinset.card ↔ Plain id.toList
  says_iff : Plain id.toList → ∀ v, Json.Says told v ↔ v = .object [("id", .text id),
    ("language", .text language.name), ("terms", .number (wordsOf text).toFinset.card)]

/-- What is told about a document that is kept in a known language. -/
theorem tellsOf_describe {s : Store α} {id text : String} {language : Language}
    (hget : s.contents.get? id = some ⟨language.number, .ofText text⟩) :
    s.TellsOf id text language (describe id language (wordsOf text).toFinset.card) where
  answered := by
    show s.metadataOf id = _
    simp only [metadataOf, hget, Language.ofNumber?_number, TermVector.size_ofText]
  describes_iff := describes_describe_iff
  says_iff hid v := ⟨(says_describe hid).unique, fun hv ↦ hv ▸ says_describe hid⟩

/-- After some requests, each document that exists was stored with some text and some language. What
is told about it is an object of JSON with its id, the name of the language and the number of
different words exactly if the id needs no escapes, that is if it has no quote, no backslash and no
control character. A language has a name at any rate if the requests are those for calls. -/
theorem metadataOf_run (rs : List Request) {id : String}
    (h : (empty.run rs : Store α).hasDocument id = true) :
    (∃ text number, StoredSince α rs id text number) ∧
    ∀ text number, StoredSince α rs id text number →
      (∀ language : Language, language.number = number →
        ∃ told, (empty.run rs : Store α).TellsOf id text language told) ∧
      ∀ ds : List Draft, rs = ds.map Draft.request →
        ∃ language : Language, language.number = number := by
  constructor
  · obtain ⟨document, hget⟩ := Option.isSome_iff_exists.1 h
    obtain ⟨text, number, hsince, -⟩ := get?_run_iff.1 hget
    exact ⟨text, number, hsince⟩
  · intro text number hsince
    have hget : (empty.run rs : Store α).contents.get? id = some ⟨number, .ofText text⟩ :=
      get?_run_iff.2 ⟨text, number, hsince, rfl⟩
    constructor
    · rintro language rfl
      exact ⟨_, tellsOf_describe hget⟩
    · rintro ds rfl
      exact Served.knowsLanguages ⟨ds, rfl⟩ id _ hget

/-- A French document with two different words. -/
theorem metadataOf_run_twoWords :
    let ds : List Draft := [.createDocumentWithId "doc-fr" "Rouge, rouge vin" (some .french)]
    let s : Store Float := empty.run (ds.map Draft.request)
    s.hasDocument "doc-fr" = true ∧
    StoredSince Float (ds.map Draft.request) "doc-fr" "Rouge, rouge vin" 2 ∧
    ∃ told, (s.answer (.getDocumentMetadata "doc-fr")).1 = .ok told ∧ ∀ v, Json.Says told v ↔
      v = .object [("id", .text "doc-fr"), ("language", .text "FR"), ("terms", .number 2)] := by
  intro ds s
  have hhas : s.hasDocument "doc-fr" = true := by decide +kernel
  have hstores : (empty.run [] : Store Float).Stores "doc-fr" "Rouge, rouge vin" 2
      (.createDocumentWithId "doc-fr" "Rouge, rouge vin" 2) := .chosen rfl
  have hafter : ∀ r ∈ ([] : List Request), r.operation ≠ .createDocument ∧
      r.operation ≠ .createDocumentWithId ∧ "doc-fr" ∉ r.documentsDeleted := List.forall_mem_nil _
  have hsince : StoredSince Float (ds.map Draft.request) "doc-fr" "Rouge, rouge vin" 2 :=
    storedSince_of_forall hstores hafter
  have hwords : (wordsOf "Rouge, rouge vin").toFinset.card = 2 := by decide +kernel
  have hplain : Plain "doc-fr".toList := by decide
  obtain ⟨-, htells⟩ := metadataOf_run (α := Float) (ds.map Draft.request) hhas
  obtain ⟨told, hanswered, -, hsays⟩ := (htells _ _ hsince).1 .french rfl
  rw [hwords] at hsays
  exact ⟨hhas, hsince, told, hanswered, hsays hplain⟩

/-- With a quote in the id, what is told about a document that exists is no text of JSON. -/
theorem metadata_not_json :
    let ds : List Draft := [.createDocumentWithId "a\"b" "red" (some .french)]
    let s : Store Float := empty.run (ds.map Draft.request)
    s.hasDocument "a\"b" = true ∧
    ∃ told, (s.answer (.getDocumentMetadata "a\"b")).1 = .ok told ∧ ∀ v, ¬ Json.Says told v := by
  intro ds s
  have hhas : s.hasDocument "a\"b" = true := by decide +kernel
  have hstores : (empty : Store Float).Stores "a\"b" "red" 2
      (.createDocumentWithId "a\"b" "red" 2) := .chosen rfl
  have htells : s.TellsOf "a\"b" "red" .french _ := tellsOf_describe hstores.get?_answer
  have htokens (terms : ℕ) : tokensOf? (describe "a\"b" .french terms) = none := by
    rw [tokensOf?_describe]
    rfl
  refine ⟨hhas, _, htells.answered, ?_⟩
  rintro v ⟨ts, hts, -⟩
  cases (htokens _).symm.trans hts

end Store

end CentroidRpc
