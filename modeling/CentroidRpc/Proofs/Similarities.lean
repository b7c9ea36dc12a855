import CentroidRpc.Proofs.Lengths
import CentroidRpc.Proofs.Store.Scores
import CentroidRpc.Proofs.Store.Stored
import CentroidRpc.Proofs.Told

/-!
# Ways to one similarity

Callers who ask for several scores at once are told what they would be told of each one alone, and a
document scores as the text that it was stored with (`Session.similarities_agree`). On their way
scores lose no more than the sign of zero, and this they lose one by one and together.
-/

namespace CentroidRpc

open Wire

/-- An outcome of a store is told to a caller: what it yields in another form, and its failure with
some ids. -/
structure Conveys {β γ : Type} (f : β → γ) (o : Except Failure β) (told : Except CallError γ) :
    Prop where
  ok : ∀ v, o = .ok v → told = .ok (f v)
  error : ∀ failure, o = .error failure → ∃ ids, told = .error (.reported failure ids none)

/-- If a store's outcome for some ids together is made of those for each of them, so is what callers
are told of them. -/
theorem Gathers.conveys {β γ : Type} {f : β → γ} {ids : List String}
    {single : String → Except Failure β} {batch : Except Failure (Dict β)}
    {single' : String → Except CallError γ} {batch' : Except CallError (Dict γ)}
    (h : Gathers some ids single batch) (hsingle : ∀ id, Conveys f (single id) (single' id))
    (hbatch : Conveys (Dict.map f) batch batch') :
    Gathers CallError.kindName ids single' batch' := by
  cases hb : batch with
  | ok values =>
    rw [hbatch.ok values hb]
    apply Gathers.of_ok
    · rw [Dict.keys_map]
      exact h.keys values hb
    · intro id hid
      obtain ⟨x, hx, hget⟩ := h.values values hb id hid
      rw [Dict.get?_map, hget]
      exact ⟨f x, (hsingle id).ok x hx, rfl⟩
  | error failure =>
    obtain ⟨id, hid, failure', hf, hsame⟩ := h.failure failure hb
    cases hsame
    obtain ⟨told, htold⟩ := hbatch.error failure hb
    obtain ⟨told', htold'⟩ := (hsingle id).error failure hf
    rw [htold]
    exact .of_error hid htold' rfl

/-- A score as it arrives, without the sign of zero. -/
def Double.arrived (x : Float) : Double := (ofFloat x).positiveZero

private theorem Double.map_arrived (scores : Dict Float) :
    (scores.map ofFloat).map positiveZero = scores.map arrived :=
  Dict.map_map scores ofFloat positiveZero

namespace Request

/-- What the caller is told of an outcome of a store of machine numbers. -/
def told (r : Request) (o : Except Failure (r.Answer Float)) :
    Except CallError (r.Answer Double) :=
  r.conclude (.ok (r.arrived (Service.inDoubles .ofFloat o)))

/-- An outcome in an envelope is told in the form in which what it yields arrives. -/
theorem conveys_told (r : Request) (hbare : r.operation.response.bare = false)
    {f : r.Answer Float → r.Answer Double}
    (hf : ∀ v, r.operation.response.project (r.arrived
      (.ok (AnswerKind.map .ofFloat r.operation.response.answerKind v))).payload = f v)
    (o : Except Failure (r.Answer Float)) : Conveys f o (r.told o) := by
  constructor
  · rintro v rfl
    rw [← hf]
    exact r.conclude_arrived_ok _
  · rintro failure rfl
    exact ⟨_, conclude_arrived_error hbare failure⟩

private theorem conveys_documentScore (c d : String) (o : Except Failure Float) :
    Conveys Double.arrived o (told (.getDocumentSimilarity c d) o) :=
  conveys_told (.getDocumentSimilarity c d) rfl (fun _ ↦ rfl) o

private theorem conveys_textScore (c text : String) (language : Int32) (o : Except Failure Float) :
    Conveys Double.arrived o (told (.getTextSimilarity c text language) o) :=
  conveys_told (.getTextSimilarity c text language) rfl (fun _ ↦ rfl) o

private theorem conveys_documentScores (cs : List String) (d : String)
    (o : Except Failure (Dict Float)) :
    Conveys (Dict.map Double.arrived) o (told (.multiGetDocumentSimilarity cs d) o) :=
  conveys_told (.multiGetDocumentSimilarity cs d) rfl Double.map_arrived o

private theorem conveys_textScores (cs : List String) (text : String) (language : Int32)
    (o : Except Failure (Dict Float)) :
    Conveys (Dict.map Double.arrived) o (told (.multiGetTextSimilarity cs text language) o) :=
  conveys_told (.multiGetTextSimilarity cs text language) rfl Double.map_arrived o

end Request

namespace Session

/-- The caller of a request is told an outcome, and nothing else comes of the call. -/
def Tells (s : Session Unit (Store Float)) (r : Request) (o : Except CallError (r.Answer Double)) :
    Prop :=
  s.call (Service.exchange .inMemory) r = (⟨r, true, o⟩, s)

variable {s : Session Unit (Store Float)}

/-- Of what leaves the store as it is, the caller is told what the store answers. -/
theorem tells_of_fits (hopen : s.client.connection = .opened ()) {r : Request} (hfits : s.Fits r)
    (hquery : (s.world.answer r).2 = s.world) : s.Tells r (r.told (s.world.answer r).1) := by
  unfold Tells
  rw [call_inMemory hopen hfits, hquery]
  rfl

/-- Of the score of a document the caller is told. -/
theorem tells_documentScore (hopen : s.client.connection = .opened ()) {c d : String}
    (hrequest : (Request.encode (.getDocumentSimilarity c d)).length ≤ RpcStatus.maxMessageSize) :
    s.Tells (.getDocumentSimilarity c d)
      (Request.told (.getDocumentSimilarity c d) (s.world.documentScore c d)) := by
  rw [← Store.answer_getDocumentSimilarity_eq]
  exact tells_of_fits hopen ⟨hrequest, ResponseType.length_similarity_le _⟩ rfl

/-- Of the score of a text the caller is told. -/
theorem tells_textScore (hopen : s.client.connection = .opened ()) {c text : String}
    {language : Int32}
    (hrequest : (Request.encode (.getTextSimilarity c text language)).length ≤
      RpcStatus.maxMessageSize) :
    s.Tells (.getTextSimilarity c text language)
      (Request.told (.getTextSimilarity c text language) (s.world.textScore c text)) := by
  rw [← Store.answer_getTextSimilarity_eq s.world c text language]
  exact tells_of_fits hopen ⟨hrequest, ResponseType.length_similarity_le _⟩ rfl

/-- Over an open connection to a store that requests have led to: who asks for the scores of a
document or of a text against several centroids is told what is made of the scores against each of
them, and if there are none, an error of the kind that is told of one of them. A document scores
against a centroid as the text that it was last stored with, whatever language is named with the
text. No request, and no reply with several scores, may be too long for this; who asks too much, or
for too much, is told so. -/
theorem similarities_agree {rs : List Request} (hopen : s.client.connection = .opened ())
    (hworld : s.world = .run .empty rs) :
    (∀ ids d, ids ≠ [] → s.Fits (.multiGetDocumentSimilarity ids d) →
      ∃ (single : String → Except CallError Double) (batch : Except CallError (Dict Double)),
        s.Tells (.multiGetDocumentSimilarity ids d) batch ∧
        (∀ id ∈ ids, s.Tells (.getDocumentSimilarity id d) (single id)) ∧
        Gathers CallError.kindName ids single batch) ∧
    (∀ ids text language, s.Fits (.multiGetTextSimilarity ids text language) →
      ∃ (single : String → Except CallError Double) (batch : Except CallError (Dict Double)),
        s.Tells (.multiGetTextSimilarity ids text language) batch ∧
        (∀ id ∈ ids, s.Tells (.getTextSimilarity id text language) (single id)) ∧
        Gathers CallError.kindName ids single batch) ∧
    (∀ c d text language language', s.world.hasCentroid c = true →
      Store.StoredSince Float rs d text language →
      (Request.encode (.getDocumentSimilarity c d)).length ≤ RpcStatus.maxMessageSize →
      (Request.encode (.getTextSimilarity c text language')).length ≤ RpcStatus.maxMessageSize →
      ∃ score : Double, s.Tells (.getDocumentSimilarity c d) (.ok score) ∧
        s.Tells (.getTextSimilarity c text language') (.ok score)) ∧
    ∀ r : Request,
      (∀ status, RpcStatus.tooLong? r.encode.length = some status →
        s.call (Service.exchange .inMemory) r = (⟨r, false, .error (.transport status)⟩, s)) ∧
      (r.encode.length ≤ RpcStatus.maxMessageSize →
        ∀ status, RpcStatus.tooLong? (r.replyOf s.world).length = some status →
          s.call (Service.exchange .inMemory) r =
            (⟨r, true, .error (.transport status)⟩, ⟨s.client, (s.world.answer r).2⟩)) := by
  refine ⟨fun ids d hids hfits ↦ ?_, fun ids text l hfits ↦ ?_,
    fun c d text l l' hc hstored hdocument htext ↦ ?_,
    fun r ↦ ⟨fun status hlong ↦ call_of_tooLong hopen hlong _,
      fun hrequest status hlong ↦ call_inMemory_of_tooLong hopen hrequest hlong⟩⟩
  · refine ⟨_, _, tells_of_fits hopen hfits rfl, fun id hid ↦ tells_documentScore hopen ?_,
      (s.world.gathers_documentScores hids d).conveys
        (fun id ↦ Request.conveys_documentScore id d _) (Request.conveys_documentScores ids d _)⟩
    exact Nat.le_trans (Request.length_encode_getDocumentSimilarity_le hid d) hfits.request
  · refine ⟨_, _, tells_of_fits hopen hfits rfl, fun id hid ↦ tells_textScore hopen ?_,
      (s.world.gathers_textScores ids text).conveys
        (fun id ↦ Request.conveys_textScore id text l _) (Request.conveys_textScores ids text l _)⟩
    exact Nat.le_trans (Request.length_encode_getTextSimilarity_le hid text l) hfits.request
  · obtain ⟨centroid, hcentroid⟩ := Store.exists_of_hasCentroid hc
    have hvector : s.world.contents.get? d = some ⟨l, .ofText text⟩ := by
      rw [hworld]
      exact Store.get?_run_iff.2 ⟨text, l, hstored, rfl⟩
    have hscore : s.world.textScore c text = .ok (centroid.vector.dot (.ofText text)) :=
      Store.scoreAgainst_of_get? hcentroid (.ofText text)
    have hdocumentTold := tells_documentScore hopen hdocument
    have htextTold := tells_textScore hopen htext
    rw [Store.documentScore_eq_textScore hvector,
      (Request.conveys_documentScore c d _).ok _ hscore] at hdocumentTold
    rw [(Request.conveys_textScore c text l' _).ok _ hscore] at htextTold
    exact ⟨_, hdocumentTold, htextTold⟩

/-- One of two centroids is joined, and its one member is a document. -/
def joinedBesideEmpty : List Request :=
  [.createDocumentWithId "a" "Red, red sky" 0, .multiCreateCentroids ["c", "e"] false,
    .addDocumentsToCentroid "c" ["a"] false, .joinCentroid "c"]

/-- The document is compared with the two centroids and with one that does not exist, and with the
joined one as a text in another language. -/
theorem similarities_agree_joinedBesideEmpty :
    let s : Session Unit (Store Float) := ⟨.ofStub (), .run .empty joinedBesideEmpty⟩
    let several : Request := .multiGetDocumentSimilarity ["c", "e", "x", "c"] "a"
    s.client.connection = .opened () ∧ s.Fits several ∧ s.world.hasCentroid "c" = true ∧
    Store.StoredSince Float joinedBesideEmpty "a" "Red, red sky" 0 ∧
    (∃ single batch, s.Tells several batch ∧ s.Tells (.getDocumentSimilarity "x" "a") (single "x") ∧
      Gathers CallError.kindName ["c", "e", "x", "c"] single batch) ∧
    ∃ score : Double, s.Tells (.getDocumentSimilarity "c" "a") (.ok score) ∧
      s.Tells (.getTextSimilarity "c" "Red, red sky" 3) (.ok score) := by
  intro s several
  have hfits : s.Fits several := ⟨by decide +kernel, by decide +kernel⟩
  have hstored : Store.StoredSince Float joinedBesideEmpty "a" "Red, red sky" 0 := by
    have hevent : (Store.empty.run [] : Store Float).Stores "a" "Red, red sky" 0
        (.createDocumentWithId "a" "Red, red sky" 0) := .chosen rfl
    have hafter : ∀ r ∈ joinedBesideEmpty.drop 1, r.operation ≠ .createDocument ∧
        r.operation ≠ .createDocumentWithId ∧ "a" ∉ r.documentsDeleted := by
      decide
    exact Store.storedSince_of_forall hevent hafter
  have hopen : s.client.connection = .opened () := rfl
  have hworld : s.world = .run .empty joinedBesideEmpty := rfl
  obtain ⟨hdocuments, -, hsame, -⟩ := similarities_agree hopen hworld
  obtain ⟨single, batch, hbatch, hsingle, hgathers⟩ :=
    hdocuments ["c", "e", "x", "c"] "a" (List.cons_ne_nil _ _) hfits
  have hx : s.Tells (.getDocumentSimilarity "x" "a") (single "x") := hsingle "x" (by decide)
  exact ⟨hopen, hfits, rfl, hstored, ⟨single, batch, hbatch, hx, hgathers⟩,
    hsame "c" "a" "Red, red sky" 0 3 rfl hstored (by decide +kernel) (by decide +kernel)⟩

/-- A text that may be compared with one centroid, but not with two. -/
def longText : String := wordOf 4194295

private theorem utf8ByteSize_longText : longText.utf8ByteSize = 4194295 := utf8ByteSize_wordOf _

/-- The text is compared with a centroid alone, and with the same one twice. The second request is
too long, and no scores are told. -/
theorem not_agree_of_longText :
    let s : Session Unit (Store Float) := ⟨.ofStub (), .run .empty [.createCentroid "c" false]⟩
    let twice : Request := .multiGetTextSimilarity ["c", "c"] longText 0
    s.client.connection = .opened () ∧
    (∃ score, s.Tells (.getTextSimilarity "c" longText 0) (.ok score)) ∧
    (∃ status : RpcStatus,
      s.call (Service.exchange .inMemory) twice =
        (⟨twice, false, .error (.transport status)⟩, s) ∧ status.code = .outOfRange) ∧
    ¬ ∀ ids text language,
      (∀ id ∈ ids, ∃ score, s.Tells (.getTextSimilarity id text language) (.ok score)) →
      ∃ scores, s.Tells (.multiGetTextSimilarity ids text language) (.ok scores) := by
  intro s twice
  have hopen : s.client.connection = .opened () := rfl
  have hone : (Request.encode (.getTextSimilarity "c" longText 0)).length = 4194303 := by
    rw [Request.length_encode_getTextSimilarity "c" utf8ByteSize_longText (by decide)]
    decide
  have htwo : twice.encode.length = 4194306 := by
    rw [Request.length_encode_multiGetTextSimilarity ["c", "c"] utf8ByteSize_longText (by decide)]
    decide
  have hsingle : ∃ score, s.Tells (.getTextSimilarity "c" longText 0) (.ok score) := by
    have htold : s.Tells (.getTextSimilarity "c" longText 0)
        (Request.told (.getTextSimilarity "c" longText 0) (s.world.textScore "c" longText)) :=
      tells_textScore hopen (by rw [hone]; decide)
    exact ⟨_, htold⟩
  obtain ⟨status, hstatus, hcode⟩ : ∃ status, RpcStatus.tooLong? twice.encode.length = some status ∧
      status.code = .outOfRange := by
    rw [htwo]
    exact ⟨_, rfl, rfl⟩
  have hcall := call_of_tooLong hopen hstatus .inMemory
  refine ⟨hopen, hsingle, ⟨status, hcall, hcode⟩, fun hclaim ↦ ?_⟩
  have hall : ∀ id ∈ ["c", "c"], ∃ score,
      s.Tells (.getTextSimilarity id longText 0) (.ok score) := by
    simpa using hsingle
  obtain ⟨scores, hscores⟩ := hclaim ["c", "c"] longText 0 hall
  cases hcall.symm.trans hscores

end Session

end CentroidRpc
