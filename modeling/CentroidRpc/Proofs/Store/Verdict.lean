import CentroidRpc.Proofs.Store.Presence
import CentroidRpc.Proofs.Store.Served
import Mathlib.Logic.Basic

/-!
# When a store refuses, and why

Whether a request is carried out depends on what the store lists before it: the documents, the
centroids and the members of a centroid (`Call.MetBy`). A request that is refused is refused for a
reason that the same listings bear out (`Failure.TrueOf`), though several may be at hand. So what a
store answers is fair (`Store.fair_answer`).
-/

namespace CentroidRpc

variable {α β γ : Type}

section Listings

variable [Weight α] (s : Store α)

/-- The centroids that are listed. -/
def Store.listedCentroids : List String := listIn (s.answer .listAllCentroids).1

/-- The documents that are listed. -/
def Store.listedDocuments : List String := listIn (s.answer .listAllDocuments).1

/-- The members that are listed of a centroid. -/
def Store.listedMembers (centroid : String) : List String :=
  listIn (s.answer (.listAllDocumentsForCentroid centroid)).1

/-- What a failure says of a store, where a request names centroids and `ids` are those that the
failure is about. -/
def Failure.TrueOf (centroids ids : List String) : Failure → Prop
  | centroidDoesNotExist => ∃ id ∈ ids, id ∉ s.listedCentroids
  | centroidAlreadyExists => ∃ id ∈ ids, id ∈ s.listedCentroids
  | documentDoesNotExist => ∃ id ∈ ids, id ∉ s.listedDocuments
  | documentAlreadyExists => ∃ id, ids = [id] ∧ id ∈ s.listedDocuments
  | documentAlreadyInCentroid =>
    ∃ c, centroids = [c] ∧ c ∈ s.listedCentroids ∧ ∃ id ∈ ids, id ∈ s.listedMembers c
  | documentNotInCentroid =>
    ∃ c, centroids = [c] ∧ c ∈ s.listedCentroids ∧ ∃ id ∈ ids, id ∉ s.listedMembers c
  | unknownException => False

/-- What has to be so for a call to succeed. -/
def Call.MetBy {ℓ : Type} : Call Bool ℓ → Prop
  | createDocumentWithId id _ _ => id ∉ s.listedDocuments
  | deleteDocument id ignore => ignore = false → id ∈ s.listedDocuments
  | multiDeleteDocuments ids ignore => ignore = false → ∀ id ∈ ids, id ∈ s.listedDocuments
  | getDocumentMetadata id => id ∈ s.listedDocuments
  | createCentroid id ignore => ignore = false → id ∉ s.listedCentroids
  | multiCreateCentroids ids ignore => ignore = false → ∀ id ∈ ids, id ∉ s.listedCentroids
  | deleteCentroid id ignore => ignore = false → id ∈ s.listedCentroids
  | multiDeleteCentroids ids ignore => ignore = false → ∀ id ∈ ids, id ∈ s.listedCentroids
  | joinCentroid id => id ∈ s.listedCentroids
  | multiJoinCentroids ids => ∀ id ∈ ids, id ∈ s.listedCentroids
  | addDocumentsToCentroid c ds ignore =>
    c ∈ s.listedCentroids ∧ (∀ d ∈ ds, d ∈ s.listedDocuments) ∧
      (ignore = false → ∀ d ∈ ds, d ∉ s.listedMembers c)
  | removeDocumentsFromCentroid c ds ignore =>
    c ∈ s.listedCentroids ∧ (ignore = false → ∀ d ∈ ds, d ∈ s.listedMembers c)
  | getDocumentSimilarity c d => d ∈ s.listedDocuments ∧ c ∈ s.listedCentroids
  | multiGetDocumentSimilarity cs d => d ∈ s.listedDocuments ∧ ∀ c ∈ cs, c ∈ s.listedCentroids
  | getTextSimilarity c _ _ => c ∈ s.listedCentroids
  | multiGetTextSimilarity cs _ _ => ∀ c ∈ cs, c ∈ s.listedCentroids
  | getCentroidSimilarity a b => a ∈ s.listedCentroids ∧ b ∈ s.listedCentroids
  | listAllDocumentsForCentroid c | listCentroidDocumentRange c _ _ => c ∈ s.listedCentroids
  | listCentroidDocumentRangeFromId c _ _ => c ∈ s.listedCentroids
  | _ => True

end Listings

/-- An outcome is fair if it is a success where a condition is met, and otherwise a failure for a
true reason. -/
inductive Fair (met : Prop) (reason : Failure → Prop) : Except Failure β → Prop where
  | ok (hmet : met) (v : β) : Fair met reason (.ok v)
  | error (hmet : ¬ met) {f : Failure} (hreason : reason f) : Fair met reason (.error f)

namespace Fair

variable {met met' good : Prop} {reason : Failure → Prop} {o : Except Failure β}

/-- What is told of a success does not matter. -/
theorem map (h : Fair met reason o) (g : β → γ) : Fair met reason (o.map g) := by
  cases h with
  | ok hmet v => exact .ok hmet (g v)
  | error hmet hreason => exact .error hmet hreason

/-- The condition can be put in another way. -/
theorem congr (h : Fair met reason o) (hmet : met ↔ met') : Fair met' reason o := by
  cases h with
  | ok hm v => exact .ok (hmet.1 hm) v
  | error hm hreason => exact .error (mt hmet.2 hm) hreason

/-- What is refused where something is bad is fair, if what follows where all is good is fair. -/
theorem guard {bad : Bool} (hbad : bad = true ↔ ¬ good) {f : Failure} (hreason : ¬ good → reason f)
    {t : Store α} {result : Except Failure β × Store α} (h : Fair met reason result.1) :
    Fair (good ∧ met) reason (if bad = true then (.error f, t) else result).1 := by
  split
  · next hrefused =>
    have hgood := hbad.1 hrefused
    exact .error (fun hmet ↦ hgood hmet.1) (hreason hgood)
  · next hallowed =>
    have hgood : good := not_not.1 (mt hbad.2 hallowed)
    exact h.congr (and_iff_right hgood).symm

end Fair

private theorem any_iff {bad : String → Bool} {good : String → Prop}
    (h : ∀ id, bad id = true ↔ ¬ good id) (ids : List String) :
    ids.any bad = true ↔ ¬ ∀ id ∈ ids, good id := by
  simp only [List.any_eq_true, h, not_forall, exists_prop]

private theorem exists_not_good {ids : List String} {good : String → Prop}
    (h : ¬ ∀ id ∈ ids, good id) : ∃ id ∈ ids, ¬ good id := by
  simpa only [not_forall, exists_prop] using h

private theorem fair_checked {bad : String → Bool} {good : String → Prop}
    (h : ∀ id, bad id = true ↔ ¬ good id) (ids : List String) (ignore : Bool) {f : Failure}
    {reason : Failure → Prop} (hreason : (∃ id ∈ ids, ¬ good id) → reason f) (s t : Store α) :
    Fair (ignore = false → ∀ id ∈ ids, good id) reason
      (if !ignore && ids.any bad then (.error f, s) else (.ok (), t) :
        Except Failure Unit × Store α).1 := by
  have hbad : (!ignore && ids.any bad) = true ↔ ¬ (ignore = false → ∀ id ∈ ids, good id) := by
    rw [Bool.and_eq_true, Bool.not_eq_true', any_iff h, Classical.not_imp]
  have hdone : Fair True reason ((.ok (), t) : Except Failure Unit × Store α).1 := .ok trivial ()
  have hguard := hdone.guard (t := s) hbad fun hnot ↦
    hreason (exists_not_good (Classical.not_imp.1 hnot).2)
  exact hguard.congr (and_iff_left trivial)

namespace Store

variable [Weight α] {s : Store α}

/-- What the listings of a store say for a failure of a request that names some ids. -/
def Supports (s : Store α) (x : Subjects) (f : Failure) : Prop :=
  f.TrueOf s x.centroids (f.idsIn x)

/-- The centroids that are listed are those that exist. -/
theorem Intact.mem_listedCentroids (h : s.Intact) (id : String) :
    id ∈ s.listedCentroids ↔ s.hasCentroid id = true :=
  h.mem_centroids id

/-- The documents that are listed are those that exist. -/
theorem Intact.mem_listedDocuments (h : s.Intact) (id : String) :
    id ∈ s.listedDocuments ↔ s.hasDocument id = true :=
  h.mem_documents id

private theorem Intact.centroid_not_listed (h : s.Intact) {c : String}
    (hc : s.members.get? c = none) : c ∉ s.listedCentroids := by
  rw [h.mem_listedCentroids, hasCentroid_of_get?_none hc]
  exact Bool.false_ne_true

/-- A centroid that is found is listed. -/
theorem Intact.centroid_listed (h : s.Intact) {c : String} {centroid : Centroid α}
    (hc : s.members.get? c = some centroid) : c ∈ s.listedCentroids :=
  (h.mem_listedCentroids c).2 (hasCentroid_of_get? hc)

private theorem Intact.document_not_listed (h : s.Intact) {d : String}
    (hd : s.contents.get? d = none) :
    d ∉ s.listedDocuments := by
  rw [h.mem_listedDocuments, hasDocument, Dict.contains, hd]
  exact Bool.false_ne_true

private theorem Intact.document_listed (h : s.Intact) {d : String} {document : Document α}
    (hd : s.contents.get? d = some document) : d ∈ s.listedDocuments :=
  (h.mem_listedDocuments d).2 (Option.isSome_iff_exists.2 ⟨document, hd⟩)

/-- The members of a centroid that is found are listed. -/
theorem listedMembers_of_get? {c : String} {centroid : Centroid α}
    (hc : s.members.get? c = some centroid) : s.listedMembers c = centroid.documents := by
  show listIn (s.membersOf c id) = _
  rw [membersOf, hc]
  rfl

private theorem Intact.missing_document_iff (h : s.Intact) (id : String) :
    (!s.hasDocument id) = true ↔ ¬ id ∈ s.listedDocuments := by
  rw [h.mem_listedDocuments, Bool.not_eq_true', Bool.not_eq_true]

private theorem Intact.missing_centroid_iff (h : s.Intact) (id : String) :
    (!s.hasCentroid id) = true ↔ ¬ id ∈ s.listedCentroids := by
  rw [h.mem_listedCentroids, Bool.not_eq_true', Bool.not_eq_true]

private theorem Intact.existing_centroid_iff (h : s.Intact) (id : String) :
    s.hasCentroid id = true ↔ ¬ id ∉ s.listedCentroids := by
  rw [h.mem_listedCentroids, not_not]

private theorem fair_deleteDocuments (h : s.Intact) (ids : List String) (ignore : Bool) :
    Fair (ignore = false → ∀ id ∈ ids, id ∈ s.listedDocuments) (s.Supports ⟨[], ids⟩)
      (s.deleteDocuments ids ignore).1 :=
  fair_checked h.missing_document_iff ids ignore (fun hmissing ↦ hmissing) s _

private theorem fair_createCentroids (h : s.Intact) (ids : List String) (ignore : Bool) :
    Fair (ignore = false → ∀ id ∈ ids, id ∉ s.listedCentroids) (s.Supports ⟨ids, []⟩)
      (s.createCentroids ids ignore).1 := by
  apply fair_checked h.existing_centroid_iff
  rintro ⟨id, hid, hlisted⟩
  exact ⟨id, hid, not_not.1 hlisted⟩

private theorem fair_deleteCentroids (h : s.Intact) (ids : List String) (ignore : Bool) :
    Fair (ignore = false → ∀ id ∈ ids, id ∈ s.listedCentroids) (s.Supports ⟨ids, []⟩)
      (s.deleteCentroids ids ignore).1 :=
  fair_checked h.missing_centroid_iff ids ignore (fun hmissing ↦ hmissing) s _

private theorem fair_joinCentroids (h : s.Intact) (ids : List String) :
    Fair (∀ id ∈ ids, id ∈ s.listedCentroids) (s.Supports ⟨ids, []⟩) (s.joinCentroids ids).1 := by
  have hbad := any_iff h.missing_centroid_iff ids
  have hjoined : Fair True (s.Supports ⟨ids, []⟩)
      ((.ok (s.joinAll ids).1, (s.joinAll ids).2) : Except Failure (List Bool) × Store α).1 :=
    .ok trivial _
  exact (hjoined.guard hbad exists_not_good).congr (and_iff_left trivial)

private theorem fair_addDocuments (h : s.Intact) (c : String) (ds : List String) (ignore : Bool) :
    Fair (c ∈ s.listedCentroids ∧ (∀ d ∈ ds, d ∈ s.listedDocuments) ∧
        (ignore = false → ∀ d ∈ ds, d ∉ s.listedMembers c))
      (s.Supports ⟨[c], ds⟩) (s.addDocuments c ds ignore).1 := by
  unfold addDocuments
  split
  · next hc =>
    have hmissing := h.centroid_not_listed hc
    exact .error (fun hmet ↦ hmissing hmet.1) ⟨c, List.mem_cons_self, hmissing⟩
  · next centroid hc =>
    have hlisted := h.centroid_listed hc
    have hmember (d : String) : centroid.documents.contains d = true ↔ ¬ d ∉ s.listedMembers c := by
      rw [listedMembers_of_get? hc, not_not, List.contains_iff_mem]
    refine Fair.congr ?_ (and_iff_right hlisted).symm
    apply Fair.guard (any_iff h.missing_document_iff ds) exists_not_good
    apply fair_checked hmember
    rintro ⟨d, hd, hin⟩
    exact ⟨c, rfl, hlisted, d, hd, not_not.1 hin⟩

private theorem fair_removeDocuments (h : s.Intact) (c : String) (ds : List String)
    (ignore : Bool) :
    Fair (c ∈ s.listedCentroids ∧ (ignore = false → ∀ d ∈ ds, d ∈ s.listedMembers c))
      (s.Supports ⟨[c], ds⟩) (s.removeDocuments c ds ignore).1 := by
  unfold removeDocuments
  split
  · next hc =>
    have hmissing := h.centroid_not_listed hc
    exact .error (fun hmet ↦ hmissing hmet.1) ⟨c, List.mem_cons_self, hmissing⟩
  · next centroid hc =>
    have hlisted := h.centroid_listed hc
    have hother (d : String) : (!centroid.documents.contains d) = true ↔
        ¬ d ∈ s.listedMembers c := by
      rw [listedMembers_of_get? hc, Bool.not_eq_true', ← Bool.not_eq_true, List.contains_iff_mem]
    refine Fair.congr ?_ (and_iff_right hlisted).symm
    apply fair_checked hother
    rintro ⟨d, hd, hout⟩
    exact ⟨c, rfl, hlisted, d, hd, hout⟩

private theorem fair_membersOf (h : s.Intact) (c : String) (select : List String → List String)
    (ds : List String) :
    Fair (c ∈ s.listedCentroids) (s.Supports ⟨[c], ds⟩) (s.membersOf c select) := by
  unfold membersOf
  split
  · next hc =>
    have hmissing := h.centroid_not_listed hc
    exact .error hmissing ⟨c, List.mem_cons_self, hmissing⟩
  · next centroid hc => exact .ok (h.centroid_listed hc) _

private theorem fair_createDocumentWithId (h : s.Intact) (id text : String) (language : Int32) :
    Fair (id ∉ s.listedDocuments) (s.Supports ⟨[], [id]⟩)
      (s.createDocumentWithId id text language).1 := by
  unfold createDocumentWithId
  split
  · next hid =>
    have hlisted := (h.mem_listedDocuments id).2 hid
    exact .error (not_not.2 hlisted) ⟨id, rfl, hlisted⟩
  · next hid => exact .ok (mt (h.mem_listedDocuments id).1 hid) id

private theorem fair_metadataOf (h : s.Intact) (hknown : s.KnowsLanguages) (id : String) :
    Fair (id ∈ s.listedDocuments) (s.Supports ⟨[], [id]⟩) (s.metadataOf id) := by
  unfold metadataOf
  split
  · next hid =>
    have hmissing := h.document_not_listed hid
    exact .error hmissing ⟨id, List.mem_cons_self, hmissing⟩
  · next document hid =>
    obtain ⟨language, hlanguage⟩ := hknown id document hid
    rw [← hlanguage, Language.ofNumber?_number]
    exact .ok (h.document_listed hid) _

private theorem fair_scores (h : s.Intact) (v : TermVector α) (cs ds : List String)
    (found : Dict α) :
    Fair (∀ c ∈ cs, c ∈ s.listedCentroids) (s.Supports ⟨cs, ds⟩) (s.scores v cs found) := by
  -- The ids reported are all of them, so the reason is kept general for the induction.
  suffices hscores : ∀ reason : Failure → Prop,
      ((∃ c ∈ cs, c ∉ s.listedCentroids) → reason .centroidDoesNotExist) →
      Fair (∀ c ∈ cs, c ∈ s.listedCentroids) reason (s.scores v cs found) from
    hscores _ fun hmissing ↦ hmissing
  induction cs generalizing found with
  | nil => exact fun _ _ ↦ .ok (List.forall_mem_nil _) found
  | cons c cs ih =>
    intro reason hreason
    unfold scores
    split
    · next hc =>
      have hmissing := h.centroid_not_listed hc
      exact .error (fun hmet ↦ hmissing (hmet c List.mem_cons_self))
        (hreason ⟨c, List.mem_cons_self, hmissing⟩)
    · next centroid hc =>
      have hrest := ih (found.insert c (centroid.vector.dot v)) reason fun ⟨k, hk, hmissing⟩ ↦
        hreason ⟨k, List.mem_cons_of_mem c hk, hmissing⟩
      refine hrest.congr ?_
      rw [List.forall_mem_cons]
      exact (and_iff_right (h.centroid_listed hc)).symm

private theorem fair_documentScores (h : s.Intact) (cs : List String) (d : String) :
    Fair (d ∈ s.listedDocuments ∧ ∀ c ∈ cs, c ∈ s.listedCentroids) (s.Supports ⟨cs, [d]⟩)
      (s.documentScores cs d) := by
  unfold documentScores
  split
  · next hd =>
    have hmissing := h.document_not_listed hd
    exact .error (fun hmet ↦ hmissing hmet.1) ⟨d, List.mem_cons_self, hmissing⟩
  · next document hd =>
    have hlisted := h.document_listed hd
    exact (fair_scores h document.vector cs [d] .empty).congr (and_iff_right hlisted).symm

private theorem fair_centroidScore (h : s.Intact) (a b : String) :
    Fair (a ∈ s.listedCentroids ∧ b ∈ s.listedCentroids) (s.Supports ⟨[a, b], []⟩)
      (s.centroidScore a b) := by
  unfold centroidScore
  split
  · next ha hb => exact .ok ⟨h.centroid_listed ha, h.centroid_listed hb⟩ _
  · next hnone =>
    have hnot : ¬ (a ∈ s.listedCentroids ∧ b ∈ s.listedCentroids) := by
      rintro ⟨ha, hb⟩
      obtain ⟨first, hfirst⟩ := exists_of_hasCentroid ((h.mem_listedCentroids a).1 ha)
      obtain ⟨second, hsecond⟩ := exists_of_hasCentroid ((h.mem_listedCentroids b).1 hb)
      exact hnone first second hfirst hsecond
    apply Fair.error hnot
    by_cases ha : a ∈ s.listedCentroids
    · exact ⟨b, List.mem_cons_of_mem a List.mem_cons_self, fun hb ↦ hnot ⟨ha, hb⟩⟩
    · exact ⟨a, List.mem_cons_self, ha⟩

/-- Whatever is asked, the answer is fair. -/
theorem fair_answer (h : s.Intact) (hknown : s.KnowsLanguages) (r : Request) :
    Fair (r.MetBy s) (s.Supports r.subjects) (s.answer r).1 := by
  cases r with
  | createDocumentWithId id text l => exact fair_createDocumentWithId h id text l
  | deleteDocument id b =>
    exact ((fair_deleteDocuments h [id] b).map _).congr
      (imp_congr_right fun _ ↦ List.forall_mem_singleton)
  | multiDeleteDocuments ids b => exact (fair_deleteDocuments h ids b).map _
  | getDocumentMetadata id => exact fair_metadataOf h hknown id
  | createCentroid id b =>
    exact ((fair_createCentroids h [id] b).map _).congr
      (imp_congr_right fun _ ↦ List.forall_mem_singleton)
  | multiCreateCentroids ids b => exact (fair_createCentroids h ids b).map _
  | deleteCentroid id b =>
    exact ((fair_deleteCentroids h [id] b).map _).congr
      (imp_congr_right fun _ ↦ List.forall_mem_singleton)
  | multiDeleteCentroids ids b => exact (fair_deleteCentroids h ids b).map _
  | joinCentroid id => exact ((fair_joinCentroids h [id]).map _).congr List.forall_mem_singleton
  | multiJoinCentroids ids => exact fair_joinCentroids h ids
  | addDocumentsToCentroid c ds b => exact fair_addDocuments h c ds b
  | removeDocumentsFromCentroid c ds b => exact fair_removeDocuments h c ds b
  | getDocumentSimilarity c d =>
    exact ((fair_documentScores h [c] d).map _).congr
      (and_congr_right fun _ ↦ List.forall_mem_singleton)
  | multiGetDocumentSimilarity cs d => exact fair_documentScores h cs d
  | getTextSimilarity c text l =>
    exact ((fair_scores h (.ofText text) [c] [] .empty).map _).congr List.forall_mem_singleton
  | multiGetTextSimilarity cs text l => exact fair_scores h (.ofText text) cs [] .empty
  | getCentroidSimilarity a b => exact fair_centroidScore h a b
  | listAllDocumentsForCentroid c => exact fair_membersOf h c id []
  | listCentroidDocumentRange c offset count => exact fair_membersOf h c (page offset count) []
  | listCentroidDocumentRangeFromId c d count => exact fair_membersOf h c (pageFrom d count) [d]
  | _ => exact .ok trivial _

end Store

end CentroidRpc
