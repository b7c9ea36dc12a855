import CentroidRpc.Proofs.Store.Listings
import CentroidRpc.Proofs.Store.Repeating

/-!
# What has been created may be deleted again

Ids that are new are mentioned nowhere in a store. So when documents or centroids are created under
new ids and deleted at once, the store is as it was, and a centroid that gets new members and loses
them again keeps only its mark (`Store.Reachable.undone`).
-/

namespace CentroidRpc

private theorem filter_withNew {l ids : List String} (h : ∀ id ∈ ids, id ∉ l) :
    (withNew l ids).filter (· ∉ ids) = l := by
  have hold : l.filter (· ∉ ids) = l := by
    simp only [List.filter_eq_self, decide_eq_true_eq]
    exact fun id hmem hid ↦ h id hid hmem
  have hnew : (ids.filter (· ∉ l)).eraseDups.filter (· ∉ ids) = [] := by
    simp only [List.filter_eq_nil_iff, decide_eq_true_eq, not_not]
    intro id hid
    exact (List.mem_filter.1 (List.mem_eraseDups.1 hid)).1
  rw [withNew, List.filter_append, hold, hnew, List.append_nil]

/-- A centroid whose mark is set if documents have come and left. -/
def Centroid.marked {α : Type} (c : Centroid α) (ds : List String) : Centroid α :=
  { c with dirty := c.dirty || !ds.isEmpty }

attribute [ext] Centroid Store

/-- New members that leave again leave only the mark behind. -/
theorem Centroid.removeMembers_foldl_addMember {α : Type} {c : Centroid α} {ds : List String}
    (h : ∀ d ∈ ds, d ∉ c.documents) : (ds.foldl addMember c).removeMembers ds = c.marked ds := by
  apply Centroid.ext
  · show (ds.foldl addMember c).documents.filter (· ∉ ds) = c.documents
    rw [documents_foldl_addMember, filter_withNew h]
  · exact vector_foldl_addMember c ds
  · rw [dirty_removeMembers, dirty_foldl_addMember]
    cases ds with
    | nil => simp [marked]
    | cons d ds => simp [marked, h d List.mem_cons_self]

namespace Store

variable {α : Type} {s : Store α}

private theorem deleteDocuments_of_exist {ids : List String}
    (h : ∀ id ∈ ids, s.hasDocument id = true) (ignoreMissing : Bool) :
    s.deleteDocuments ids ignoreMissing = (.ok (), ids.foldl dropDocument s) := by
  have hnone : ids.any (!s.hasDocument ·) = false := by simpa using h
  simp [deleteDocuments, hnone]

private theorem deleteCentroids_of_exist {ids : List String}
    (h : ∀ id ∈ ids, s.hasCentroid id = true) (ignoreMissing : Bool) :
    s.deleteCentroids ids ignoreMissing = (.ok (), ids.foldl dropCentroid s) := by
  have hnone : ids.any (!s.hasCentroid ·) = false := by simpa using h
  simp [deleteCentroids, hnone]

private theorem createCentroids_of_ok {ids : List String} {u : Unit}
    (h : (s.createCentroids ids false).1 = .ok u) :
    (∀ id ∈ ids, s.hasCentroid id = false) ∧
      s.createCentroids ids false = (.ok (), ids.foldl putCentroid s) := by
  unfold createCentroids at h ⊢
  split at h
  · cases h
  · next hnew => simpa using hnew

private theorem addDocuments_of_ok {centroid : String} {ds : List String} {u : Unit}
    (h : (s.addDocuments centroid ds false).1 = .ok u) :
    ∃ c, s.members.get? centroid = some c ∧ (∀ d ∈ ds, d ∉ c.documents) ∧
      s.addDocuments centroid ds false =
        (.ok (), s.modifyCentroid centroid (ds.foldl Centroid.addMember)) := by
  cases hc : s.members.get? centroid with
  | none => simp [addDocuments, hc] at h
  | some c =>
    rw [modifyCentroid, ← Dict.insert_eq_modify hc]
    by_cases hmissing : ds.any (!s.hasDocument ·) = true
    · simp [addDocuments, hc, hmissing] at h
    · by_cases hmember : ds.any c.documents.contains = true
      · simp [addDocuments, hc, hmissing, hmember] at h
      · refine ⟨c, rfl, by simpa using hmember, ?_⟩
        simp [addDocuments, hc, hmissing, hmember]

private theorem removeDocuments_of_members {centroid : String} {c : Centroid α}
    (hc : s.members.get? centroid = some c) {ds : List String} (h : ∀ d ∈ ds, d ∈ c.documents)
    (ignoreOthers : Bool) : s.removeDocuments centroid ds ignoreOthers =
      (.ok (), s.modifyCentroid centroid (·.removeMembers ds)) := by
  have hnone : ds.any (!c.documents.contains ·) = false := by simpa using h
  rw [modifyCentroid, ← Dict.insert_eq_modify hc]
  simp only [removeDocuments, hc, hnone, Bool.and_false, Bool.false_eq_true, if_false]

private theorem Intact.foldl_putCentroid (h : s.Intact) (ids : List String) :
    (ids.foldl Store.putCentroid s).Intact :=
  ids.foldlRecOn _ h fun _ hs id _ ↦ hs.putCentroid id

/-- Centroids that are created where there are none and then deleted leave nothing behind. -/
theorem Intact.foldl_dropCentroid_foldl_putCentroid (h : s.Intact) {ids : List String}
    (hnew : ∀ id ∈ ids, s.hasCentroid id = false) :
    ids.foldl Store.dropCentroid (ids.foldl Store.putCentroid s) = s := by
  have hput (s : Store α) (id : String) :
      (s.putCentroid id).withoutCentroids = s.withoutCentroids := by
    unfold Store.putCentroid
    split <;> rfl
  have hdrop (s : Store α) (id : String) :
      (s.dropCentroid id).withoutCentroids = s.withoutCentroids := by
    unfold Store.dropCentroid
    split <;> rfl
  refine ext_of_members (withoutMembers_of_withoutCentroids ?_ ?_) fun id ↦ ?_
  · rw [foldl_keeps hdrop, foldl_keeps hput]
  · have hlisted : ∀ id ∈ ids, id ∉ s.centroids := by
      intro id hid
      simp [h.mem_centroids, hnew id hid]
    rw [(h.foldl_putCentroid ids).filter_foldl Intact.dropCentroid Intact.centroids_dropCentroid,
      h.centroids_foldl_putCentroid, filter_withNew hlisted]
  · rw [get?_foldl_dropCentroid, get?_foldl_putCentroid]
    by_cases hid : id ∈ ids
    · have hnone : s.members.get? id = none := by
        simpa [hasCentroid, Dict.contains] using hnew id hid
      simp [hid, hnone]
    · simp [hid]

/-- Members that come into a centroid and leave it again leave only the mark behind. -/
theorem removeMembers_addMembers {centroid : String} {c : Centroid α}
    (hc : s.members.get? centroid = some c) {ds : List String} (h : ∀ d ∈ ds, d ∉ c.documents) :
    (s.modifyCentroid centroid (ds.foldl Centroid.addMember)).modifyCentroid centroid
      (·.removeMembers ds) = s.modifyCentroid centroid (·.marked ds) := by
  rw [modifyCentroid_modifyCentroid, modifyCentroid, modifyCentroid, ← Dict.insert_eq_modify hc,
    ← Dict.insert_eq_modify hc, Centroid.removeMembers_foldl_addMember h]

variable [Weight α]

private theorem hasDocument_putDocument (s : Store α) (id text : String) (language : Int32)
    (k : String) :
    (s.putDocument id text language).hasDocument k = (k == id || s.hasDocument k) :=
  Dict.contains_insert s.contents id k _

/-- A document that is stored under a new id and then deleted leaves nothing behind. -/
theorem Intact.dropDocument_putDocument (h : s.Intact) {id : String}
    (hnew : s.hasDocument id = false) (text : String) (language : Int32) :
    (s.putDocument id text language).dropDocument id = s := by
  have hexists : (s.putDocument id text language).hasDocument id = true := by
    simp [hasDocument_putDocument]
  have hdocuments : (s.documents ++ [id]).filter (· ≠ id) = s.documents := by
    have hlisted : id ∉ s.documents := by simp [h.mem_documents, hnew]
    rw [List.filter_append, filter_ne_of_not_mem hlisted]
    simp
  have hmembers : s.members.map (·.removeMembers [id]) = s.members := by
    apply Dict.map_eq_self
    intro k c hc
    -- A document that did not exist was a member of no centroid.
    apply Centroid.removeMembers_of_forall_not_mem
    intro d hd hmem
    rw [List.mem_singleton.1 hd] at hmem
    simp [(h.members k c hc).stored id hmem] at hnew
  rw [Store.dropDocument, if_pos hexists]
  exact Store.ext rfl hdocuments (Dict.erase_insert hnew _) rfl hmembers

private theorem createDocumentWithId_of_ok {id text v : String} {language : Int32}
    (h : (s.createDocumentWithId id text language).1 = .ok v) :
    s.hasDocument id = false ∧
      s.createDocumentWithId id text language = (.ok id, s.putDocument id text language) := by
  unfold createDocumentWithId at h ⊢
  split at h
  · cases h
  · next hnew => simpa using hnew

/-- What has been created may be undone at once. A document that was stored under a chosen id can be
deleted, and centroids that were all new can be deleted together, and then the store is exactly what
it was before. Documents that have come into a centroid, none of which was a member, can be taken
out of it together, and then the store is what it was before, but for the mark of the centroid,
which is set if there were any such documents. None of this depends on whether an id is named more
than once, or on whether the undoing is to ignore what is missing. -/
theorem Reachable.undone (h : s.Reachable) (ignore : Bool) :
    (∀ d text language, s.Succeeds (.createDocumentWithId d text language) →
      (s.answer (.createDocumentWithId d text language)).2.answer (.deleteDocument d ignore) =
        (.ok d, s)) ∧
    (∀ ids, s.Succeeds (.multiCreateCentroids ids false) →
      (s.answer (.multiCreateCentroids ids false)).2.answer (.multiDeleteCentroids ids ignore) =
        (.ok ids, s)) ∧
    ∀ c ds, s.Succeeds (.addDocumentsToCentroid c ds false) →
      (s.answer (.addDocumentsToCentroid c ds false)).2.answer
          (.removeDocumentsFromCentroid c ds ignore) =
        (.ok (), s.modifyCentroid c (·.marked ds)) := by
  have hs := h.intact
  refine ⟨fun d text language ⟨v, hv⟩ ↦ ?_, fun ids ⟨v, hv⟩ ↦ ?_, fun id ds ⟨v, hv⟩ ↦ ?_⟩
  · have hundone : (s.createDocumentWithId d text language).2.deleteDocuments [d] ignore =
        (.ok (), s) := by
      obtain ⟨hnew, hdone⟩ := createDocumentWithId_of_ok hv
      have hexists : ∀ id ∈ [d], (s.putDocument d text language).hasDocument id = true := by
        simp [hasDocument_putDocument]
      rw [hdone, deleteDocuments_of_exist hexists]
      exact congrArg _ (hs.dropDocument_putDocument hnew text language)
    exact congrArg (fun o ↦ (o.1.map fun _ ↦ d, o.2)) hundone
  · have hundone : (s.createCentroids ids false).2.deleteCentroids ids ignore = (.ok (), s) := by
      obtain ⟨u, hu⟩ := ok_of_map hv
      obtain ⟨hnew, hdone⟩ := createCentroids_of_ok hu
      have hexist : ∀ id ∈ ids, (ids.foldl putCentroid s).hasCentroid id = true :=
        fun id hid ↦ lasting_putCentroid.does_foldl s hid
      rw [hdone, deleteCentroids_of_exist hexist]
      exact congrArg _ (hs.foldl_dropCentroid_foldl_putCentroid hnew)
    exact congrArg (fun o ↦ (o.1.map fun _ ↦ ids, o.2)) hundone
  · obtain ⟨c, hc, hnew, hdone⟩ := addDocuments_of_ok hv
    have hadded : (s.modifyCentroid id (ds.foldl Centroid.addMember)).members.get? id =
        some (ds.foldl Centroid.addMember c) := by
      rw [get?_modifyCentroid, hc, Option.map_some]
    have hmembers : ∀ d ∈ ds, d ∈ (ds.foldl Centroid.addMember c).documents :=
      fun d hd ↦ Centroid.mem_foldl_addMember.2 (.inl hd)
    show (s.addDocuments id ds false).2.removeDocuments id ds ignore = _
    rw [hdone, removeDocuments_of_members hadded hmembers, removeMembers_addMembers hc hnew]

/-- One of two documents is a member of a centroid that has been joined since. -/
def oneJoinedOfTwo : List Request :=
  [.createDocumentWithId "a" "red" 0, .createDocument "blue" 0, .createCentroid "x" false,
    .addDocumentsToCentroid "x" ["a"] false, .joinCentroid "x"]

/-- A document comes and goes, centroids do of which one is named twice, and so does a second member
that is named twice; only the last one leaves the centroid marked. -/
theorem undone_oneJoinedOfTwo :
    let s : Store Float := empty.run oneJoinedOfTwo
    s.Reachable ∧ s.Succeeds (.createDocumentWithId "b" "green" 2) ∧
    s.Succeeds (.multiCreateCentroids ["y", "z", "y"] false) ∧
    s.Succeeds (.addDocumentsToCentroid "x" ["doc-1", "doc-1"] false) ∧
    (s.answer (.createDocumentWithId "b" "green" 2)).2.answer (.deleteDocument "b" false) =
      (.ok "b", s) ∧
    (s.answer (.multiCreateCentroids ["y", "z", "y"] false)).2.answer
      (.multiDeleteCentroids ["y", "z", "y"] false) = (.ok ["y", "z", "y"], s) ∧
    (s.answer (.addDocumentsToCentroid "x" ["doc-1", "doc-1"] false)).2.answer
      (.removeDocumentsFromCentroid "x" ["doc-1", "doc-1"] false) =
        (.ok (), s.modifyCentroid "x" (·.marked ["doc-1", "doc-1"])) ∧
    (s.answer (.joinCentroid "x")).1 = .ok false ∧
    ((s.modifyCentroid "x" (·.marked ["doc-1", "doc-1"])).answer (.joinCentroid "x")).1 =
      .ok true := by
  intro s
  have hs : s.Reachable := ⟨oneJoinedOfTwo, rfl⟩
  have hdocument : s.Succeeds (.createDocumentWithId "b" "green" 2) := ⟨"b", rfl⟩
  have hcentroids : s.Succeeds (.multiCreateCentroids ["y", "z", "y"] false) := ⟨_, rfl⟩
  have hmembers : s.Succeeds (.addDocumentsToCentroid "x" ["doc-1", "doc-1"] false) := ⟨(), rfl⟩
  obtain ⟨hdeleted, hdropped, hremoved⟩ := hs.undone false
  exact ⟨hs, hdocument, hcentroids, hmembers, hdeleted "b" "green" 2 hdocument,
    hdropped ["y", "z", "y"] hcentroids, hremoved "x" ["doc-1", "doc-1"] hmembers, rfl, rfl⟩

end Store

end CentroidRpc
