import CentroidRpc.Proofs.Store.Change

/-!
# What every store keeps to

The lists of a store and what is kept beside them name the same documents and the same centroids,
and the members of each centroid are documents that are stored (`Store.Intact`). Every small change
keeps this, so it holds of every store that requests lead to.
-/

namespace CentroidRpc

variable {α : Type}

/-- The sum of vectors, from the first one on. -/
def TermVector.sum [Weight α] (vs : List (TermVector α)) : TermVector α := vs.foldl add .empty

/-- The documents that the answer to a listing names; other answers list none. -/
def Request.documentsListed : (r : Request) → Except Failure (r.Answer α) → List String
  | .listAllDocuments, o => listIn o
  | .listDocumentRange .., o => listIn o
  | .listDocumentRangeFromId .., o => listIn o
  | .listUnusedDocuments _, o => listIn o
  | .listAllDocumentsForCentroid _, o => listIn o
  | .listCentroidDocumentRange .., o => listIn o
  | .listCentroidDocumentRangeFromId .., o => listIn o
  | _, _ => []

private theorem nodup_append_new {l : List String} {id : String} (h : l.Nodup) (hnew : id ∉ l) :
    (l ++ [id]).Nodup := by
  rw [List.nodup_append]
  refine ⟨h, List.pairwise_singleton .., ?_⟩
  rintro d hd _ hd' rfl
  rw [List.mem_singleton.1 hd'] at hd
  exact hnew hd

namespace Centroid

/-- The members of a centroid are apart, and each of them is stored. -/
structure Within (c : Centroid α) (stored : String → Bool) : Prop where
  nodup : c.documents.Nodup
  stored : ∀ d ∈ c.documents, stored d = true

variable {c : Centroid α} {stored stored' : String → Bool}

private theorem within_empty (stored : String → Bool) : (empty : Centroid α).Within stored :=
  ⟨List.nodup_nil, fun _ hd ↦ absurd hd List.not_mem_nil⟩

private theorem Within.mono (h : c.Within stored) (hle : ∀ d, stored d = true → stored' d = true) :
    c.Within stored' :=
  ⟨h.nodup, fun d hd ↦ hle d (h.stored d hd)⟩

private theorem Within.addMember (h : c.Within stored) {document : String}
    (hstored : stored document = true) : (c.addMember document).Within stored := by
  unfold Centroid.addMember
  split
  · exact h
  · next hnew =>
    constructor
    · exact nodup_append_new h.nodup hnew
    · intro d hd
      rcases List.mem_append.1 hd with hd | hd
      · exact h.stored d hd
      · rw [List.mem_singleton.1 hd]
        exact hstored

private theorem Within.removeMembers (h : c.Within stored) {documents : List String}
    (hle : ∀ d, d ∉ documents → stored d = true → stored' d = true) :
    (c.removeMembers documents).Within stored' := by
  constructor
  · exact h.nodup.filter _
  · intro d hd
    obtain ⟨hd, hkept⟩ := List.mem_filter.1 hd
    exact hle d (of_decide_eq_true hkept) (h.stored d hd)

end Centroid

namespace Store

/-- The parts of a store fit together. -/
structure Intact (s : Store α) : Prop where
  centroids_nodup : s.centroids.Nodup
  mem_centroids : ∀ id, id ∈ s.centroids ↔ s.hasCentroid id = true
  mem_documents : ∀ id, id ∈ s.documents ↔ s.hasDocument id = true
  members : ∀ id c, s.members.get? id = some c → c.Within s.hasDocument

private theorem intact_empty : (empty : Store α).Intact where
  centroids_nodup := List.nodup_nil
  mem_centroids _ := ⟨fun h ↦ absurd h List.not_mem_nil, nofun⟩
  mem_documents _ := ⟨fun h ↦ absurd h List.not_mem_nil, nofun⟩
  members _ _ h := nomatch h

variable {s s' : Store α}

private theorem Intact.modifyCentroid (h : s.Intact) (id : String) {f : Centroid α → Centroid α}
    (hf : ∀ c : Centroid α, c.Within s.hasDocument → (f c).Within s.hasDocument) :
    (s.modifyCentroid id f).Intact where
  centroids_nodup := h.centroids_nodup
  mem_centroids k := by
    show k ∈ s.centroids ↔ (s.members.modify id f).contains k = true
    rw [Dict.contains_modify]
    exact h.mem_centroids k
  mem_documents := h.mem_documents
  members k c hc := by
    have hget : (s.members.modify id f).get? k = some c := hc
    rw [Dict.get?_modify] at hget
    split at hget
    · obtain ⟨before, hbefore, rfl⟩ := Option.map_eq_some_iff.1 hget
      exact hf before (h.members k before hbefore)
    · exact h.members k c hget

/-- Deleting a document keeps a store intact: it leaves the list, the contents and all centroids. -/
theorem Intact.dropDocument (h : s.Intact) (id : String) : (s.dropDocument id).Intact := by
  unfold Store.dropDocument
  split
  · have hstored (d : String) : (s.contents.erase id).contains d = (d != id && s.hasDocument d) :=
      Dict.contains_erase s.contents id d
    refine ⟨h.centroids_nodup, fun k ↦ ?_, fun d ↦ ?_, fun k c hc ↦ ?_⟩
    · show k ∈ s.centroids ↔ (s.members.map _).contains k = true
      rw [Dict.contains_map]
      exact h.mem_centroids k
    · show d ∈ s.documents.filter (· ≠ id) ↔ (s.contents.erase id).contains d = true
      rw [hstored, List.mem_filter, h.mem_documents, Bool.and_eq_true, bne_iff_ne, and_comm,
        decide_eq_true_iff]
    · have hget : (s.members.map (·.removeMembers [id])).get? k = some c := hc
      rw [Dict.get?_map] at hget
      obtain ⟨before, hbefore, rfl⟩ := Option.map_eq_some_iff.1 hget
      apply (h.members k before hbefore).removeMembers
      intro d hne hd
      show (s.contents.erase id).contains d = true
      rw [hstored, Bool.and_eq_true, bne_iff_ne]
      exact ⟨fun heq ↦ hne (List.mem_singleton.2 heq), hd⟩
  · exact h

/-- Creating a centroid keeps a store intact: it comes into the list if it is new. -/
theorem Intact.putCentroid (h : s.Intact) (id : String) : (s.putCentroid id).Intact := by
  unfold Store.putCentroid
  split
  · exact h
  · next hnew =>
    refine ⟨?_, fun k ↦ ?_, h.mem_documents, fun k c hc ↦ ?_⟩
    · apply nodup_append_new h.centroids_nodup
      rwa [h.mem_centroids]
    · show k ∈ s.centroids ++ [id] ↔ (s.members.insert id .empty).contains k = true
      rw [Dict.contains_insert, List.mem_append, List.mem_singleton, h.mem_centroids,
        Bool.or_eq_true, beq_iff_eq, or_comm]
      rfl
    · have hget : (s.members.insert id .empty).get? k = some c := hc
      rw [Dict.get?_insert] at hget
      split at hget
      · rw [← Option.some.inj hget]
        exact Centroid.within_empty _
      · exact h.members k c hget

/-- Deleting a centroid keeps a store intact: it leaves the list. -/
theorem Intact.dropCentroid (h : s.Intact) (id : String) : (s.dropCentroid id).Intact := by
  unfold Store.dropCentroid
  split
  · refine ⟨h.centroids_nodup.filter _, fun k ↦ ?_, h.mem_documents, fun k c hc ↦ ?_⟩
    · show k ∈ s.centroids.filter (· ≠ id) ↔ (s.members.erase id).contains k = true
      rw [Dict.contains_erase, List.mem_filter, h.mem_centroids, Bool.and_eq_true, bne_iff_ne,
        and_comm, decide_eq_true_iff]
      rfl
    · have hget : (s.members.erase id).get? k = some c := hc
      rw [Dict.get?_erase] at hget
      split at hget
      · nomatch hget
      · exact h.members k c hget
  · exact h

private theorem mem_of_mem_page {offset count : UInt64} {l : List String} {id : String}
    (h : id ∈ page offset count l) : id ∈ l :=
  List.mem_of_mem_drop (List.mem_of_mem_take h)

private theorem mem_of_mem_pageFrom {first : String} {count : UInt64} {l : List String}
    {id : String} (h : id ∈ pageFrom first count l) : id ∈ l :=
  (List.dropWhile_sublist _).mem (List.mem_of_mem_take h)

private theorem Intact.mem_membersOf (h : s.Intact) {centroid : String}
    {select : List String → List String} (hselect : ∀ l, ∀ d ∈ select l, d ∈ l) {d : String}
    (hd : d ∈ listIn (s.membersOf centroid select)) : s.hasDocument d = true := by
  unfold membersOf at hd
  split at hd
  · exact absurd hd List.not_mem_nil
  · next c hc => exact (h.members centroid c hc).stored d (hselect _ d hd)

variable [Weight α]

private theorem Intact.putDocument (h : s.Intact) (id text : String) (language : Int32)
    (order : EntryOrder α) : (s.putDocument id text language order).Intact := by
  have hstored (d : String) : (s.putDocument id text language order).hasDocument d =
      (d == id || s.hasDocument d) := Dict.contains_insert s.contents id d _
  refine ⟨h.centroids_nodup, h.mem_centroids, fun d ↦ ?_, fun k c hc ↦ ?_⟩
  · show d ∈ s.documents ++ [id] ↔ _
    rw [hstored, List.mem_append, List.mem_singleton, h.mem_documents, Bool.or_eq_true, beq_iff_eq,
      or_comm]
  · apply (h.members k c hc).mono
    intro d hd
    rw [hstored, hd, Bool.or_true]

/-- Every small change keeps a store intact. -/
theorem Intact.change (h : s.Intact) (hchange : Change s s') : s'.Intact := by
  cases hchange with
  | generate => exact ⟨h.centroids_nodup, h.mem_centroids, h.mem_documents, h.members⟩
  | putDocument id text l order => exact h.putDocument id text l order
  | dropDocument id => exact h.dropDocument id
  | putCentroid id => exact h.putCentroid id
  | dropCentroid id => exact h.dropCentroid id
  | join id order => exact h.modifyCentroid id fun c hc ↦ ⟨hc.nodup, hc.stored⟩
  | addMember centroid d hd => exact h.modifyCentroid centroid fun c hc ↦ hc.addMember hd
  | removeMembers centroid ds =>
    exact h.modifyCentroid centroid fun c hc ↦ hc.removeMembers fun _ _ hstored ↦ hstored

/-- Requests lead to intact stores only, in whatever orders they are carried out. -/
theorem Attainable.intact (h : s.Attainable) : s.Intact :=
  h.induction intact_empty fun _ _ hs hchange ↦ hs.change hchange

/-- Requests lead to intact stores only. -/
theorem Reachable.intact (h : s.Reachable) : s.Intact := h.attainable.intact

/-- What documents make up is the scaled sum of the vectors of those that are stored. -/
theorem joinedVector_eq (s : Store α) (ids : List String) (order : EntryOrder α := .byKey) :
    s.joinedVector ids order =
      (TermVector.sum ((ids.filterMap s.contents.get?).map (·.vector))).normalized order := by
  rw [joinedVector, TermVector.sum, List.foldl_map, List.foldl_filterMap]
  congr 2
  funext v id
  cases s.contents.get? id <;> rfl

/-- Joining documents that are all stored passes none of them by. -/
theorem joinedVector_of_stored {ids : List String} (h : ∀ d ∈ ids, s.hasDocument d = true) :
    ∃ ds : List (Document α), ids.map s.contents.get? = ds.map some ∧
      s.joinedVector ids = (TermVector.sum (ds.map (·.vector))).normalized := by
  refine ⟨ids.filterMap s.contents.get?, ?_, s.joinedVector_eq ids⟩
  induction ids with
  | nil => rfl
  | cons id ids ih =>
    obtain ⟨d, hd⟩ := Option.isSome_iff_exists.1 (h id List.mem_cons_self)
    have hids := ih fun d hd ↦ h d (List.mem_cons_of_mem id hd)
    rw [List.filterMap_cons_some hd, List.map_cons, List.map_cons, hd, hids]

/-- No listing names a document that does not exist. -/
theorem Intact.mem_documentsListed (h : s.Intact) (r : Request) {d : String}
    (hd : d ∈ r.documentsListed (s.answer r).1) : s.hasDocument d = true := by
  cases r with
  | listAllDocuments => exact (h.mem_documents d).1 hd
  | listDocumentRange offset count => exact (h.mem_documents d).1 (mem_of_mem_page hd)
  | listDocumentRangeFromId id count => exact (h.mem_documents d).1 (mem_of_mem_pageFrom hd)
  | listUnusedDocuments limit =>
    exact (h.mem_documents d).1 (List.mem_filter.1 (List.mem_of_mem_take hd)).1
  | listAllDocumentsForCentroid c => exact h.mem_membersOf (fun _ _ hmem ↦ hmem) hd
  | listCentroidDocumentRange c offset count =>
    exact h.mem_membersOf (fun _ _ hmem ↦ mem_of_mem_page hmem) hd
  | listCentroidDocumentRangeFromId c id count =>
    exact h.mem_membersOf (fun _ _ hmem ↦ mem_of_mem_pageFrom hmem) hd
  | _ => exact absurd hd List.not_mem_nil

/-- Whatever was asked of a store before: centroids are listed once each, and the lists name what is
kept; the members of a centroid are apart and stored, so that joining it sums the vectors of them
all; and no listing names a document that does not exist. -/
theorem Reachable.integrity (h : s.Reachable) :
    s.centroids.Nodup ∧
    (∀ id, id ∈ s.centroids ↔ id ∈ s.members.keys) ∧
    (∀ id, id ∈ s.documents ↔ id ∈ s.contents.keys) ∧
    (∀ id c, s.members.get? id = some c →
      c.documents.Nodup ∧
      (∀ d ∈ c.documents, d ∈ s.contents.keys) ∧
      ∃ ds : List (Document α), c.documents.map s.contents.get? = ds.map some ∧
        (s.join id).members.get? id = some
          ⟨c.documents, (TermVector.sum (ds.map (·.vector))).normalized, false⟩) ∧
    (∀ r : Request, ∀ d ∈ r.documentsListed (s.answer r).1, d ∈ s.contents.keys) := by
  have hs := h.intact
  refine ⟨hs.centroids_nodup, fun id ↦ ?_, fun id ↦ ?_, fun id c hc ↦ ?_, fun r d hd ↦ ?_⟩
  · rw [hs.mem_centroids, Dict.mem_keys_iff]
    rfl
  · rw [hs.mem_documents, Dict.mem_keys_iff]
    rfl
  · have hwithin := hs.members id c hc
    obtain ⟨ds, hds, hsum⟩ := joinedVector_of_stored hwithin.stored
    refine ⟨hwithin.nodup, fun d hd ↦ Dict.mem_keys_iff.2 (hwithin.stored d hd), ds, hds, ?_⟩
    show (s.members.modify id _).get? id = _
    rw [Dict.get?_modify, if_pos rfl, hc, ← hsum]
    rfl
  · exact Dict.mem_keys_iff.2 (hs.mem_documentsListed r hd)

/-- Two centroids share a document that is then deleted, and one of them has another one. -/
def sharedDocument : List Request :=
  [.createDocumentWithId "a" "red" 0, .createDocument "blue" 0,
    .multiCreateCentroids ["x", "y"] false, .addDocumentsToCentroid "x" ["a", "doc-1"] false,
    .addDocumentsToCentroid "y" ["a"] false, .deleteDocument "a" false]

/-- The deleted document is listed nowhere, and the other one is still there. -/
theorem integrity_sharedDocument :
    (empty.run sharedDocument : Store Float).Reachable ∧
    (empty.run sharedDocument : Store Float).centroids.Nodup ∧
    ((empty.run sharedDocument : Store Float).answer (.listAllDocumentsForCentroid "x")).1 =
      .ok ["doc-1"] ∧
    "doc-1" ∈ (empty.run sharedDocument : Store Float).contents.keys := by
  have hs : (empty.run sharedDocument : Store Float).Reachable := ⟨sharedDocument, rfl⟩
  obtain ⟨hnodup, -, -, -, hlistings⟩ := hs.integrity
  refine ⟨hs, hnodup, rfl, hlistings (.listAllDocumentsForCentroid "x") "doc-1" ?_⟩
  exact List.mem_singleton.2 rfl

end Store

end CentroidRpc
