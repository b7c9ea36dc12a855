import CentroidRpc.Proofs.Store.Marks
import CentroidRpc.Proofs.Store.Verdict

/-!
# Listings are in the order in which things came

What a request deletes or removes goes out of a listing, the rest stays in its order, and what the
request creates or adds comes at the end (`Store.Reachable.listings_after`). The documents that are
listed as unused are those that the other listings show in no centroid
(`Store.Reachable.unused_listed`).
-/

namespace CentroidRpc

/-- The documents that a call is to delete. -/
@[simp] def Call.documentsDeleted {φ ℓ : Type} : Call φ ℓ → List String
  | deleteDocument id _ => [id]
  | multiDeleteDocuments ids _ => ids
  | _ => []

variable {α : Type}

/-- The documents that a request stores, as the answer to it tells; a failed request stores none. -/
@[simp] def Request.documentsStored : (r : Request) → Except Failure (r.Answer α) → List String
  | .createDocument .., o => o.toOption.toList
  | .createDocumentWithId .., o => o.toOption.toList
  | _, _ => []

/-- A list with more ids at its end: those that are not in it, in the order in which they occur
first, and each of them once. -/
def withNew (l ids : List String) : List String := l ++ (ids.filter (· ∉ l)).eraseDups

/-- Without more ids a list stays as it is. -/
@[simp] theorem withNew_nil (l : List String) : withNew l [] = l := List.append_nil l

/-- The first of more ids comes to the end of a list unless it is in it, then the others come. -/
theorem withNew_cons (l : List String) (id : String) (ids : List String) :
    withNew l (id :: ids) = withNew (if id ∈ l then l else l ++ [id]) ids := by
  unfold withNew
  by_cases hid : id ∈ l
  · rw [if_pos hid, List.filter_cons_of_neg (by simpa using hid)]
  · have hothers : (ids.filter (· ∉ l)).filter (fun k ↦ !k == id) =
        ids.filter (· ∉ l ++ [id]) := by
      rw [List.filter_filter]
      congr 1
      funext k
      rw [Bool.eq_iff_iff]
      simp [and_comm]
    rw [if_neg hid, List.filter_cons_of_pos (by simpa using hid), List.eraseDups_cons, hothers,
      List.append_assoc]
    rfl

namespace Centroid

/-- New members come to the end of the list, in the order in which they are given. -/
theorem documents_foldl_addMember (c : Centroid α) (ds : List String) :
    (ds.foldl addMember c).documents = withNew c.documents ds := by
  induction ds generalizing c with
  | nil => exact (withNew_nil c.documents).symm
  | cons d ds ih =>
    rw [List.foldl_cons, ih, withNew_cons, addMember]
    split <;> rfl

end Centroid

namespace Store

/-- A row of steps keeps what each step keeps. -/
theorem foldl_keeps {β : Type} {f : Store α → String → Store α} {part : Store α → β}
    (h : ∀ s id, part (f s id) = part s) (s : Store α) (ids : List String) :
    part (ids.foldl f s) = part s := by
  induction ids generalizing s with
  | nil => rfl
  | cons id ids ih => rw [List.foldl_cons, ih, h]

private theorem centroids_dropDocument (s : Store α) (id : String) :
    (s.dropDocument id).centroids = s.centroids := by
  unfold dropDocument
  split <;> rfl

private theorem documents_putCentroid (s : Store α) (id : String) :
    (s.putCentroid id).documents = s.documents := by
  unfold putCentroid
  split <;> rfl

variable {s : Store α}

/-- Created centroids come to the end of the list, those that are new. -/
theorem Intact.centroids_foldl_putCentroid (h : s.Intact) (ids : List String) :
    (ids.foldl Store.putCentroid s).centroids = withNew s.centroids ids := by
  induction ids generalizing s with
  | nil => exact (withNew_nil s.centroids).symm
  | cons id ids ih =>
    have hput : (s.putCentroid id).centroids =
        if id ∈ s.centroids then s.centroids else s.centroids ++ [id] := by
      simp only [h.mem_centroids]
      unfold Store.putCentroid
      split <;> rfl
    rw [List.foldl_cons, ih (h.putCentroid id), withNew_cons, hput]

/-- What goes out of a listing step by step goes out of it together. -/
theorem Intact.filter_foldl {f : Store α → String → Store α} {listing : Store α → List String}
    (hintact : ∀ {s : Store α}, s.Intact → ∀ id, (f s id).Intact)
    (hstep : ∀ {s : Store α}, s.Intact → ∀ id, listing (f s id) = (listing s).filter (· ≠ id))
    (h : s.Intact) (ids : List String) :
    listing (ids.foldl f s) = (listing s).filter (· ∉ ids) := by
  induction ids generalizing s with
  | nil => exact (List.filter_eq_self.2 fun k _ ↦ decide_eq_true List.not_mem_nil).symm
  | cons id ids ih =>
    rw [List.foldl_cons, ih (hintact h id), hstep h, List.filter_filter]
    congr 1
    funext k
    simp [Bool.and_comm]

/-- What is not in a list need not be taken out of it. -/
theorem filter_ne_of_not_mem {l : List String} {id : String} (h : id ∉ l) :
    l.filter (· ≠ id) = l := by
  rw [List.filter_eq_self]
  intro k hk
  rw [decide_eq_true_iff]
  rintro rfl
  exact h hk

/-- A deleted centroid goes out of the list. -/
theorem Intact.centroids_dropCentroid (h : s.Intact) (id : String) :
    (s.dropCentroid id).centroids = s.centroids.filter (· ≠ id) := by
  unfold Store.dropCentroid
  split
  · rfl
  · next hid =>
    rw [← h.mem_centroids] at hid
    rw [filter_ne_of_not_mem hid]

/-- A deleted document goes out of the list. -/
theorem Intact.documents_dropDocument (h : s.Intact) (id : String) :
    (s.dropDocument id).documents = s.documents.filter (· ≠ id) := by
  unfold Store.dropDocument
  split
  · rfl
  · next hid =>
    rw [← h.mem_documents] at hid
    rw [filter_ne_of_not_mem hid]

private theorem filter_not_mem_nil (l : List String) : l.filter (· ∉ ([] : List String)) = l :=
  List.filter_eq_self.2 fun _ _ ↦ decide_eq_true List.not_mem_nil

/-- What becomes of the list of centroids when some are created. -/
theorem Intact.centroids_createCentroids (h : s.Intact) {ids : List String} {b : Bool} {u : Unit}
    (hok : (s.createCentroids ids b).1 = .ok u) :
    (s.createCentroids ids b).2.centroids = withNew s.centroids ids := by
  have hdone : (s.createCentroids ids b).2 = _ := snd_of_ok hok
  rw [hdone, h.centroids_foldl_putCentroid]

/-- What becomes of the list of centroids when some are deleted. -/
theorem Intact.centroids_deleteCentroids (h : s.Intact) {ids : List String} {b : Bool} {u : Unit}
    (hok : (s.deleteCentroids ids b).1 = .ok u) :
    (s.deleteCentroids ids b).2.centroids = s.centroids.filter (· ∉ ids) := by
  have hdone : (s.deleteCentroids ids b).2 = _ := snd_of_ok hok
  rw [hdone, h.filter_foldl Intact.dropCentroid Intact.centroids_dropCentroid]

/-- What becomes of the list of documents when some are deleted. -/
theorem Intact.documents_deleteDocuments (h : s.Intact) {ids : List String} {b : Bool} {u : Unit}
    (hok : (s.deleteDocuments ids b).1 = .ok u) :
    (s.deleteDocuments ids b).2.documents = s.documents.filter (· ∉ ids) := by
  have hdone : (s.deleteDocuments ids b).2 = _ := snd_of_ok hok
  rw [hdone, h.filter_foldl Intact.dropDocument Intact.documents_dropDocument]

private theorem centroids_deleteDocuments (s : Store α) (ids : List String) (b : Bool) :
    (s.deleteDocuments ids b).2.centroids = s.centroids := by
  unfold deleteDocuments
  split
  · rfl
  · exact foldl_keeps centroids_dropDocument s ids

private theorem documents_createCentroids (s : Store α) (ids : List String) (b : Bool) :
    (s.createCentroids ids b).2.documents = s.documents := by
  unfold createCentroids
  split
  · rfl
  · exact foldl_keeps documents_putCentroid s ids

/-- The store with nothing kept of centroids. -/
def withoutMembers (s : Store α) : Store α := { s with members := .empty }

/-- The store with no centroids. -/
def withoutCentroids (s : Store α) : Store α := { s.withoutMembers with centroids := [] }

variable {t : Store α}

/-- Stores that are the same but for what is kept of centroids list the same. -/
theorem lists_of_withoutMembers (h : t.withoutMembers = s.withoutMembers) :
    t.centroids = s.centroids ∧ t.documents = s.documents :=
  ⟨(Store.mk.inj h).2.2.2.1, (Store.mk.inj h).2.1⟩

/-- Stores that are the same but for what is kept of centroids are the same but for centroids. -/
theorem withoutCentroids_of_withoutMembers (h : t.withoutMembers = s.withoutMembers) :
    t.withoutCentroids = s.withoutCentroids := by
  rw [withoutCentroids, h]
  rfl

/-- Stores that are the same but for centroids and list the same centroids are the same but for what
is kept of these. -/
theorem withoutMembers_of_withoutCentroids (h : t.withoutCentroids = s.withoutCentroids)
    (hcentroids : t.centroids = s.centroids) : t.withoutMembers = s.withoutMembers := by
  obtain ⟨hgenerated, hdocuments, hcontents, -⟩ := Store.mk.inj h
  exact (Store.mk.injEq ..).mpr ⟨hgenerated, hdocuments, hcontents, hcentroids, rfl⟩

/-- Stores are the same if the same is kept of each centroid and all else is the same. -/
theorem ext_of_members (hrest : t.withoutMembers = s.withoutMembers)
    (hmembers : ∀ id, t.members.get? id = s.members.get? id) : t = s := by
  obtain ⟨generated, documents, contents, centroids, members⟩ := s
  obtain ⟨generated', documents', contents', centroids', members'⟩ := t
  obtain ⟨rfl, rfl, rfl, rfl, -⟩ := Store.mk.inj hrest
  obtain rfl : members' = members := Dict.ext_get? hmembers
  rfl

/-- Stores that are the same but for centroids list the same documents and keep the same of them. -/
theorem documents_of_withoutCentroids (h : t.withoutCentroids = s.withoutCentroids) :
    t.documents = s.documents ∧ t.contents = s.contents :=
  ⟨(Store.mk.inj h).2.1, (Store.mk.inj h).2.2.1⟩

/-- A deletion of centroids changes nothing but centroids. -/
theorem withoutCentroids_deleteCentroids (s : Store α) (ids : List String) (b : Bool) :
    (s.deleteCentroids ids b).2.withoutCentroids = s.withoutCentroids := by
  have hdrop (s : Store α) (id : String) :
      (s.dropCentroid id).withoutCentroids = s.withoutCentroids := by
    unfold dropCentroid
    split <;> rfl
  unfold deleteCentroids
  split
  · rfl
  · exact foldl_keeps hdrop s ids

private theorem documents_deleteCentroids (s : Store α) (ids : List String) (b : Bool) :
    (s.deleteCentroids ids b).2.documents = s.documents :=
  (documents_of_withoutCentroids (s.withoutCentroids_deleteCentroids ids b)).1

/-- Members that come into a centroid change only what is kept of it. -/
theorem withoutMembers_addDocuments (s : Store α) (centroid : String) (ids : List String)
    (ignoreMembers : Bool) :
    (s.addDocuments centroid ids ignoreMembers).2.withoutMembers = s.withoutMembers := by
  unfold addDocuments
  split
  · rfl
  · split
    · rfl
    · split <;> rfl

/-- Members that leave a centroid change only what is kept of it. -/
theorem withoutMembers_removeDocuments (s : Store α) (centroid : String) (ids : List String)
    (ignoreOthers : Bool) :
    (s.removeDocuments centroid ids ignoreOthers).2.withoutMembers = s.withoutMembers := by
  unfold removeDocuments
  split
  · rfl
  · split <;> rfl

variable [Weight α]

private theorem withoutMembers_joinAll (s : Store α) (ids : List String)
    (orders : Nat → EntryOrder α) :
    (s.joinAll ids orders).2.withoutMembers = s.withoutMembers := by
  induction ids generalizing s orders with
  | nil => rfl
  | cons id ids ih =>
    unfold joinAll
    split
    · exact ih s _
    · exact ih (s.join id (orders 0)) _

/-- Joining that may be refused changes only what is kept of centroids. -/
theorem withoutMembers_joinCentroids (s : Store α) (ids : List String)
    (orders : Nat → EntryOrder α := fun _ ↦ .byKey) :
    (s.joinCentroids ids orders).2.withoutMembers = s.withoutMembers := by
  unfold joinCentroids
  split
  · rfl
  · exact s.withoutMembers_joinAll ids orders

private theorem centroids_createDocumentWithId (s : Store α) (id text : String) (language : Int32) :
    (s.createDocumentWithId id text language).2.centroids = s.centroids := by
  unfold createDocumentWithId
  split <;> rfl

private theorem documents_createDocumentWithId (s : Store α) (id text : String) (language : Int32) :
    (s.createDocumentWithId id text language).2.documents =
      s.documents ++ (s.createDocumentWithId id text language).1.toOption.toList := by
  unfold createDocumentWithId
  split
  · exact (List.append_nil s.documents).symm
  · rfl

variable {r : Request}

/-- A successful request takes out of the list of centroids what it is to delete, and puts at the
end of it what it is to create. -/
theorem Intact.centroids_answer (h : s.Intact) (hok : s.Succeeds r) :
    (s.answer r).2.centroids =
      withNew (s.centroids.filter (· ∉ r.centroidsDeleted)) r.centroidsCreated := by
  have hnew (hdeleted : r.centroidsDeleted = [])
      (hafter : (s.answer r).2.centroids = withNew s.centroids r.centroidsCreated) :
      (s.answer r).2.centroids =
        withNew (s.centroids.filter (· ∉ r.centroidsDeleted)) r.centroidsCreated := by
    rw [hafter, hdeleted, filter_not_mem_nil]
  -- Most requests create and delete no centroid, and then the list need only be the same.
  have hkept (hdeleted : r.centroidsDeleted = []) (hcreated : r.centroidsCreated = [])
      (hafter : (s.answer r).2.centroids = s.centroids) : (s.answer r).2.centroids =
        withNew (s.centroids.filter (· ∉ r.centroidsDeleted)) r.centroidsCreated :=
    hnew hdeleted (by rw [hafter, hcreated, withNew_nil])
  obtain ⟨v, hv⟩ := hok
  cases r with
  | createCentroid | multiCreateCentroids =>
    obtain ⟨u, hu⟩ := ok_of_map hv
    exact hnew rfl (h.centroids_createCentroids hu)
  | deleteCentroid | multiDeleteCentroids =>
    obtain ⟨u, hu⟩ := ok_of_map hv
    exact (h.centroids_deleteCentroids hu).trans (withNew_nil _).symm
  | deleteDocument | multiDeleteDocuments => exact hkept rfl rfl (centroids_deleteDocuments s _ _)
  | joinCentroid | multiJoinCentroids =>
    exact hkept rfl rfl (lists_of_withoutMembers (withoutMembers_joinCentroids s _)).1
  | addDocumentsToCentroid =>
    exact hkept rfl rfl (lists_of_withoutMembers (withoutMembers_addDocuments s _ _ _)).1
  | removeDocumentsFromCentroid =>
    exact hkept rfl rfl (lists_of_withoutMembers (withoutMembers_removeDocuments s _ _ _)).1
  | createDocumentWithId => exact hkept rfl rfl (centroids_createDocumentWithId s _ _ _)
  | _ => exact hkept rfl rfl rfl

/-- A successful request takes out of the list of documents what it is to delete, and puts at the
end of it what it stores. -/
theorem Intact.documents_answer (h : s.Intact) (hok : s.Succeeds r) :
    (s.answer r).2.documents =
      s.documents.filter (· ∉ r.documentsDeleted) ++ r.documentsStored (s.answer r).1 := by
  have hnew (hdeleted : r.documentsDeleted = [])
      (hafter : (s.answer r).2.documents = s.documents ++ r.documentsStored (s.answer r).1) :
      (s.answer r).2.documents =
        s.documents.filter (· ∉ r.documentsDeleted) ++ r.documentsStored (s.answer r).1 := by
    rw [hafter, hdeleted, filter_not_mem_nil]
  have hkept (hdeleted : r.documentsDeleted = []) (hstored : r.documentsStored (s.answer r).1 = [])
      (hafter : (s.answer r).2.documents = s.documents) : (s.answer r).2.documents =
        s.documents.filter (· ∉ r.documentsDeleted) ++ r.documentsStored (s.answer r).1 :=
    hnew hdeleted (by rw [hafter, hstored, List.append_nil])
  obtain ⟨v, hv⟩ := hok
  cases r with
  | createDocument => exact hnew rfl rfl
  | createDocumentWithId => exact hnew rfl (documents_createDocumentWithId s _ _ _)
  | deleteDocument | multiDeleteDocuments =>
    obtain ⟨u, hu⟩ := ok_of_map hv
    exact (h.documents_deleteDocuments hu).trans (List.append_nil _).symm
  | createCentroid | multiCreateCentroids => exact hkept rfl rfl (documents_createCentroids s _ _)
  | deleteCentroid | multiDeleteCentroids => exact hkept rfl rfl (documents_deleteCentroids s _ _)
  | joinCentroid | multiJoinCentroids =>
    exact hkept rfl rfl (lists_of_withoutMembers (withoutMembers_joinCentroids s _)).2
  | addDocumentsToCentroid =>
    exact hkept rfl rfl (lists_of_withoutMembers (withoutMembers_addDocuments s _ _ _)).2
  | removeDocumentsFromCentroid =>
    exact hkept rfl rfl (lists_of_withoutMembers (withoutMembers_removeDocuments s _ _ _)).2
  | _ => exact hkept rfl rfl rfl

/-- A successful request takes out of the members of a centroid what is to leave it, and puts at the
end of them what is to come into it. -/
theorem Intact.members_answer (h : s.Intact) (hok : s.Succeeds r) {id : String} {c c' : Centroid α}
    (hc : s.members.get? id = some c) (hc' : (s.answer r).2.members.get? id = some c') :
    c'.documents = withNew (c.documents.filter (· ∉ r.removedFrom id)) (r.addedTo id) := by
  rw [h.get?_answer hok, hc, turned] at hc'
  split at hc'
  · cases hc'
  · split at hc'
    · next hjoined =>
      obtain ⟨hadded, hremoved⟩ := Call.memberless_of_joined hjoined id
      cases hc'
      rw [hadded, hremoved, filter_not_mem_nil]
      exact (withNew_nil c.documents).symm
    · cases hc'
      have hleft : (((r.addedTo id).foldl Centroid.addMember c).removeMembers
          (r.removedFrom id)).documents =
            (withNew c.documents (r.addedTo id)).filter (· ∉ r.removedFrom id) := by
        rw [← Centroid.documents_foldl_addMember]
        rfl
      rw [hleft]
      -- No request brings documents in and takes others out.
      rcases r.addedTo_eq_nil_or id with hadded | hremoved
      · rw [hadded, withNew_nil, withNew_nil]
      · rw [hremoved, filter_not_mem_nil, filter_not_mem_nil]

/-- The listing of a centroid shows its members if there is one, and fails if not. -/
theorem answer_listAllDocumentsForCentroid (s : Store α) (id : String) :
    (s.answer (.listAllDocumentsForCentroid id)).1 =
      ((s.members.get? id).map (·.documents)).elim (.error .centroidDoesNotExist) .ok := by
  show s.membersOf id (fun l ↦ l) = _
  unfold membersOf
  cases s.members.get? id <;> rfl

/-- A deletion of centroids leaves the list of documents alone. -/
theorem documents_answer_of_centroidsDeleted (s : Store α) (hr : r.centroidsDeleted ≠ []) :
    (s.answer r).2.documents = s.documents := by
  cases r with
  | deleteCentroid | multiDeleteCentroids => exact documents_deleteCentroids s _ _
  | _ => exact absurd rfl hr

/-- A deletion of centroids leaves the others as they are. -/
theorem Intact.get?_answer_of_centroidsDeleted (h : s.Intact) (hr : r.centroidsDeleted ≠ [])
    {id : String} (hid : id ∉ r.centroidsDeleted) :
    (s.answer r).2.members.get? id = s.members.get? id := by
  by_cases hok : s.Succeeds r
  · have hnone : id ∉ ([] : List String) := List.not_mem_nil
    rw [h.get?_answer hok]
    cases r with
    | deleteCentroid | multiDeleteCentroids => exact turned_of_not_mem hnone hid hnone rfl rfl s _
    | _ => exact absurd rfl hr
  · rw [answer_of_not_succeeds hok]

/-- Whatever is asked, each of the three listings shows afterwards what it showed before, without
what was deleted or removed, and then what was created or added, in the order in which it was asked
for. What fails and what only asks changes none of them, and a deletion of centroids changes neither
the listing of documents nor those of the other centroids. -/
theorem Reachable.listings_after (h : s.Reachable) (r : Request) :
    let s' := (s.answer r).2
    (s.Succeeds r →
      (s'.answer .listAllCentroids).1 =
        .ok (withNew (s.listedCentroids.filter (· ∉ r.centroidsDeleted)) r.centroidsCreated) ∧
      (s'.answer .listAllDocuments).1 = .ok (s.listedDocuments.filter (· ∉ r.documentsDeleted) ++
        r.documentsStored (s.answer r).1) ∧
      ∀ c, s.hasCentroid c = true → s'.hasCentroid c = true →
        (s'.answer (.listAllDocumentsForCentroid c)).1 =
          .ok (withNew ((s.listedMembers c).filter (· ∉ r.removedFrom c)) (r.addedTo c))) ∧
    (¬ s.Succeeds r ∨ r.operation.isQuery = true →
      ∀ l : Request, (s'.answer l).1 = (s.answer l).1) ∧
    (r.centroidsDeleted ≠ [] →
      (s'.answer .listAllDocuments).1 = (s.answer .listAllDocuments).1 ∧
      ∀ c ∉ r.centroidsDeleted, (s'.answer (.listAllDocumentsForCentroid c)).1 =
        (s.answer (.listAllDocumentsForCentroid c)).1) := by
  intro s'
  have hs := h.intact
  refine ⟨fun hok ↦ ⟨?_, ?_, fun c hc hc' ↦ ?_⟩, fun hsame l ↦ ?_, fun hr ↦ ⟨?_, fun c hc ↦ ?_⟩⟩
  · exact congrArg Except.ok (hs.centroids_answer hok)
  · exact congrArg Except.ok (hs.documents_answer hok)
  · obtain ⟨before, hbefore⟩ := exists_of_hasCentroid hc
    obtain ⟨after, hafter⟩ := exists_of_hasCentroid hc'
    rw [answer_listAllDocumentsForCentroid, hafter, listedMembers_of_get? hbefore]
    exact congrArg Except.ok (hs.members_answer hok hbefore hafter)
  · have hunchanged : s' = s := hsame.elim answer_of_not_succeeds (answer_of_isQuery s)
    rw [hunchanged]
  · exact congrArg Except.ok (documents_answer_of_centroidsDeleted s hr)
  · rw [answer_listAllDocumentsForCentroid, answer_listAllDocumentsForCentroid,
      hs.get?_answer_of_centroidsDeleted hr hc]

/-- Three documents, of which one is a member of a centroid. -/
def oneOfThree : List Request :=
  [.createDocumentWithId "a" "red" 0, .createDocumentWithId "b" "green" 0, .createDocument "blue" 0,
    .createCentroid "c" false, .addDocumentsToCentroid "c" ["b"] false]

/-- The others come in as well, in the order in which they are first named. -/
theorem listings_after_oneOfThree :
    let s : Store Float := empty.run oneOfThree
    let r : Request := .addDocumentsToCentroid "c" ["doc-1", "b", "a", "doc-1"] true
    s.Reachable ∧ s.Succeeds r ∧ s.hasCentroid "c" = true ∧ (s.answer r).2.hasCentroid "c" = true ∧
    ((s.answer r).2.answer (.listAllDocumentsForCentroid "c")).1 = .ok ["b", "doc-1", "a"] := by
  intro s r
  have hs : s.Reachable := ⟨oneOfThree, rfl⟩
  have hok : s.Succeeds r := ⟨(), rfl⟩
  obtain ⟨hlistings, -, -⟩ := hs.listings_after r
  obtain ⟨-, -, hmembers⟩ := hlistings hok
  exact ⟨hs, hok, rfl, rfl, hmembers "c" rfl rfl⟩

private theorem Intact.any_member_iff (h : s.Intact) (d : String) :
    s.members.values.any (·.documents.contains d) = true ↔
      ∃ c ∈ s.listedCentroids, d ∈ s.listedMembers c := by
  simp only [List.any_eq_true, Dict.mem_values_iff, List.contains_iff_mem]
  constructor
  · rintro ⟨centroid, ⟨c, hc⟩, hd⟩
    exact ⟨c, h.centroid_listed hc, by rwa [listedMembers_of_get? hc]⟩
  · rintro ⟨c, hlisted, hd⟩
    obtain ⟨centroid, hc⟩ := exists_of_hasCentroid ((h.mem_listedCentroids c).1 hlisted)
    rw [listedMembers_of_get? hc] at hd
    exact ⟨centroid, ⟨c, hc⟩, hd⟩

/-- Unused are the documents that no centroid shows. -/
theorem Intact.unused_eq (h : s.Intact) : s.unused =
    s.listedDocuments.filter fun d ↦ ∀ c ∈ s.listedCentroids, d ∉ s.listedMembers c := by
  show s.documents.filter _ = s.documents.filter _
  congr 1
  funext d
  rw [Bool.eq_iff_iff, Bool.not_eq_true', ← Bool.not_eq_true, h.any_member_iff, decide_eq_true_iff]
  simp only [not_exists, not_and]

/-- The documents that are listed as unused are the first of those that are listed in no centroid.
So if there may be enough of them, each document is listed either as unused or in some centroid. -/
theorem Reachable.unused_listed (h : s.Reachable) (limit : UInt64) :
    (s.answer (.listUnusedDocuments limit)).1 = .ok ((s.listedDocuments.filter fun d ↦
      ∀ c ∈ s.listedCentroids, d ∉ s.listedMembers c).take limit.toNat) ∧
    (s.listedDocuments.length ≤ limit.toNat → ∀ d, s.hasDocument d = true →
      (d ∈ listIn (s.answer (.listUnusedDocuments limit)).1 ↔
        ¬ ∃ c ∈ s.listedCentroids, d ∈ s.listedMembers c)) := by
  have hs := h.intact
  have hlisted : (s.answer (.listUnusedDocuments limit)).1 = .ok (s.unused.take limit.toNat) := rfl
  rw [hs.unused_eq] at hlisted
  refine ⟨hlisted, fun hlimit d hd ↦ ?_⟩
  rw [hlisted, listIn, List.take_of_length_le (Nat.le_trans (List.length_filter_le ..) hlimit),
    List.mem_filter, decide_eq_true_iff, and_iff_right ((hs.mem_listedDocuments d).2 hd)]
  simp only [not_exists, not_and]

/-- Of three documents two are in no centroid, and one of them is asked for. -/
theorem unused_listed_oneOfThree :
    let s : Store Float := empty.run oneOfThree
    s.Reachable ∧ (s.answer (.listUnusedDocuments 1)).1 = .ok ["a"] ∧
    s.listedDocuments.length ≤ (3 : UInt64).toNat ∧ s.hasDocument "b" = true ∧
    "b" ∉ listIn (s.answer (.listUnusedDocuments 3)).1 := by
  intro s
  have hs : s.Reachable := ⟨oneOfThree, rfl⟩
  obtain ⟨hfirst, -⟩ := hs.unused_listed 1
  obtain ⟨-, hall⟩ := hs.unused_listed 3
  have hlimit : s.listedDocuments.length ≤ (3 : UInt64).toNat := Nat.le_refl 3
  refine ⟨hs, hfirst, hlimit, rfl, fun hunused ↦ ?_⟩
  exact (hall hlimit "b" rfl).1 hunused ⟨"c", List.mem_singleton.2 rfl, List.mem_singleton.2 rfl⟩

end Store

end CentroidRpc
