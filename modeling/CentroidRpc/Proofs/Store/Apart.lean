import CentroidRpc.Proofs.Store.Orders

/-!
# Calls for different centroids

Some operations join or delete the centroids that are named, or change or list their members, and
are about nothing else. What such a call is answered, and what it makes of its centroids, depends on
the documents and on these centroids only (`Store.AgreesOn`), and all else stays as it is. So calls
of which no two name the same centroid may come in any order (`Store.Attainable.apart`).
-/

namespace CentroidRpc

/-- Whether an operation is about the centroids that are named and no others: it joins or deletes
them, or changes or lists their members. -/
def Operation.keepsToNamed : Operation → Bool
  | addDocumentsToCentroid | removeDocumentsFromCentroid => true
  | joinCentroid | multiJoinCentroids | deleteCentroid | multiDeleteCentroids => true
  | listAllDocumentsForCentroid | listCentroidDocumentRange => true
  | listCentroidDocumentRangeFromId => true
  | _ => false

namespace Call

variable {φ ℓ : Type} {call other : Call φ ℓ}

/-- No centroid is named in both of two calls. -/
def Apart (call other : Call φ ℓ) : Prop := ∀ id ∈ call.centroids, id ∉ other.centroids

instance (call other : Call φ ℓ) : Decidable (call.Apart other) :=
  inferInstanceAs (Decidable (∀ id ∈ call.centroids, id ∉ other.centroids))

/-- It does not matter which of two calls is apart from the other. -/
theorem Apart.symm (h : call.Apart other) : other.Apart call :=
  fun id hid hid' ↦ h id hid' hid

private theorem not_about_of_not_mem (hcall : call.operation.keepsToNamed = true) {id : String}
    (hid : id ∉ call.centroids) :
    id ∉ call.centroidsCreated ∧ id ∉ call.centroidsDeleted ∧ id ∉ call.centroidsJoined ∧
      call.addedTo id = [] ∧ call.removedFrom id = [] := by
  have hnone : id ∉ ([] : List String) := List.not_mem_nil
  have hother {c : String} (ds : List String) (hc : id ∉ [c]) :
      (if c = id then ds else []) = [] :=
    if_neg fun heq ↦ hc (List.mem_singleton.2 heq.symm)
  cases call with
  | deleteCentroid | multiDeleteCentroids => exact ⟨hnone, hid, hnone, rfl, rfl⟩
  | joinCentroid | multiJoinCentroids => exact ⟨hnone, hnone, hid, rfl, rfl⟩
  | addDocumentsToCentroid c ds => exact ⟨hnone, hnone, hnone, hother ds hid, rfl⟩
  | removeDocumentsFromCentroid c ds => exact ⟨hnone, hnone, hnone, rfl, hother ds hid⟩
  | listAllDocumentsForCentroid | listCentroidDocumentRange | listCentroidDocumentRangeFromId =>
    exact ⟨hnone, hnone, hnone, rfl, rfl⟩
  | _ => cases hcall

end Call

namespace Store

variable {α : Type}

/-- Of two stores the same is kept of all documents and of some centroids. -/
structure AgreesOn (s t : Store α) (ids : List String) : Prop where
  contents : t.contents = s.contents
  members : ∀ id ∈ ids, t.members.get? id = s.members.get? id

namespace AgreesOn

variable {s t : Store α} {ids : List String}

private theorem hasDocument (h : s.AgreesOn t ids) : t.hasDocument = s.hasDocument := by
  funext id
  rw [Store.hasDocument, Store.hasDocument, h.contents]

private theorem rel_dirty (h : s.AgreesOn t ids) {id : String} (hid : id ∈ ids) :
    Option.Rel (·.dirty = ·.dirty) (s.members.get? id) (t.members.get? id) := by
  rw [h.members id hid]
  cases s.members.get? id with
  | none => exact .none
  | some c => exact .some rfl

private theorem any_not_hasCentroid (h : s.AgreesOn t ids) :
    ids.any (!t.hasCentroid ·) = ids.any (!s.hasCentroid ·) :=
  (any_not_hasCentroid_congr fun _ hid ↦ hasCentroid_of_rel (h.rel_dirty hid)).symm

private theorem deleteCentroids (h : s.AgreesOn t ids) (b : Bool) :
    (t.deleteCentroids ids b).1 = (s.deleteCentroids ids b).1 := by
  unfold Store.deleteCentroids
  rw [apply_ite Prod.fst, apply_ite Prod.fst, h.any_not_hasCentroid]

variable {c : String}

private theorem addDocuments (h : s.AgreesOn t [c]) (ds : List String) (b : Bool) :
    (t.addDocuments c ds b).1 = (s.addDocuments c ds b).1 := by
  unfold Store.addDocuments
  rw [h.members c List.mem_cons_self, h.hasDocument]
  cases s.members.get? c with
  | none => rfl
  | some centroid => simp only [apply_ite Prod.fst]

private theorem removeDocuments (h : s.AgreesOn t [c]) (ds : List String) (b : Bool) :
    (t.removeDocuments c ds b).1 = (s.removeDocuments c ds b).1 := by
  unfold Store.removeDocuments
  rw [h.members c List.mem_cons_self]
  cases s.members.get? c with
  | none => rfl
  | some centroid => simp only [apply_ite Prod.fst]

private theorem membersOf (h : s.AgreesOn t [c]) (select : List String → List String) :
    t.membersOf c select = s.membersOf c select := by
  rw [Store.membersOf, Store.membersOf, h.members c List.mem_cons_self]

variable [Weight α]

private theorem joinedVector (h : s.AgreesOn t ids) (ds : List String) (order : EntryOrder α) :
    t.joinedVector ds order = s.joinedVector ds order := by
  rw [Store.joinedVector, Store.joinedVector, h.contents]

private theorem join (h : s.AgreesOn t ids) (id : String) (order : EntryOrder α) :
    (s.join id order).AgreesOn (t.join id order) ids := by
  refine ⟨h.contents, fun k hk ↦ ?_⟩
  show (t.members.modify id _).get? k = (s.members.modify id _).get? k
  simp only [Dict.get?_modify, h.members k hk, h.joinedVector]

/-- The joining of the centroids is answered the same, and then the same is kept of them. -/
theorem joinCentroids (h : s.AgreesOn t ids) (orders : Nat → EntryOrder α) :
    (s.joinCentroids ids orders).1 = (t.joinCentroids ids orders).1 ∧
      (s.joinCentroids ids orders).2.AgreesOn (t.joinCentroids ids orders).2 ids :=
  joinCentroids_rel (R := fun s t ↦ s.AgreesOn t ids) (fun h _ hid ↦ h.rel_dirty hid)
    (fun h id n ↦ h.join id (orders n)) h

variable {r : Request}

/-- A call that keeps to the centroids it names is answered the same if the same is kept of them. -/
theorem answer (h : s.AgreesOn t r.centroids) (hr : r.operation.keepsToNamed = true)
    (orders : Nat → EntryOrder α) : (t.answer r orders).1 = (s.answer r orders).1 := by
  cases r with
  | deleteCentroid id b => exact congrArg (Except.map _) (h.deleteCentroids b)
  | multiDeleteCentroids ids b => exact congrArg (Except.map _) (h.deleteCentroids b)
  | joinCentroid id => exact congrArg (Except.map _) (h.joinCentroids orders).1.symm
  | multiJoinCentroids ids => exact (h.joinCentroids orders).1.symm
  | addDocumentsToCentroid c ds b => exact h.addDocuments ds b
  | removeDocumentsFromCentroid c ds b => exact h.removeDocuments ds b
  | listAllDocumentsForCentroid c => exact h.membersOf _
  | listCentroidDocumentRange c offset count => exact h.membersOf _
  | listCentroidDocumentRangeFromId c d count => exact h.membersOf _
  | _ => cases hr

private theorem get?_answer_byKey (h : s.AgreesOn t r.centroids)
    (hr : r.operation.keepsToNamed = true) (hjoined : r.centroidsJoined = []) (hs : s.Intact)
    (ht : t.Intact) {id : String} (hid : id ∈ r.centroids) :
    (t.answer r).2.members.get? id = (s.answer r).2.members.get? id := by
  have hanswer := h.answer hr fun _ ↦ .byKey
  by_cases hok : s.Succeeds r
  · have hok' : t.Succeeds r := by
      rwa [Succeeds, hanswer]
    have hturned (o : Option (Centroid α)) : t.turned r id o = s.turned r id o := by
      cases o with
      | none => rfl
      | some c => rw [turned, turned, hjoined, if_neg List.not_mem_nil, if_neg List.not_mem_nil]
    rw [hs.get?_answer hok, ht.get?_answer hok', h.members id hid, hturned]
  · have hok' : ¬ t.Succeeds r := by
      rwa [Succeeds, hanswer]
    rw [answer_of_not_succeeds hok, answer_of_not_succeeds hok', h.members id hid]

/-- A call that keeps to the centroids it names makes the same of them if it finds the same. -/
theorem get?_answer (h : s.AgreesOn t r.centroids) (hr : r.operation.keepsToNamed = true)
    (hs : s.Intact) (ht : t.Intact) (orders : Nat → EntryOrder α) {id : String}
    (hid : id ∈ r.centroids) :
    (t.answer r orders).2.members.get? id = (s.answer r orders).2.members.get? id := by
  cases r with
  | joinCentroid k => exact (h.joinCentroids orders).2.members id hid
  | multiJoinCentroids ids => exact (h.joinCentroids orders).2.members id hid
  | createDocument | createDocumentWithId => cases hr
  | _ => exact h.get?_answer_byKey hr rfl hs ht hid

end AgreesOn

variable [Weight α] {s : Store α} {r : Request}

/-- A call that keeps to the centroids it names is answered the same in any orders, and the store is
the same but for them. -/
theorem sameButOrder_answer (s : Store α) (hr : r.operation.keepsToNamed = true)
    (orders orders' : Nat → EntryOrder α) :
    (s.answer r orders).1 = (s.answer r orders').1 ∧
      (s.answer r orders).2.SameButOrder (s.answer r orders').2 := by
  have hjoin (ids : List String) := (SameButOrder.refl s).joinCentroids ids orders orders'
  cases r with
  | joinCentroid id => exact ⟨congrArg (Except.map _) (hjoin [id]).1, (hjoin [id]).2⟩
  | multiJoinCentroids ids => exact hjoin ids
  | createDocument | createDocumentWithId | getTextSimilarity | multiGetTextSimilarity => cases hr
  | _ => exact ⟨rfl, .refl _⟩

/-- A call that keeps to the centroids it names changes nothing but centroids. -/
theorem withoutCentroids_answer (s : Store α) (hr : r.operation.keepsToNamed = true)
    (orders : Nat → EntryOrder α) :
    (s.answer r orders).2.withoutCentroids = s.withoutCentroids := by
  cases r with
  | deleteCentroid id b => exact s.withoutCentroids_deleteCentroids [id] b
  | multiDeleteCentroids ids b => exact s.withoutCentroids_deleteCentroids ids b
  | joinCentroid id =>
    exact withoutCentroids_of_withoutMembers (s.withoutMembers_joinCentroids [id] orders)
  | multiJoinCentroids ids =>
    exact withoutCentroids_of_withoutMembers (s.withoutMembers_joinCentroids ids orders)
  | addDocumentsToCentroid c ds b =>
    exact withoutCentroids_of_withoutMembers (s.withoutMembers_addDocuments c ds b)
  | removeDocumentsFromCentroid c ds b =>
    exact withoutCentroids_of_withoutMembers (s.withoutMembers_removeDocuments c ds b)
  | listAllDocumentsForCentroid | listCentroidDocumentRange | listCentroidDocumentRangeFromId => rfl
  | _ => cases hr

private theorem get?_joinCentroids_of_not_mem {ids : List String} {id : String} (hid : id ∉ ids)
    (s : Store α) (orders : Nat → EntryOrder α) :
    (s.joinCentroids ids orders).2.members.get? id = s.members.get? id := by
  have hall : (s.joinAll ids orders).2.members.get? id = s.members.get? id := by
    induction ids generalizing s orders with
    | nil => rfl
    | cons k ids ih =>
      obtain ⟨hne, hids⟩ := not_or.1 (mt List.mem_cons.2 hid)
      cases hk : s.members.get? k with
      | none =>
        rw [joinAll_cons_of_none hk]
        exact ih hids s _
      | some c =>
        rw [joinAll_cons_of_some hk]
        exact (ih hids _ _).trans ((Dict.get?_modify ..).trans (if_neg hne))
  unfold joinCentroids
  split
  · rfl
  · exact hall

/-- A call that keeps to the centroids it names leaves the others as they are. -/
theorem Intact.get?_answer_of_not_mem (h : s.Intact) (hr : r.operation.keepsToNamed = true)
    (orders : Nat → EntryOrder α) {id : String} (hid : id ∉ r.centroids) :
    (s.answer r orders).2.members.get? id = s.members.get? id := by
  have hbyKey : (s.answer r).2.members.get? id = s.members.get? id := by
    by_cases hok : s.Succeeds r
    · obtain ⟨hcreated, hdeleted, hjoined, hadded, hremoved⟩ := Call.not_about_of_not_mem hr hid
      rw [h.get?_answer hok, turned_of_not_mem hcreated hdeleted hjoined hadded hremoved]
    · rw [answer_of_not_succeeds hok]
  cases r with
  | joinCentroid k => exact get?_joinCentroids_of_not_mem hid s orders
  | multiJoinCentroids ids => exact get?_joinCentroids_of_not_mem hid s orders
  | createDocument | createDocumentWithId => cases hr
  | _ => exact hbyKey

/-- A call that keeps to the centroids it names lists no centroid anew, and the order stays. -/
theorem Intact.exists_filter_answer (h : s.Intact) (hr : r.operation.keepsToNamed = true)
    (orders : Nat → EntryOrder α) :
    ∃ kept : String → Bool, (s.answer r orders).2.centroids = s.centroids.filter kept := by
  have hsame := (s.sameButOrder_answer hr orders fun _ ↦ .byKey).2.rest
  rw [(lists_of_withoutMembers hsame).1]
  by_cases hok : s.Succeeds r
  · have hcreated : r.centroidsCreated = [] := by
      cases r with
      | createCentroid | multiCreateCentroids => cases hr
      | _ => rfl
    refine ⟨(· ∉ r.centroidsDeleted), ?_⟩
    rw [h.centroids_answer hok, hcreated, withNew_nil]
  · refine ⟨fun _ ↦ true, ?_⟩
    rw [answer_of_not_succeeds hok, List.filter_true]

/-- A call that keeps to the centroids it names leaves the same kept of others. -/
theorem Intact.agreesOn_answer (h : s.Intact) (hr : r.operation.keepsToNamed = true)
    (orders : Nat → EntryOrder α) {ids : List String} (hids : ∀ id ∈ ids, id ∉ r.centroids) :
    s.AgreesOn (s.answer r orders).2 ids :=
  ⟨(documents_of_withoutCentroids (withoutCentroids_answer s hr orders)).2,
    fun id hid ↦ h.get?_answer_of_not_mem hr orders (hids id hid)⟩

/-- A store after calls that keep to the centroids they name, no two of which name the same one:
each call has made of its centroids what it would have made of them alone. -/
structure Together (s : Store α) (es : List (Execution α)) : Prop where
  rest : (s.executeAll es).withoutCentroids = s.withoutCentroids
  centroids : ∃ kept : String → Bool, (s.executeAll es).centroids = s.centroids.filter kept
  named : ∀ e ∈ es, ∀ id ∈ e.request.centroids,
    (s.executeAll es).members.get? id = (s.execute e).2.members.get? id
  unnamed : ∀ id, (∀ e ∈ es, id ∉ e.request.centroids) →
    (s.executeAll es).members.get? id = s.members.get? id

variable {es es' : List (Execution α)}

/-- Calls for different centroids each do what they would do alone. -/
theorem Attainable.together (h : s.Attainable)
    (hes : ∀ e ∈ es, e.request.operation.keepsToNamed = true)
    (hapart : (es.map (·.request)).Pairwise Call.Apart) : s.Together es := by
  induction es generalizing s with
  | nil =>
    exact ⟨rfl, ⟨fun _ ↦ true, (List.filter_true ..).symm⟩, fun e he ↦ absurd he List.not_mem_nil,
      fun _ _ ↦ rfl⟩
  | cons e es ih =>
    rw [List.map_cons, List.pairwise_cons] at hapart
    obtain ⟨he, hes⟩ := List.forall_mem_cons.1 hes
    -- What comes later leaves the centroids of the first call, and that one leaves all others.
    have hothers : ∀ e' ∈ es, e.request.Apart e'.request := fun e' he' ↦
      hapart.1 _ (List.mem_map_of_mem he')
    have hrest := withoutCentroids_answer s he e.orders
    have hmore := ih (h.execute e) hes hapart.2
    obtain ⟨kept, hkept⟩ := h.intact.exists_filter_answer he e.orders
    obtain ⟨kept', hkept'⟩ := hmore.centroids
    refine ⟨hmore.rest.trans hrest, ⟨fun id ↦ kept' id && kept id, ?_⟩, ?_, ?_⟩
    · show ((s.execute e).2.executeAll es).centroids = _
      rw [hkept', Store.execute, hkept, List.filter_filter]
    · intro e' he' id hid
      rcases List.mem_cons.1 he' with rfl | he'
      · exact hmore.unnamed id fun later hlater ↦ hothers later hlater id hid
      · have hagrees : s.AgreesOn (s.execute e).2 e'.request.centroids :=
          h.intact.agreesOn_answer he e.orders (hothers e' he').symm
        have halone := hagrees.get?_answer (hes e' he') h.intact (h.execute e).intact e'.orders hid
        exact (hmore.named e' he' id hid).trans halone
    · intro id hid
      have hid := List.forall_mem_cons.1 hid
      exact (hmore.unnamed id hid.2).trans (h.intact.get?_answer_of_not_mem he e.orders hid.1)

/-- The centroids that are listed after calls that keep to those they name are those from before
that are still there. -/
theorem Together.centroids_eq (h : s.Together es) (hs : s.Attainable) :
    (s.executeAll es).centroids = s.centroids.filter (s.executeAll es).hasCentroid := by
  obtain ⟨kept, hkept⟩ := h.centroids
  rw [hkept]
  apply List.filter_congr
  intro id hid
  rw [Bool.eq_iff_iff, ← (hs.executeAll es).intact.mem_centroids, hkept, List.mem_filter,
    and_iff_right hid]

/-- What holds between what two calls for the same make of a centroid holds between what all calls
make of it. -/
theorem Together.members_rel (h : s.Together es) (h' : s.Together es')
    (hperm : (es'.map (·.request)).Perm (es.map (·.request)))
    {R : Option (Centroid α) → Option (Centroid α) → Prop} (hrefl : ∀ o, R o o)
    (hcalls : ∀ e ∈ es, ∀ id, ∃ e' ∈ es', e'.request = e.request ∧
      R ((s.execute e).2.members.get? id) ((s.execute e').2.members.get? id)) (id : String) :
    R ((s.executeAll es).members.get? id) ((s.executeAll es').members.get? id) := by
  by_cases hid : ∃ e ∈ es, id ∈ e.request.centroids
  · obtain ⟨e, he, hid⟩ := hid
    obtain ⟨e', he', hrequest, hrel⟩ := hcalls e he id
    rwa [h.named e he id hid, h'.named e' he' id (hrequest ▸ hid)]
  · have hid : ∀ e ∈ es, id ∉ e.request.centroids := fun e he hmem ↦ hid ⟨e, he, hmem⟩
    have hid' : ∀ e' ∈ es', id ∉ e'.request.centroids := by
      intro e' he'
      obtain ⟨e, he, hrequest⟩ := List.mem_map.1 (hperm.subset (List.mem_map_of_mem he'))
      exact hrequest ▸ hid e he
    rw [h.unnamed id hid, h'.unnamed id hid']
    exact hrefl _

/-- Calls of which no two name the same centroid, and which join or delete the centroids they name
or change or list their members, may come one after the other in any row: each of them is answered
as if it came alone, in whatever orders new vectors are scaled. The store is the same afterwards but
for these orders, and the same if each call keeps its own. -/
theorem Attainable.apart (h : s.Attainable)
    (hes : ∀ e ∈ es, e.request.operation.keepsToNamed = true)
    (hapart : (es.map (·.request)).Pairwise Call.Apart)
    (hperm : (es'.map (·.request)).Perm (es.map (·.request))) :
    (∀ before e after, es' = before ++ e :: after → ∀ orders,
      ((s.executeAll before).execute e).1 = (s.answer e.request orders).1) ∧
    (s.executeAll es).SameButOrder (s.executeAll es') ∧
    (es'.Perm es → s.executeAll es' = s.executeAll es) := by
  have hes' : ∀ e' ∈ es', e'.request.operation.keepsToNamed = true := by
    intro e' he'
    obtain ⟨e, he, hrequest⟩ := List.mem_map.1 (hperm.subset (List.mem_map_of_mem he'))
    exact hrequest ▸ hes e he
  have hapart' : (es'.map (·.request)).Pairwise Call.Apart :=
    (hperm.pairwise_iff Call.Apart.symm).2 hapart
  have hone := h.together hes hapart
  have hother := h.together hes' hapart'
  have hsame : (s.executeAll es).SameButOrder (s.executeAll es') := by
    have hmembers (id : String) : Option.Rel Centroid.SameButOrder
        ((s.executeAll es).members.get? id) ((s.executeAll es').members.get? id) := by
      refine hone.members_rel hother hperm SameButOrder.rel_refl (fun e he id ↦ ?_) id
      obtain ⟨e', he', hrequest⟩ := List.mem_map.1 (hperm.symm.subset (List.mem_map_of_mem he))
      refine ⟨e', he', hrequest, ?_⟩
      obtain ⟨r, orders⟩ := e
      obtain ⟨r', orders'⟩ := e'
      obtain rfl : r' = r := hrequest
      exact (s.sameButOrder_answer (hes _ he) orders orders').2.members id
    have hcentroids : (s.executeAll es).centroids = (s.executeAll es').centroids := by
      rw [hone.centroids_eq h, hother.centroids_eq h]
      exact List.filter_congr fun id _ ↦ hasCentroid_of_rel (hmembers id)
    have hrest := hone.rest.trans hother.rest.symm
    exact ⟨withoutMembers_of_withoutCentroids hrest hcentroids, hmembers⟩
  refine ⟨?_, hsame, fun hown ↦ ?_⟩
  · rintro before e after rfl orders
    rw [List.map_append, List.map_cons] at hapart'
    obtain ⟨hbefore, -, hlater⟩ := List.pairwise_append.1 hapart'
    have he := hes' e (List.mem_append_right _ List.mem_cons_self)
    -- No call before this one names its centroids, so it finds them as they were.
    have htogether := h.together (fun e he ↦ hes' e (List.mem_append_left _ he)) hbefore
    have hagrees : s.AgreesOn (s.executeAll before) e.request.centroids :=
      ⟨(documents_of_withoutCentroids htogether.rest).2, fun id hid ↦
        htogether.unnamed id fun e' he' hid' ↦
          hlater _ (List.mem_map_of_mem he') _ List.mem_cons_self id hid' hid⟩
    exact (hagrees.answer he e.orders).trans (s.sameButOrder_answer he e.orders orders).1
  · exact ext_of_members hsame.rest.symm <| hother.members_rel hone hperm.symm (fun _ ↦ rfl)
      fun e he _ ↦ ⟨e, hown.mem_iff.1 he, rfl, rfl⟩

/-- A document, and two centroids with it as their member. -/
def oneInTwo : List Request :=
  [.createDocumentWithId "a" "red" 0, .multiCreateCentroids ["x", "y"] false,
    .addDocumentsToCentroid "x" ["a"] false, .addDocumentsToCentroid "y" ["a"] false]

/-- One of the centroids is to be joined, the other one loses its member, and one that does not
exist is to be deleted. -/
def onEach : List (Execution Float) :=
  [.byKey (.joinCentroid "x"), .byKey (.removeDocumentsFromCentroid "y" ["a"] false),
    .byKey (.deleteCentroid "z" false)]

/-- The centroid may as well be joined last, and its caller is told that its members had changed. -/
theorem apart_onEach :
    let s : Store Float := empty.run oneInTwo
    s.Attainable ∧ (onEach.map (·.request)).Pairwise Call.Apart ∧
    s.executeAll onEach.reverse = s.executeAll onEach ∧
    ((s.executeAll [.byKey (.deleteCentroid "z" false),
      .byKey (.removeDocumentsFromCentroid "y" ["a"] false)]).execute
        (.byKey (.joinCentroid "x"))).1 = .ok true := by
  intro s
  have hs : s.Attainable := Reachable.attainable ⟨oneInTwo, rfl⟩
  have hkeeps : ∀ r ∈ onEach.map (·.request), r.operation.keepsToNamed = true := by decide
  have hapart : (onEach.map (·.request)).Pairwise Call.Apart := by decide
  have hreverse := onEach.reverse_perm
  obtain ⟨hanswers, -, hown⟩ := hs.apart (List.forall_mem_map.1 hkeeps) hapart
    (hreverse.map (·.request))
  refine ⟨hs, hapart, hown hreverse, ?_⟩
  exact hanswers [.byKey (.deleteCentroid "z" false),
    .byKey (.removeDocumentsFromCentroid "y" ["a"] false)] (.byKey (.joinCentroid "x")) [] rfl
    fun _ ↦ .byKey

end Store

end CentroidRpc
