import CentroidRpc.Proofs.RealVectors
import CentroidRpc.Proofs.Store.Listings

/-!
# Orders in which new vectors are scaled

A sum of machine numbers depends on their order, and so does the length of a vector. When centroids
are joined in other orders, the same is told of them, and all that can differ afterwards is the
scale of their vectors (`Store.SameButOrder.joinCentroids`). Over the real numbers even that is the
same (`Store.SameButOrder.eq`).
-/

namespace CentroidRpc

variable {α : Type} [Weight α]

/-- Vectors that are the same, or that come of one sum by scaling it in two orders. -/
inductive TermVector.SameButOrder : TermVector α → TermVector α → Prop where
  | same (v : TermVector α) : SameButOrder v v
  | scaled (sum : TermVector α) (order order' : EntryOrder α) :
      SameButOrder (sum.normalized order) (sum.normalized order')

/-- Over the real numbers such vectors are the same. -/
theorem TermVector.SameButOrder.eq {v w : TermVector ℝ} (h : v.SameButOrder w) : v = w := by
  cases h with
  | same => rfl
  | scaled sum order order' =>
    exact (normalized_order sum order).trans (normalized_order sum order').symm

/-- Centroids with the same members and mark, whose vectors are the same but for an order. -/
structure Centroid.SameButOrder (c c' : Centroid α) : Prop where
  documents : c.documents = c'.documents
  vector : c.vector.SameButOrder c'.vector
  dirty : c.dirty = c'.dirty

namespace Store

omit [Weight α] in
/-- A centroid of which something is kept in both of two stores, or in neither, exists in both or in
neither. -/
theorem hasCentroid_of_rel {R : Centroid α → Centroid α → Prop} {s t : Store α} {id : String}
    (h : Option.Rel R (s.members.get? id) (t.members.get? id)) :
    s.hasCentroid id = t.hasCentroid id := by
  rw [hasCentroid, hasCentroid, Dict.contains, Dict.contains]
  generalize s.members.get? id = o, t.members.get? id = o' at h
  cases h <;> rfl

omit [Weight α] in
/-- If the same centroids exist, the same are missing. -/
theorem any_not_hasCentroid_congr {s t : Store α} {ids : List String}
    (h : ∀ id ∈ ids, s.hasCentroid id = t.hasCentroid id) :
    ids.any (!s.hasCentroid ·) = ids.any (!t.hasCentroid ·) := by
  rw [Bool.eq_iff_iff, List.any_eq_true, List.any_eq_true]
  exact exists_congr fun id ↦ and_congr_right fun hid ↦ by rw [h id hid]

section JoinAll

variable {R : Store α → Store α → Prop} {ids : List String} {orders orders' : Nat → EntryOrder α}
  {s t : Store α}

/-- What lasts between two stores when a centroid is joined in both, lasts when several are; and if
the marks are the same, the same is told of them. -/
theorem joinAll_rel
    (hmarks : ∀ {s t}, R s t → ∀ id ∈ ids,
      Option.Rel (·.dirty = ·.dirty) (s.members.get? id) (t.members.get? id))
    (hjoin : ∀ {s t}, R s t → ∀ id n, R (s.join id (orders n)) (t.join id (orders' n)))
    (h : R s t) : (s.joinAll ids orders).1 = (t.joinAll ids orders').1 ∧
      R (s.joinAll ids orders).2 (t.joinAll ids orders').2 := by
  induction ids generalizing s t orders orders' with
  | nil => exact ⟨rfl, h⟩
  | cons id ids ih =>
    have hid := hmarks h id List.mem_cons_self
    have ih {s t : Store α} (h : R s t) :=
      ih (fun h id hid ↦ hmarks h id (List.mem_cons_of_mem _ hid))
        (fun h id n ↦ hjoin h id (n + 1)) h
    generalize hs : s.members.get? id = o, ht : t.members.get? id = o' at hid
    cases hid with
    | none =>
      rw [joinAll_cons_of_none hs, joinAll_cons_of_none ht]
      exact ih h
    | some hc =>
      obtain ⟨hflags, hrel⟩ := ih (hjoin h id 0)
      rw [joinAll_cons_of_some hs, joinAll_cons_of_some ht, hflags, hc]
      exact ⟨rfl, hrel⟩

/-- The same holds if they all have to exist. -/
theorem joinCentroids_rel
    (hmarks : ∀ {s t}, R s t → ∀ id ∈ ids,
      Option.Rel (·.dirty = ·.dirty) (s.members.get? id) (t.members.get? id))
    (hjoin : ∀ {s t}, R s t → ∀ id n, R (s.join id (orders n)) (t.join id (orders' n)))
    (h : R s t) : (s.joinCentroids ids orders).1 = (t.joinCentroids ids orders').1 ∧
      R (s.joinCentroids ids orders).2 (t.joinCentroids ids orders').2 := by
  have hmissing : ids.any (!s.hasCentroid ·) = ids.any (!t.hasCentroid ·) :=
    any_not_hasCentroid_congr fun id hid ↦ hasCentroid_of_rel (hmarks h id hid)
  obtain ⟨hflags, hrel⟩ := joinAll_rel hmarks hjoin h
  unfold joinCentroids
  rw [hmissing]
  split
  · exact ⟨rfl, h⟩
  · exact ⟨congrArg Except.ok hflags, hrel⟩

end JoinAll

/-- Stores that are the same but for the orders in which the vectors of centroids were scaled. -/
structure SameButOrder (s t : Store α) : Prop where
  rest : s.withoutMembers = t.withoutMembers
  members : ∀ id, Option.Rel Centroid.SameButOrder (s.members.get? id) (t.members.get? id)

namespace SameButOrder

/-- What is kept of a centroid is the same as itself. -/
theorem rel_refl (o : Option (Centroid α)) : Option.Rel Centroid.SameButOrder o o := by
  cases o with
  | none => exact .none
  | some c => exact .some ⟨rfl, .same c.vector, rfl⟩

/-- A store is the same as itself. -/
theorem refl (s : Store α) : s.SameButOrder s := ⟨rfl, fun id ↦ rel_refl (s.members.get? id)⟩

variable {s t : Store α}

private theorem joinedVector (h : s.SameButOrder t) (ds : List String)
    (order order' : EntryOrder α) :
    (s.joinedVector ds order).SameButOrder (t.joinedVector ds order') := by
  have hcontents : s.contents = t.contents :=
    (documents_of_withoutCentroids (withoutCentroids_of_withoutMembers h.rest)).2
  rw [joinedVector_eq s ds order, joinedVector_eq t ds order', hcontents]
  exact .scaled _ order order'

/-- A centroid may be joined in two orders. -/
theorem join (h : s.SameButOrder t) (id : String) (order order' : EntryOrder α) :
    (s.join id order).SameButOrder (t.join id order') := by
  refine ⟨h.rest, fun k ↦ ?_⟩
  have hk := h.members k
  show Option.Rel _ ((s.members.modify id _).get? k) ((t.members.modify id _).get? k)
  rw [Dict.get?_modify, Dict.get?_modify]
  split
  · generalize s.members.get? k = o, t.members.get? k = o' at hk
    cases hk with
    | none => exact .none
    | @some c c' hc =>
      refine .some ⟨hc.documents, ?_, rfl⟩
      show (s.joinedVector c.documents order).SameButOrder (t.joinedVector c'.documents order')
      rw [← hc.documents]
      exact h.joinedVector c.documents order order'
  · exact hk

private theorem rel_dirty (h : s.SameButOrder t) (id : String) :
    Option.Rel (·.dirty = ·.dirty) (s.members.get? id) (t.members.get? id) := by
  have hid := h.members id
  generalize s.members.get? id = o, t.members.get? id = o' at hid
  cases hid with
  | none => exact .none
  | some hc => exact .some hc.dirty

/-- Centroids may be joined in two rows of orders, and the same is told of them. -/
theorem joinCentroids (h : s.SameButOrder t) (ids : List String)
    (orders orders' : Nat → EntryOrder α) :
    (s.joinCentroids ids orders).1 = (t.joinCentroids ids orders').1 ∧
      (s.joinCentroids ids orders).2.SameButOrder (t.joinCentroids ids orders').2 :=
  joinCentroids_rel (fun h id _ ↦ h.rel_dirty id) (fun h id n ↦ h.join id (orders n) (orders' n)) h

/-- Over the real numbers such stores are the same. -/
theorem eq {s t : Store ℝ} (h : s.SameButOrder t) : s = t := by
  refine ext_of_members h.rest fun id ↦ ?_
  have hid := h.members id
  generalize s.members.get? id = o, t.members.get? id = o' at hid
  cases hid with
  | none => rfl
  | @some c c' hc =>
    obtain ⟨documents, vector, dirty⟩ := c
    obtain ⟨documents', vector', dirty'⟩ := c'
    obtain ⟨rfl, hvector, rfl⟩ := hc
    obtain rfl : vector = vector' := hvector.eq
    rfl

end SameButOrder

end Store

end CentroidRpc
