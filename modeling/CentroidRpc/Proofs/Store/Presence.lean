import CentroidRpc.Proofs.Store.Change

/-!
# What exists after a small change

Each small change makes one document or one centroid come or go, or none, and every other one exists
as before. The same is said of the members of one centroid (`Store.hasMember`).
-/

namespace CentroidRpc

variable {α : Type}

namespace Centroid

/-- The members after one more has come are those from before and that one. -/
theorem mem_addMember {c : Centroid α} {d k : String} :
    k ∈ (c.addMember d).documents ↔ k = d ∨ k ∈ c.documents := by
  unfold addMember
  split
  · next hd => exact ⟨.inr, fun h ↦ h.elim (fun hk ↦ hk ▸ hd) fun hk ↦ hk⟩
  · rw [List.mem_append, List.mem_singleton, or_comm]

/-- The members after some have left are the others. -/
theorem mem_removeMembers {c : Centroid α} {ds : List String} {k : String} :
    k ∈ (c.removeMembers ds).documents ↔ k ∉ ds ∧ k ∈ c.documents := by
  show k ∈ c.documents.filter _ ↔ _
  rw [List.mem_filter, decide_eq_true_iff, and_comm]

/-- Without some members to leave, a centroid stays as it is. -/
@[simp] theorem removeMembers_nil (c : Centroid α) : c.removeMembers [] = c := by
  have hkept : c.documents.filter (· ∉ ([] : List String)) = c.documents :=
    List.filter_eq_self.2 fun _ _ ↦ decide_eq_true List.not_mem_nil
  simp only [removeMembers, hkept, bne_self_eq_false, Bool.or_false]

/-- Members that leave in two groups leave together. The mark is set if one of the groups takes a
member with it, since a list that has become shorter does not grow again. -/
theorem removeMembers_removeMembers (c : Centroid α) (ds es : List String) :
    (c.removeMembers ds).removeMembers es = c.removeMembers (ds ++ es) := by
  have hkept : (c.documents.filter (· ∉ ds)).filter (· ∉ es) =
      c.documents.filter (· ∉ ds ++ es) := by
    rw [List.filter_filter]
    congr 1
    funext d
    simp [Bool.and_comm]
  have hfirst := List.length_filter_le (fun d ↦ decide (d ∉ ds)) c.documents
  have hsecond := List.length_filter_le (fun d ↦ decide (d ∉ es))
    (c.documents.filter fun d ↦ decide (d ∉ ds))
  simp only [removeMembers, hkept] at hsecond ⊢
  congr 1
  rw [Bool.or_assoc]
  congr 1
  rw [Bool.eq_iff_iff, Bool.or_eq_true, bne_iff_ne, bne_iff_ne, bne_iff_ne]
  omega

/-- Members that leave one after the other leave together. -/
theorem foldl_removeMembers (c : Centroid α) (ds : List String) :
    ds.foldl (fun c d ↦ c.removeMembers [d]) c = c.removeMembers ds := by
  induction ds generalizing c with
  | nil => exact (removeMembers_nil c).symm
  | cons d ds ih => exact (ih _).trans (removeMembers_removeMembers c [d] ds)

end Centroid

namespace Store

variable {s : Store α}

/-- Whether a document is a member of a centroid that exists. -/
def hasMember (s : Store α) (centroid document : String) : Bool :=
  (s.members.get? centroid).any (·.documents.contains document)

/-- A created centroid exists. -/
theorem hasCentroid_putCentroid (s : Store α) (id k : String) :
    (s.putCentroid id).hasCentroid k = (k == id || s.hasCentroid k) := by
  unfold putCentroid
  split
  · next hid =>
    by_cases hk : k = id
    · rw [hk, hid, Bool.or_true]
    · rw [beq_eq_false_iff_ne.2 hk, Bool.false_or]
  · exact Dict.contains_insert s.members id k _

/-- A deleted centroid does not exist. -/
theorem hasCentroid_dropCentroid (s : Store α) (id k : String) :
    (s.dropCentroid id).hasCentroid k = (k != id && s.hasCentroid k) := by
  unfold dropCentroid
  split
  · exact Dict.contains_erase s.members id k
  · next hid =>
    by_cases hk : k = id
    · rw [hk, Bool.eq_false_iff.2 hid, Bool.and_false]
    · rw [bne_iff_ne.2 hk, Bool.true_and]

/-- A change of a centroid makes none. -/
theorem hasCentroid_modifyCentroid (s : Store α) (id k : String) (f : Centroid α → Centroid α) :
    (s.modifyCentroid id f).hasCentroid k = s.hasCentroid k :=
  Dict.contains_modify s.members id k f

/-- A deleted document does not exist. -/
theorem hasDocument_dropDocument (s : Store α) (id k : String) :
    (s.dropDocument id).hasDocument k = (k != id && s.hasDocument k) := by
  unfold dropDocument
  split
  · exact Dict.contains_erase s.contents id k
  · next hid =>
    by_cases hk : k = id
    · rw [hk, Bool.eq_false_iff.2 hid, Bool.and_false]
    · rw [bne_iff_ne.2 hk, Bool.true_and]

/-- A centroid that exists is found. -/
theorem exists_of_hasCentroid {id : String} (h : s.hasCentroid id = true) :
    ∃ c, s.members.get? id = some c :=
  Option.isSome_iff_exists.1 h

/-- A centroid that is found exists. -/
theorem hasCentroid_of_get? {id : String} {c : Centroid α} (h : s.members.get? id = some c) :
    s.hasCentroid id = true :=
  Option.isSome_iff_exists.2 ⟨c, h⟩

/-- A centroid that is not found does not exist. -/
theorem hasCentroid_of_get?_none {id : String} (h : s.members.get? id = none) :
    s.hasCentroid id = false :=
  Option.isSome_eq_false_iff.2 (Option.isNone_iff_eq_none.2 h)

/-- The members of a centroid that is found. -/
theorem hasMember_of_get? {id : String} {c : Centroid α} (h : s.members.get? id = some c)
    (d : String) : s.hasMember id d = c.documents.contains d := by
  rw [hasMember, h, Option.any_some]

/-- A document that has come into a centroid is a member. -/
theorem hasMember_addMember {id : String} (h : s.hasCentroid id = true) (d k : String) :
    (s.modifyCentroid id (·.addMember d)).hasMember id k = (k == d || s.hasMember id k) := by
  obtain ⟨c, hc⟩ := exists_of_hasCentroid h
  have hc' : (s.modifyCentroid id (·.addMember d)).members.get? id = some (c.addMember d) := by
    rw [get?_modifyCentroid, hc, Option.map_some]
  rw [hasMember_of_get? hc, hasMember_of_get? hc', Bool.eq_iff_iff, Bool.or_eq_true, beq_iff_eq,
    List.contains_iff_mem, List.contains_iff_mem, Centroid.mem_addMember]

/-- Documents that have left a centroid are no members. -/
theorem hasMember_removeMembers (s : Store α) (id : String) (ds : List String) (k : String) :
    (s.modifyCentroid id (·.removeMembers ds)).hasMember id k =
      (!ds.contains k && s.hasMember id k) := by
  unfold hasMember
  rw [get?_modifyCentroid]
  cases s.members.get? id with
  | none => rw [Option.map_none, Option.any_none, Bool.and_false]
  | some c =>
    rw [Option.map_some, Option.any_some, Option.any_some, Bool.eq_iff_iff, Bool.and_eq_true,
      Bool.not_eq_true', List.contains_iff_mem, List.contains_iff_mem, Centroid.mem_removeMembers,
      ← Bool.not_eq_true, List.contains_iff_mem]

/-- Changes of one centroid, one for each of some documents, are one change. -/
theorem foldl_modifyCentroid (s : Store α) (id : String) (f : Centroid α → String → Centroid α)
    (ds : List String) :
    ds.foldl (fun s d ↦ s.modifyCentroid id (f · d)) s = s.modifyCentroid id (ds.foldl f ·) := by
  induction ds generalizing s with
  | nil => exact (modifyCentroid_id s id).symm
  | cons d ds ih => rw [List.foldl_cons, ih, modifyCentroid_modifyCentroid]; rfl

/-- Joining makes no centroid. -/
theorem hasCentroid_join [Weight α] (s : Store α) (id k : String) :
    (s.join id).hasCentroid k = s.hasCentroid k :=
  hasCentroid_modifyCentroid s id k _

end Store

end CentroidRpc
