import CentroidRpc.Proofs.Store.Integrity
import CentroidRpc.Proofs.Store.Presence
import CentroidRpc.Proofs.Store.Refusal
import Mathlib.Logic.Basic

/-!
# What becomes of one centroid

A request names the centroids that it is to create, to delete and to join, and the documents that
are to come into a centroid or to leave it. If it succeeds, this alone decides what becomes of each
centroid (`Store.Intact.get?_answer`); if it fails, each one stays as it was.
-/

namespace CentroidRpc

namespace Call

variable {φ ℓ : Type}

/-- The centroids that a call is to create. -/
@[simp] def centroidsCreated : Call φ ℓ → List String
  | createCentroid id _ => [id]
  | multiCreateCentroids ids _ => ids
  | _ => []

/-- The centroids that a call is to delete. -/
@[simp] def centroidsDeleted : Call φ ℓ → List String
  | deleteCentroid id _ => [id]
  | multiDeleteCentroids ids _ => ids
  | _ => []

/-- The centroids that a call is to join. -/
@[simp] def centroidsJoined : Call φ ℓ → List String
  | joinCentroid id => [id]
  | multiJoinCentroids ids => ids
  | _ => []

/-- The documents that a call is to bring into a centroid. -/
@[simp] def addedTo (centroid : String) : Call φ ℓ → List String
  | addDocumentsToCentroid c ds _ => if c = centroid then ds else []
  | _ => []

/-- The documents that a call is to take out of a centroid, be it from this one alone or from the
whole store. -/
@[simp] def removedFrom (centroid : String) : Call φ ℓ → List String
  | removeDocumentsFromCentroid c ds _ => if c = centroid then ds else []
  | deleteDocument id _ => [id]
  | multiDeleteDocuments ids _ => ids
  | _ => []

end Call

namespace Centroid

variable {α : Type}

/-- New members do not change the vector. -/
@[simp] theorem vector_foldl_addMember (c : Centroid α) (ds : List String) :
    (ds.foldl addMember c).vector = c.vector := by
  induction ds generalizing c with
  | nil => rfl
  | cons d ds ih =>
    rw [List.foldl_cons, ih, addMember]
    split <;> rfl

/-- New members set the mark, and members that come again do not. -/
theorem dirty_foldl_addMember (c : Centroid α) (ds : List String) :
    (ds.foldl addMember c).dirty = (c.dirty || ds.any (!c.documents.contains ·)) := by
  induction ds generalizing c with
  | nil => rw [List.foldl_nil, List.any_nil, Bool.or_false]
  | cons d ds ih =>
    rw [List.foldl_cons, ih, List.any_cons]
    by_cases hd : d ∈ c.documents
    · rw [addMember, if_pos hd, List.contains_iff_mem.2 hd, Bool.not_true, Bool.false_or]
    · have hnew : c.documents.contains d = false :=
        Bool.eq_false_iff.2 (mt List.contains_iff_mem.1 hd)
      rw [addMember, if_neg hd, hnew, Bool.not_false, Bool.true_or, Bool.true_or, Bool.or_true]

/-- Members that leave set the mark, and documents that are no members do not. -/
theorem dirty_removeMembers (c : Centroid α) (ds : List String) :
    (c.removeMembers ds).dirty = (c.dirty || ds.any c.documents.contains) := by
  have hshorter : ((c.documents.filter (· ∉ ds)).length != c.documents.length) =
      ds.any c.documents.contains := by
    rw [Bool.eq_iff_iff, bne_iff_ne, ne_eq, List.length_filter_eq_length_iff, List.any_eq_true]
    simp only [decide_eq_true_eq, List.contains_iff_mem, not_forall, not_not, exists_prop, and_comm]
  show (c.dirty || _) = _
  rw [hshorter]

/-- A centroid stays as it is if those that are to leave it are no members. -/
theorem removeMembers_of_forall_not_mem {c : Centroid α} {ds : List String}
    (h : ∀ d ∈ ds, d ∉ c.documents) : c.removeMembers ds = c := by
  have hkept : c.documents.filter (· ∉ ds) = c.documents :=
    List.filter_eq_self.2 fun d hd ↦ decide_eq_true fun hmem ↦ h d hmem hd
  simp only [removeMembers, hkept, bne_self_eq_false, Bool.or_false]

end Centroid

namespace Store

variable {α : Type}

/-- Created centroids are found, without members if they are new, and all others are as before. -/
theorem get?_foldl_putCentroid (s : Store α) (ids : List String) (k : String) :
    (ids.foldl putCentroid s).members.get? k =
      (s.members.get? k).or (if k ∈ ids then some .empty else none) := by
  have hput (s : Store α) (id : String) : (s.putCentroid id).members.get? k =
      (s.members.get? k).or (if k = id then some .empty else none) := by
    unfold putCentroid
    split
    · next hid =>
      obtain ⟨c, hc⟩ := exists_of_hasCentroid hid
      by_cases hk : k = id
      · rw [hk, hc, Option.some_or]
      · rw [if_neg hk, Option.or_none]
    · next hid =>
      have hnone : s.members.get? id = none := Option.not_isSome_iff_eq_none.1 hid
      show (s.members.insert id .empty).get? k = _
      rw [Dict.get?_insert]
      by_cases hk : k = id
      · rw [if_pos hk, if_pos hk, hk, hnone, Option.none_or]
      · rw [if_neg hk, if_neg hk, Option.or_none]
  induction ids generalizing s with
  | nil => rw [List.foldl_nil, if_neg List.not_mem_nil, Option.or_none]
  | cons id ids ih =>
    rw [List.foldl_cons, ih, hput, Option.or_assoc]
    by_cases hk : k = id <;> simp [hk]

/-- Deleted centroids are not found, and all others are as before. -/
theorem get?_foldl_dropCentroid (s : Store α) (ids : List String) (k : String) :
    (ids.foldl dropCentroid s).members.get? k = if k ∈ ids then none else s.members.get? k := by
  have hdrop (s : Store α) (id : String) : (s.dropCentroid id).members.get? k =
      if k = id then none else s.members.get? k := by
    unfold dropCentroid
    split
    · exact Dict.get?_erase s.members id k
    · next hid =>
      have hnone : s.members.get? id = none := Option.not_isSome_iff_eq_none.1 hid
      by_cases hk : k = id
      · rw [if_pos hk, hk, hnone]
      · rw [if_neg hk]
  induction ids generalizing s with
  | nil => rw [List.foldl_nil, if_neg List.not_mem_nil]
  | cons id ids ih =>
    rw [List.foldl_cons, ih, hdrop]
    by_cases hk : k = id <;> simp [hk]

/-- Deleted documents leave every centroid. -/
theorem Intact.get?_foldl_dropDocument {s : Store α} (h : s.Intact) (ids : List String)
    (k : String) : (ids.foldl Store.dropDocument s).members.get? k =
      (s.members.get? k).map (·.removeMembers ids) := by
  have hdrop {s : Store α} (h : s.Intact) (id : String) : (s.dropDocument id).members.get? k =
      (s.members.get? k).map (·.removeMembers [id]) := by
    unfold Store.dropDocument
    split
    · exact Dict.get?_map _ s.members k
    -- A document that does not exist is no member of any centroid.
    · next hid =>
      have hkept : ∀ c, s.members.get? k = some c → c.removeMembers [id] = c := by
        intro c hc
        apply Centroid.removeMembers_of_forall_not_mem
        intro d hd hmem
        rw [List.mem_singleton.1 hd] at hmem
        exact hid ((h.members k c hc).stored id hmem)
      cases hc : s.members.get? k with
      | none => rfl
      | some c => rw [Option.map_some, hkept c hc]
  induction ids generalizing s with
  | nil =>
    have hkept : (fun c : Centroid α ↦ c.removeMembers []) = fun c ↦ c :=
      funext Centroid.removeMembers_nil
    rw [List.foldl_nil, hkept, Option.map_id']
  | cons id ids ih =>
    rw [List.foldl_cons, ih (h.dropDocument id), hdrop h, Option.map_map]
    congr 1
    funext c
    exact c.removeMembers_removeMembers [id] ids

/-- What is told of a success in another way was one. -/
theorem ok_of_map {β γ : Type} {o : Except Failure β} {g : β → γ} {v : γ}
    (h : o.map g = .ok v) : ∃ u, o = .ok u := by
  cases o with
  | error f => cases h
  | ok u => exact ⟨u, rfl⟩

/-- What is not refused is carried out. -/
theorem snd_of_ok {refused : Bool} {f : Failure} {s t : Store α} {u : Unit}
    (h : (if refused then (.error f, s) else (.ok (), t) : Except Failure Unit × Store α).1 =
      .ok u) :
    (if refused then (.error f, s) else (.ok (), t) : Except Failure Unit × Store α).2 = t := by
  split at h
  · cases h
  · next hnot => rw [if_neg hnot]

private theorem get?_insert_of_some {s : Store α} {centroid : String} {c : Centroid α}
    (hc : s.members.get? centroid = some c) (f : Centroid α → List String → Centroid α)
    (hf : ∀ c, f c [] = c) (ds : List String) (k : String) :
    (s.members.insert centroid (f c ds)).get? k =
      (s.members.get? k).map (f · (if centroid = k then ds else [])) := by
  rw [Dict.insert_eq_modify hc (f · ds), Dict.get?_modify]
  by_cases hk : k = centroid
  · rw [if_pos hk, if_pos hk.symm]
  · simp only [if_neg hk, if_neg (Ne.symm hk), hf, Option.map_id']

private theorem Intact.get?_deleteDocuments {s : Store α} (h : s.Intact) {ids : List String}
    {b : Bool} {u : Unit} (hok : (s.deleteDocuments ids b).1 = .ok u) (k : String) :
    (s.deleteDocuments ids b).2.members.get? k = (s.members.get? k).map (·.removeMembers ids) := by
  have hdone : (s.deleteDocuments ids b).2 = _ := snd_of_ok hok
  rw [hdone, h.get?_foldl_dropDocument]

private theorem get?_createCentroids {s : Store α} {ids : List String} {b : Bool} {u : Unit}
    (hok : (s.createCentroids ids b).1 = .ok u) (k : String) :
    (s.createCentroids ids b).2.members.get? k =
      (s.members.get? k).or (if k ∈ ids then some .empty else none) := by
  have hdone : (s.createCentroids ids b).2 = _ := snd_of_ok hok
  rw [hdone, get?_foldl_putCentroid]

private theorem get?_deleteCentroids {s : Store α} {ids : List String} {b : Bool} {u : Unit}
    (hok : (s.deleteCentroids ids b).1 = .ok u) (k : String) :
    (s.deleteCentroids ids b).2.members.get? k =
      if k ∈ ids then none else s.members.get? k := by
  have hdone : (s.deleteCentroids ids b).2 = _ := snd_of_ok hok
  rw [hdone, get?_foldl_dropCentroid]

private theorem get?_addDocuments {s : Store α} {centroid : String} {ds : List String} {b : Bool}
    {u : Unit} (hok : (s.addDocuments centroid ds b).1 = .ok u) (k : String) :
    (s.addDocuments centroid ds b).2.members.get? k =
      (s.members.get? k).map ((if centroid = k then ds else []).foldl Centroid.addMember) := by
  unfold addDocuments at hok ⊢
  split at hok
  · cases hok
  · next c hc =>
    split at hok
    · cases hok
    · next hexist =>
      rw [if_neg hexist, snd_of_ok hok]
      exact get?_insert_of_some hc (fun c ds ↦ ds.foldl Centroid.addMember c) (fun _ ↦ rfl) ds k

private theorem get?_removeDocuments {s : Store α} {centroid : String} {ds : List String}
    {b : Bool} {u : Unit} (hok : (s.removeDocuments centroid ds b).1 = .ok u) (k : String) :
    (s.removeDocuments centroid ds b).2.members.get? k =
      (s.members.get? k).map (·.removeMembers (if centroid = k then ds else [])) := by
  unfold removeDocuments at hok ⊢
  split at hok
  · cases hok
  · next c hc =>
    rw [snd_of_ok hok]
    exact get?_insert_of_some hc Centroid.removeMembers Centroid.removeMembers_nil ds k

variable [Weight α]

/-- A centroid after it has been joined. -/
def joined (s : Store α) (c : Centroid α) : Centroid α :=
  { c with vector := s.joinedVector c.documents, dirty := false }

/-- Joined centroids are found as such, and all others are as before. -/
theorem get?_joinAll (s : Store α) (ids : List String) (k : String) :
    (s.joinAll ids).2.members.get? k =
      if k ∈ ids then (s.members.get? k).map s.joined else s.members.get? k := by
  induction ids generalizing s with
  | nil => rfl
  | cons id ids ih =>
    have hjoin : (s.join id).members.get? k =
        if k = id then (s.members.get? k).map s.joined else s.members.get? k :=
      Dict.get?_modify s.members id k s.joined
    cases hid : s.members.get? id with
    | none =>
      have hskip : s.joinAll (id :: ids) = s.joinAll ids := by simp only [joinAll, hid]
      rw [hskip, ih]
      by_cases hk : k = id
      · rw [hk, hid, Option.map_none, ite_self, ite_self]
      · simp [hk]
    | some c =>
      have hnext : (s.joinAll (id :: ids)).2 = ((s.join id).joinAll ids).2 := by
        simp only [joinAll, hid]
      -- What a join makes of a centroid depends on the documents only, and they stay.
      have htwice : ((s.members.get? k).map s.joined).map (s.join id).joined =
          (s.members.get? k).map s.joined := by
        cases s.members.get? k <;> rfl
      have hsame : (s.members.get? k).map (s.join id).joined =
          (s.members.get? k).map s.joined := rfl
      rw [hnext, ih, hjoin]
      by_cases hk : k = id
      · rw [if_pos hk, htwice, ite_self, if_pos (hk ▸ List.mem_cons_self)]
      · simp only [hk, if_false, hsame, List.mem_cons, false_or]

/-- Whether a request is carried out. -/
def Succeeds (s : Store α) (r : Request) : Prop := ∃ v, (s.answer r).1 = .ok v

/-- A request that is not carried out leaves the store as it was. -/
theorem answer_of_not_succeeds {s : Store α} {r : Request} (h : ¬ s.Succeeds r) :
    (s.answer r).2 = s := by
  cases hanswer : (s.answer r).1 with
  | ok v => exact absurd ⟨v, hanswer⟩ h
  | error f => exact atomic_answer s r f hanswer

/-- What a successful request makes of a centroid that exists or does not. -/
def turned (s : Store α) (r : Request) (id : String) : Option (Centroid α) → Option (Centroid α)
  | none => if id ∈ r.centroidsCreated then some .empty else none
  | some c =>
    if id ∈ r.centroidsDeleted then none
    else if id ∈ r.centroidsJoined then some (s.joined c)
    else some (((r.addedTo id).foldl Centroid.addMember c).removeMembers (r.removedFrom id))

/-- A request leaves a centroid as it is if it neither creates, deletes nor joins it and no document
comes into it or leaves it. -/
theorem turned_of_not_mem {r : Request} {id : String} (hcreated : id ∉ r.centroidsCreated)
    (hdeleted : id ∉ r.centroidsDeleted) (hjoined : id ∉ r.centroidsJoined)
    (hadded : r.addedTo id = []) (hremoved : r.removedFrom id = []) (s : Store α)
    (o : Option (Centroid α)) : s.turned r id o = o := by
  cases o with
  | none => rw [turned, if_neg hcreated]
  | some c =>
    rw [turned, if_neg hdeleted, if_neg hjoined, hadded, hremoved, List.foldl_nil,
      Centroid.removeMembers_nil]

private theorem get?_joinCentroids {s : Store α} {ids : List String} {flags : List Bool}
    (hok : (s.joinCentroids ids).1 = .ok flags) (k : String) :
    (s.joinCentroids ids).2.members.get? k =
      if k ∈ ids then (s.members.get? k).map s.joined else s.members.get? k := by
  unfold joinCentroids at hok ⊢
  split at hok
  · cases hok
  · next hnot =>
    rw [if_neg hnot]
    exact get?_joinAll s ids k

/-- A successful request makes of each centroid what its ids say. -/
theorem Intact.get?_answer {s : Store α} (h : s.Intact) {r : Request} (hok : s.Succeeds r)
    (id : String) : (s.answer r).2.members.get? id = s.turned r id (s.members.get? id) := by
  have hnone : id ∉ ([] : List String) := List.not_mem_nil
  obtain ⟨v, hv⟩ := hok
  cases r with
  | deleteDocument d b =>
    obtain ⟨u, hu⟩ := ok_of_map hv
    refine (h.get?_deleteDocuments hu id).trans ?_
    cases s.members.get? id <;> simp [turned]
  | multiDeleteDocuments ds b =>
    obtain ⟨u, hu⟩ := ok_of_map hv
    refine (h.get?_deleteDocuments hu id).trans ?_
    cases s.members.get? id <;> simp [turned]
  | createCentroid c b =>
    obtain ⟨u, hu⟩ := ok_of_map hv
    refine (get?_createCentroids hu id).trans ?_
    cases s.members.get? id <;> simp [turned]
  | multiCreateCentroids cs b =>
    obtain ⟨u, hu⟩ := ok_of_map hv
    refine (get?_createCentroids hu id).trans ?_
    cases s.members.get? id with
    | none => rfl
    | some c => simp [turned]
  | deleteCentroid c b =>
    obtain ⟨u, hu⟩ := ok_of_map hv
    refine (get?_deleteCentroids hu id).trans ?_
    cases s.members.get? id <;> simp [turned]
  | multiDeleteCentroids cs b =>
    obtain ⟨u, hu⟩ := ok_of_map hv
    refine (get?_deleteCentroids hu id).trans ?_
    cases s.members.get? id <;> simp [turned]
  | joinCentroid c =>
    obtain ⟨u, hu⟩ := ok_of_map hv
    refine (get?_joinCentroids hu id).trans ?_
    cases s.members.get? id <;> simp [turned]
  | multiJoinCentroids cs =>
    refine (get?_joinCentroids hv id).trans ?_
    cases s.members.get? id <;> simp [turned]
  | addDocumentsToCentroid c ds b =>
    refine (get?_addDocuments hv id).trans ?_
    cases s.members.get? id <;> simp [turned]
  | removeDocumentsFromCentroid c ds b =>
    refine (get?_removeDocuments hv id).trans ?_
    cases s.members.get? id <;> simp [turned]
  | createDocument text l =>
    exact (turned_of_not_mem hnone hnone hnone rfl rfl s _).symm
  | createDocumentWithId d text l =>
    refine Eq.trans ?_ (turned_of_not_mem hnone hnone hnone rfl rfl s _).symm
    show (s.createDocumentWithId d text l).2.members.get? id = _
    unfold createDocumentWithId
    split <;> rfl
  | _ => exact (turned_of_not_mem hnone hnone hnone rfl rfl s _).symm

end Store

end CentroidRpc
