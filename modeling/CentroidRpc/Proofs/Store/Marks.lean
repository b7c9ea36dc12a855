import CentroidRpc.Proofs.Store.Batch
import CentroidRpc.Proofs.Store.Centroids
import CentroidRpc.Proofs.Store.History
import Mathlib.Data.List.Induction

/-!
# What the joining of a centroid tells of its history

The mark of a centroid sums up what has been asked so far: it is set exactly if some request altered
the list of members and no later one settled the centroid, by joining it or by creating it anew
(`Store.dirty_iff_unsettled`). The answer to a join is the mark as it was before
(`Store.join_tells_history`).
-/

namespace CentroidRpc

namespace Call

variable {φ ℓ : Type}

/-- No call is both to bring documents into a centroid and to take documents out of it. -/
theorem addedTo_eq_nil_or (call : Call φ ℓ) (centroid : String) :
    call.addedTo centroid = [] ∨ call.removedFrom centroid = [] := by
  cases call with
  | addDocumentsToCentroid c ds b => exact .inr rfl
  | _ => exact .inl rfl

/-- A call that is to join a centroid brings no documents in and takes none out. -/
theorem memberless_of_joined {call : Call φ ℓ} {id : String} (h : id ∈ call.centroidsJoined)
    (centroid : String) : call.addedTo centroid = [] ∧ call.removedFrom centroid = [] := by
  cases call with
  | joinCentroid c => exact ⟨rfl, rfl⟩
  | multiJoinCentroids cs => exact ⟨rfl, rfl⟩
  | _ => exact absurd h List.not_mem_nil

end Call

namespace Centroid

variable {α : Type} {c : Centroid α} {ds : List String}

/-- The members after some more have come are those from before and these. -/
theorem mem_foldl_addMember {k : String} :
    k ∈ (ds.foldl addMember c).documents ↔ k ∈ ds ∨ k ∈ c.documents := by
  induction ds generalizing c with
  | nil => rw [List.foldl_nil, List.mem_nil_iff, false_or]
  | cons d ds ih => rw [List.foldl_cons, ih, mem_addMember, List.mem_cons, or_left_comm, or_assoc]

/-- A centroid stays as it is if those that are to come are members already. -/
theorem foldl_addMember_of_forall_mem (h : ∀ d ∈ ds, d ∈ c.documents) :
    ds.foldl addMember c = c := by
  induction ds with
  | nil => rfl
  | cons d ds ih =>
    rw [List.foldl_cons, addMember, if_pos (h d List.mem_cons_self)]
    exact ih fun d hd ↦ h d (List.mem_cons_of_mem _ hd)

private theorem foldl_addMember_of_new {d : String} (hd : d ∈ ds) (hnew : d ∉ c.documents) :
    (ds.foldl addMember c).dirty = true ∧ (ds.foldl addMember c).documents ≠ c.documents := by
  constructor
  · have hany : ds.any (!c.documents.contains ·) = true :=
      List.any_eq_true.2 ⟨d, hd, by simpa using hnew⟩
    rw [dirty_foldl_addMember, hany, Bool.or_true]
  · intro hsame
    exact hnew (hsame ▸ mem_foldl_addMember.2 (.inl hd))

private theorem removeMembers_of_mem {d : String} (hd : d ∈ ds) (hmem : d ∈ c.documents) :
    (c.removeMembers ds).dirty = true ∧ (c.removeMembers ds).documents ≠ c.documents := by
  constructor
  · have hany : ds.any c.documents.contains = true :=
      List.any_eq_true.2 ⟨d, hd, List.contains_iff_mem.2 hmem⟩
    rw [dirty_removeMembers, hany, Bool.or_true]
  · intro hsame
    rw [← hsame] at hmem
    exact (mem_removeMembers.1 hmem).1 hd

end Centroid

namespace Store

variable {α : Type} [Weight α]

/-- Whether a request settles a centroid: it joins the centroid, or it creates it where there is
none. -/
def Settles (s : Store α) (id : String) (r : Request) : Prop :=
  s.Succeeds r ∧
    (id ∈ r.centroidsJoined ∨ id ∈ r.centroidsCreated ∧ s.hasCentroid id = false)

/-- Whether a request alters the list of members of a centroid: a document comes in that is no
member, or one that is a member leaves the centroid or is deleted. -/
def Alters (s : Store α) (id : String) (r : Request) : Prop :=
  s.Succeeds r ∧ ∃ c, s.members.get? id = some c ∧
    ((∃ d ∈ r.addedTo id, d ∉ c.documents) ∨ ∃ d ∈ r.removedFrom id, d ∈ c.documents)

/-- Among some requests there is one that did something to a centroid, and none after it settled the
centroid. -/
def Unsettled (event : Store α → String → Request → Prop) (rs : List Request) (id : String) :
    Prop :=
  ∃ before r after, rs = before ++ r :: after ∧ event (empty.run before) id r ∧
    ∀ between r' rest, after = between ++ r' :: rest →
      ¬ (empty.run (before ++ r :: between) : Store α).Settles id r'

/-- A centroid is unsettled if something was done to it since it was settled. -/
theorem unsettled_iff_since {event : Store α → String → Request → Prop} {rs : List Request}
    {id : String} :
    Unsettled event rs id ↔ Since (fun s r ↦ event s id r) (fun s r ↦ s.Settles id r) rs :=
  Iff.rfl

/-- After one more request, either it did something to the centroid, or one before did and the last
one does not settle the centroid. -/
theorem unsettled_concat {event : Store α → String → Request → Prop} {rs : List Request}
    {r : Request} {id : String} : Unsettled event (rs ++ [r]) id ↔
      event (empty.run rs) id r ∨
        Unsettled event rs id ∧ ¬ (empty.run rs : Store α).Settles id r := by
  rw [unsettled_iff_since, unsettled_iff_since, since_concat]

private theorem Settles.not_alters {s : Store α} {id : String} {r : Request} (h : s.Settles id r) :
    ¬ s.Alters id r := by
  rintro ⟨-, c, hc, halters⟩
  rcases h.2 with hjoined | ⟨-, hnew⟩
  · obtain ⟨hadded, hremoved⟩ := Call.memberless_of_joined hjoined id
    rw [hadded, hremoved] at halters
    rcases halters with ⟨d, hd, -⟩ | ⟨d, hd, -⟩ <;> exact absurd hd List.not_mem_nil
  · rw [hasCentroid_of_get? hc] at hnew
    cases hnew

variable {s : Store α} {r : Request} {id : String} {c c' : Centroid α}

private theorem Alters.turned (halters : s.Alters id r) (hc : s.members.get? id = some c)
    (hc' : s.turned r id (some c) = some c') :
    c'.dirty = true ∧ c'.documents ≠ c.documents := by
  have hjoined : id ∉ r.centroidsJoined := fun hid ↦
    Settles.not_alters ⟨halters.1, .inl hid⟩ halters
  obtain ⟨-, found, hfound, halters⟩ := halters
  rw [hc] at hfound
  cases hfound
  rw [Store.turned, if_neg hjoined] at hc'
  split at hc'
  · cases hc'
  · rw [← Option.some.inj hc']
    rcases r.addedTo_eq_nil_or id with hadded | hremoved
    · rw [hadded] at halters ⊢
      rcases halters with ⟨d, hd, -⟩ | ⟨d, hd, hmem⟩
      · exact absurd hd List.not_mem_nil
      · exact Centroid.removeMembers_of_mem hd hmem
    · rw [hremoved] at halters ⊢
      rw [Centroid.removeMembers_nil]
      rcases halters with ⟨d, hd, hnew⟩ | ⟨d, hd, -⟩
      · exact Centroid.foldl_addMember_of_new hd hnew
      · exact absurd hd List.not_mem_nil

private theorem turned_of_not_alters (hok : s.Succeeds r) (hc : s.members.get? id = some c)
    (hc' : s.turned r id (some c) = some c') (halters : ¬ s.Alters id r)
    (hjoined : id ∉ r.centroidsJoined) : c' = c := by
  rw [turned, if_neg hjoined] at hc'
  split at hc'
  · cases hc'
  · rw [← Option.some.inj hc']
    have hadded : ∀ d ∈ r.addedTo id, d ∈ c.documents := fun d hd ↦
      Classical.not_not.1 fun hnew ↦ halters ⟨hok, c, hc, .inl ⟨d, hd, hnew⟩⟩
    have hremoved : ∀ d ∈ r.removedFrom id, d ∉ c.documents := fun d hd hmem ↦
      halters ⟨hok, c, hc, .inr ⟨d, hd, hmem⟩⟩
    rw [Centroid.foldl_addMember_of_forall_mem hadded,
      Centroid.removeMembers_of_forall_not_mem hremoved]

/-- What a request does to a centroid that is there afterwards. -/
inductive CentroidEffect (s : Store α) (id : String) (r : Request) :
    Option (Centroid α) → Centroid α → Prop where
  /-- It is created where there was none. -/
  | created (settles : s.Settles id r) : CentroidEffect s id r none .empty
  /-- It is joined. -/
  | joined (settles : s.Settles id r) (c : Centroid α) :
      CentroidEffect s id r (some c) (s.joined c)
  /-- Its members are others, and the mark is set. -/
  | altered (alters : s.Alters id r) {c c' : Centroid α} (dirty : c'.dirty = true)
      (documents : c'.documents ≠ c.documents) : CentroidEffect s id r (some c) c'
  /-- It is as it was. -/
  | kept (alters : ¬ s.Alters id r) (settles : ¬ s.Settles id r) (c : Centroid α) :
      CentroidEffect s id r (some c) c

/-- Whatever is asked, it does one of these to a centroid that is there afterwards. -/
theorem Intact.centroidEffect (h : s.Intact) (hc' : (s.answer r).2.members.get? id = some c') :
    s.CentroidEffect id r (s.members.get? id) c' := by
  by_cases hok : s.Succeeds r
  · rw [h.get?_answer hok] at hc'
    cases hc : s.members.get? id with
    | none =>
      rw [hc, turned] at hc'
      split at hc'
      · next hcreated =>
        cases hc'
        exact .created ⟨hok, .inr ⟨hcreated, hasCentroid_of_get?_none hc⟩⟩
      · cases hc'
    | some c =>
      rw [hc] at hc'
      by_cases hjoined : id ∈ r.centroidsJoined
      · rw [turned, if_pos hjoined] at hc'
        split at hc'
        · cases hc'
        · cases hc'
          exact .joined ⟨hok, .inl hjoined⟩ c
      · by_cases halters : s.Alters id r
        · obtain ⟨hdirty, hdocuments⟩ := halters.turned hc hc'
          exact .altered halters hdirty hdocuments
        · rw [turned_of_not_alters hok hc hc' halters hjoined]
          refine .kept halters ?_ c
          rintro ⟨-, hid | ⟨-, hnew⟩⟩
          · exact hjoined hid
          · rw [hasCentroid_of_get? hc] at hnew
            cases hnew
  · rw [answer_of_not_succeeds hok] at hc'
    rw [hc']
    exact .kept (fun halters ↦ hok halters.1) (fun hsettles ↦ hok hsettles.1) c'

/-- A request alters a centroid exactly if the list of its members is another one afterwards. -/
theorem Intact.alters_iff (h : s.Intact) (hc : s.members.get? id = some c)
    (hc' : (s.answer r).2.members.get? id = some c') :
    s.Alters id r ↔ c'.documents ≠ c.documents := by
  have heffect := h.centroidEffect hc'
  rw [hc] at heffect
  cases heffect with
  | joined hsettles => exact iff_of_false hsettles.not_alters fun hne ↦ hne rfl
  | altered halters hdirty hdocuments => exact iff_of_true halters hdocuments
  | kept halters => exact iff_of_false halters fun hne ↦ hne rfl

/-- The mark of a centroid is set exactly if a request altered it and none settled it since. -/
theorem dirty_iff_unsettled {rs : List Request}
    (hc : (empty.run rs : Store α).members.get? id = some c) :
    c.dirty = true ↔ Unsettled (Alters (α := α)) rs id := by
  induction rs using List.reverseRecOn generalizing c with
  | nil => cases hc
  | append_singleton rs r ih =>
    have hs : (empty.run rs : Store α).Intact := Reachable.intact ⟨rs, rfl⟩
    rw [run_concat] at hc
    have heffect := hs.centroidEffect hc
    rw [unsettled_concat]
    generalize hbefore : (empty.run rs : Store α).members.get? id = before at heffect
    cases heffect with
    | created hsettles =>
      refine iff_of_false Bool.false_ne_true ?_
      exact fun h ↦ h.elim hsettles.not_alters fun h ↦ h.2 hsettles
    | joined hsettles =>
      refine iff_of_false Bool.false_ne_true ?_
      exact fun h ↦ h.elim hsettles.not_alters fun h ↦ h.2 hsettles
    | altered halters hdirty => exact iff_of_true hdirty (.inl halters)
    | kept halters hsettles =>
      rw [ih hbefore, or_iff_right halters, and_iff_left hsettles]

private theorem joinCentroids_of_unsettled {rs : List Request} {ids : List String}
    (hids : ∀ id ∈ ids, (empty.run rs : Store α).hasCentroid id = true) :
    ∃ flags s', (empty.run rs : Store α).joinCentroids ids = (.ok flags, s') ∧
      flags.length = ids.length ∧
      ∀ (i : Nat) id flag, ids[i]? = some id → flags[i]? = some flag →
        (flag = true ↔ Unsettled (Alters (α := α)) (rs ++ (ids.take i).map .joinCentroid) id) := by
  induction ids generalizing rs with
  | nil => exact ⟨[], _, rfl, rfl, nofun⟩
  | cons id ids ih =>
    obtain ⟨c, hc⟩ := exists_of_hasCentroid (hids id List.mem_cons_self)
    have hnext : (empty.run (rs ++ [.joinCentroid id]) : Store α) = (empty.run rs).join id := by
      rw [run_concat, answer_joinCentroid_of_some hc]
    have hrest : ∀ k ∈ ids,
        (empty.run (rs ++ [.joinCentroid id]) : Store α).hasCentroid k = true := by
      intro k hk
      rw [hnext, hasCentroid_join]
      exact hids k (List.mem_cons_of_mem id hk)
    obtain ⟨flags, s', hflags, hlength, htold⟩ := ih hrest
    rw [hnext] at hflags
    refine ⟨c.dirty :: flags, s', (joinCentroids_cons hc ids _).2 ⟨flags, rfl, hflags⟩,
      congrArg (· + 1) hlength, fun i k flag hk hflag ↦ ?_⟩
    cases i with
    | zero =>
      cases hk
      cases hflag
      rw [List.take_zero, List.map_nil, List.append_nil]
      exact dirty_iff_unsettled hc
    | succ i =>
      have htail := htold i k flag hk hflag
      rwa [List.append_assoc] at htail

/-- After any requests, a centroid that exists says of itself when it is joined whether some request
altered its list of members and none settled it since. Centroids that are joined together say so one
after the other. A request alters a centroid exactly if the list of its members is another one
afterwards. -/
theorem join_tells_history (rs : List Request) :
    let s : Store α := empty.run rs
    (∀ id, s.hasCentroid id = true → ∃ flag, (s.answer (.joinCentroid id)).1 = .ok flag ∧
      (flag = true ↔ Unsettled (Alters (α := α)) rs id)) ∧
    (∀ ids, (∀ id ∈ ids, s.hasCentroid id = true) →
      ∃ flags : List Bool, (s.answer (.multiJoinCentroids ids)).1 = .ok flags ∧
        flags.length = ids.length ∧
        ∀ (i : Nat) id flag, ids[i]? = some id → flags[i]? = some flag →
          (flag = true ↔
            Unsettled (Alters (α := α)) (rs ++ (ids.take i).map .joinCentroid) id)) ∧
    (∀ r id c c', s.members.get? id = some c → (s.answer r).2.members.get? id = some c' →
      (s.Alters id r ↔ c'.documents ≠ c.documents)) := by
  intro s
  have hs : s.Intact := Reachable.intact ⟨rs, rfl⟩
  refine ⟨fun id hid ↦ ?_, fun ids hids ↦ ?_, fun r id c c' hc hc' ↦ hs.alters_iff hc hc'⟩
  · obtain ⟨c, hc⟩ := exists_of_hasCentroid hid
    exact ⟨c.dirty, congrArg Prod.fst (answer_joinCentroid_of_some hc), dirty_iff_unsettled hc⟩
  · obtain ⟨flags, s', hflags, htold⟩ := joinCentroids_of_unsettled hids
    exact ⟨flags, congrArg Prod.fst hflags, htold⟩

/-- A document comes into a centroid that has been joined, and leaves it again. -/
def cameAndLeft : List Request :=
  [.createDocument "red" 0, .createCentroid "c" false, .joinCentroid "c",
    .addDocumentsToCentroid "c" ["doc-1"] false, .removeDocumentsFromCentroid "c" ["doc-1"] false,
    .createCentroid "c" true, .removeDocumentsFromCentroid "c" ["doc-1"] true]

/-- The list of members is as it was, and still it was altered. Joined twice in one request, the
centroid says so once. -/
theorem join_tells_history_cameAndLeft :
    (empty.run cameAndLeft : Store Float).hasCentroid "c" = true ∧
    Unsettled (Alters (α := Float)) cameAndLeft "c" ∧
    ((empty.run cameAndLeft : Store Float).answer (.multiJoinCentroids ["c", "c"])).1 =
      .ok [true, false] ∧
    ¬ Unsettled (Alters (α := Float)) (cameAndLeft ++ [.joinCentroid "c"]) "c" := by
  obtain ⟨hsingle, hbatch, -⟩ := join_tells_history (α := Float) cameAndLeft
  have hexists : (empty.run cameAndLeft : Store Float).hasCentroid "c" = true := rfl
  obtain ⟨flag, hflag, hiff⟩ := hsingle "c" hexists
  obtain ⟨flags, hflags, -, hiffs⟩ := hbatch ["c", "c"] (by simpa using hexists)
  refine ⟨hexists, hiff.1 ?_, rfl, ?_⟩
  · cases hflag
    rfl
  · cases hflags
    exact fun h ↦ Bool.false_ne_true ((hiffs 1 "c" false rfl rfl).2 h)

end Store

end CentroidRpc
