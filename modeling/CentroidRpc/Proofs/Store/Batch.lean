import CentroidRpc.Proofs.Store.Presence
import Mathlib.Logic.Basic

/-!
# A batch is its single requests, one after the other

A batch checks all of its ids in the store as it is at first, and single requests check each id in
the store that the ones before have left. Both come to the same (`Store.Matches`), because a step
for one id changes nothing about what is allowed for the others (`Store.Stepwise`).
-/

namespace CentroidRpc

namespace Store

variable {α β γ : Type}

/-- One request after the other, each made of the store that the one before has left. -/
def inTurn (ask : Store α → String → Except Failure β × Store α) (s : Store α) :
    List String → List (Except Failure β) × Store α
  | [] => ([], s)
  | id :: ids =>
    let (answer, s) := ask s id
    let (answers, s) := inTurn ask s ids
    (answer :: answers, s)

/-- A batch comes to the same as single requests made in turn, where `collect` makes one answer of
theirs. -/
structure Matches (batch : Except Failure γ × Store α)
    (singles : List (Except Failure β) × Store α) (collect : List β → γ) : Prop where
  succeeds_iff :
    (∃ answer, batch.1 = .ok answer) ↔ ∃ answers : List β, singles.1 = answers.map .ok
  agrees : ∀ answers : List β, singles.1 = answers.map .ok →
    batch = (.ok (collect answers), singles.2)

private theorem matches_of_iff {batch : Except Failure γ × Store α}
    {singles : List (Except Failure β) × Store α} {collect : List β → γ}
    (h : ∀ answer s', batch = (.ok answer, s') ↔
      ∃ answers : List β, singles = (answers.map .ok, s') ∧ answer = collect answers) :
    Matches batch singles collect := by
  have hagrees : ∀ answers : List β, singles.1 = answers.map .ok →
      batch = (.ok (collect answers), singles.2) := by
    intro answers hanswers
    exact (h _ _).2 ⟨answers, Prod.ext hanswers rfl, rfl⟩
  refine ⟨⟨?_, ?_⟩, hagrees⟩
  · rintro ⟨answer, hanswer⟩
    obtain ⟨answers, hsingles, -⟩ := (h answer batch.2).1 (Prod.ext hanswer rfl)
    exact ⟨answers, congrArg Prod.fst hsingles⟩
  · rintro ⟨answers, hanswers⟩
    exact ⟨_, congrArg Prod.fst (hagrees answers hanswers)⟩

section InTurn

variable {ask : Store α → String → Except Failure β × Store α} {s s₁ s' : Store α} {id : String}

private theorem inTurn_cons_of_ok {answer : β} (h : ask s id = (.ok answer, s₁)) (ids : List String)
    (answers : List β) :
    inTurn ask s (id :: ids) = (answers.map .ok, s') ↔
      ∃ rest : List β, answers = answer :: rest ∧ inTurn ask s₁ ids = (rest.map .ok, s') := by
  simp only [inTurn, h]
  constructor
  · intro heq
    cases answers with
    | nil => cases heq
    | cons a rest =>
      obtain ⟨hanswers, hs'⟩ := Prod.mk.inj heq
      obtain ⟨ha, hrest⟩ := List.cons.inj hanswers
      rw [Except.ok.inj ha]
      exact ⟨rest, rfl, Prod.ext hrest hs'⟩
  · rintro ⟨rest, rfl, hrest⟩
    rw [hrest]
    rfl

private theorem inTurn_cons_of_error {f : Failure} (h : (ask s id).1 = .error f) (ids : List String)
    (answers : List β) : inTurn ask s (id :: ids) ≠ (answers.map .ok, s') := by
  intro heq
  have hhead : some (Except.error f) = (answers.map Except.ok).head? := by
    rw [← h]
    exact congrArg (·.1.head?) heq
  cases answers with
  | nil => cases hhead
  | cons a rest => cases hhead

end InTurn

/-- A batch of one id, and what is told of its success. -/
def single (batch : Store α → List String → Except Failure Unit × Store α) (told : String → β)
    (s : Store α) (id : String) : Except Failure β × Store α :=
  ((batch s [id]).1.map fun _ ↦ told id, (batch s [id]).2)

/-- A batch takes a step for each of its ids. -/
structure Stepwise (batch : Store α → List String → Except Failure Unit × Store α)
    (allowed : Store α → String → Prop) (step : Store α → String → Store α) (lenient : Bool) :
    Prop where
  ok_iff : ∀ {s s' ids}, ids ≠ [] →
    (batch s ids = (.ok (), s') ↔ (∀ id ∈ ids, allowed s id) ∧ s' = ids.foldl step s)
  keeps : ∀ {s id k}, allowed s id → lenient = true ∨ k ≠ id →
    (allowed (step s id) k ↔ allowed s k)

private theorem map_unit (result : Except Failure Unit × Store α) :
    (result.1.map fun _ ↦ (), result.2) = result := by
  rcases result with ⟨f | a, s⟩ <;> rfl

namespace Stepwise

variable {batch : Store α → List String → Except Failure Unit × Store α}
  {allowed : Store α → String → Prop} {step : Store α → String → Store α} {lenient : Bool}

private theorem single_of_allowed (h : Stepwise batch allowed step lenient) (told : String → β)
    {s : Store α} {id : String} (hid : allowed s id) :
    single batch told s id = (.ok (told id), step s id) := by
  have hbatch : batch s [id] = (.ok (), step s id) :=
    (h.ok_iff (List.cons_ne_nil id [])).2 ⟨List.forall_mem_singleton.2 hid, rfl⟩
  rw [single, hbatch]
  rfl

private theorem single_of_not_allowed (h : Stepwise batch allowed step lenient) (told : String → β)
    {s : Store α} {id : String} (hid : ¬ allowed s id) :
    ∃ f, (single batch told s id).1 = .error f := by
  cases hr : (batch s [id]).1 with
  | error f => exact ⟨f, congrArg (Except.map fun _ ↦ told id) hr⟩
  | ok _ =>
    have hok : batch s [id] = (.ok (), (batch s [id]).2) := Prod.ext hr rfl
    have hall := ((h.ok_iff (List.cons_ne_nil id [])).1 hok).1
    exact absurd (List.forall_mem_singleton.1 hall) hid

/-- Single requests made in turn all succeed exactly if all ids are allowed in the store as it is
at first, and then they take the steps in order. -/
theorem inTurn_iff (h : Stepwise batch allowed step lenient) (told : String → β)
    {ids : List String} (hids : ids.Nodup ∨ lenient = true) (s s' : Store α) (answers : List β) :
    inTurn (single batch told) s ids = (answers.map .ok, s') ↔
      answers = ids.map told ∧ (∀ id ∈ ids, allowed s id) ∧ s' = ids.foldl step s := by
  induction ids generalizing s answers with
  | nil => simp [inTurn, eq_comm]
  | cons id ids ih =>
    have hrest : ids.Nodup ∨ lenient = true :=
      hids.imp_left fun hnodup ↦ (List.nodup_cons.1 hnodup).2
    by_cases hid : allowed s id
    -- The first step changes nothing for the others: its id is not among them, or it is lenient.
    · have hkeeps : (∀ k ∈ ids, allowed (step s id) k) ↔ ∀ k ∈ ids, allowed s k := by
        refine forall₂_congr fun k hk ↦ h.keeps hid ?_
        refine hids.symm.imp (fun hl ↦ hl) fun hnodup heq ↦ ?_
        exact (List.nodup_cons.1 hnodup).1 (heq ▸ hk)
      rw [inTurn_cons_of_ok (h.single_of_allowed told hid)]
      simp only [ih hrest, hkeeps, List.forall_mem_cons, List.map_cons, List.foldl_cons]
      constructor
      · rintro ⟨_, rfl, rfl, hall, hs'⟩
        exact ⟨rfl, ⟨hid, hall⟩, hs'⟩
      · rintro ⟨rfl, ⟨-, hall⟩, hs'⟩
        exact ⟨_, rfl, rfl, hall, hs'⟩
    · obtain ⟨f, hf⟩ := h.single_of_not_allowed told hid
      refine iff_of_false (inTurn_cons_of_error hf ids answers) ?_
      rintro ⟨-, hall, -⟩
      exact hid (hall id List.mem_cons_self)

/-- A batch that takes a step for each of its ids matches single requests. -/
theorem matches_inTurn (h : Stepwise batch allowed step lenient) (told : String → β)
    (collect : List β → γ) {ids : List String} (hne : ids ≠ [])
    (hids : ids.Nodup ∨ lenient = true) (s : Store α) :
    Matches ((batch s ids).1.map fun _ ↦ collect (ids.map told), (batch s ids).2)
      (inTurn (single batch told) s ids) collect := by
  refine matches_of_iff fun answer s' ↦ ?_
  simp only [h.inTurn_iff told hids]
  constructor
  · intro hbatch
    obtain ⟨hanswer, rfl⟩ := Prod.mk.inj hbatch
    cases hr : (batch s ids).1 with
    | error f =>
      rw [hr] at hanswer
      cases hanswer
    | ok _ =>
      rw [hr] at hanswer
      cases hanswer
      exact ⟨_, ⟨rfl, (h.ok_iff hne).1 (Prod.ext hr rfl)⟩, rfl⟩
  · rintro ⟨_, ⟨rfl, hall⟩, rfl⟩
    rw [(h.ok_iff hne).2 hall]
    rfl

/-- A batch that takes a step for each of its ids, and tells of them as they were sent, matches
single requests. -/
theorem matches_echoed (h : Stepwise batch allowed step lenient) {ids : List String}
    (hne : ids ≠ []) (hids : ids.Nodup ∨ lenient = true) (s : Store α) :
    Matches ((batch s ids).1.map fun _ ↦ ids, (batch s ids).2)
      (inTurn (single batch fun id ↦ id) s ids) (fun told ↦ told) := by
  have hmatches := h.matches_inTurn (fun id ↦ id) (fun told ↦ told) hne hids s
  rwa [List.map_id'] at hmatches

/-- A batch that takes a step for each of its ids, and tells nothing of them, matches single
requests. -/
theorem matches_untold (h : Stepwise batch allowed step lenient) {ids : List String}
    (hne : ids ≠ []) (hids : ids.Nodup ∨ lenient = true) (s : Store α) :
    Matches (batch s ids) (inTurn (fun s id ↦ batch s [id]) s ids) fun _ ↦ () := by
  have hsingle : (single batch fun _ ↦ ()) = fun s id ↦ batch s [id] := by
    funext s id
    exact map_unit (batch s [id])
  have hmatches := h.matches_inTurn (fun _ ↦ ()) (fun _ ↦ ()) hne hids s
  rwa [map_unit, hsingle] at hmatches

end Stepwise

private theorem checked_iff {ids : List String} {bad : String → Bool} {lenient : Bool}
    {f : Failure} {s t s' : Store α} :
    (if !lenient && ids.any bad then (.error f, s) else (.ok (), t) :
        Except Failure Unit × Store α) = (.ok (), s') ↔
      (∀ id ∈ ids, lenient = true ∨ bad id = false) ∧ s' = t := by
  have hgood : (!lenient && ids.any bad) = false ↔ ∀ id ∈ ids, lenient = true ∨ bad id = false := by
    cases lenient <;> simp
  rw [← hgood]
  cases !lenient && ids.any bad with
  | true => exact iff_of_false nofun nofun
  | false => exact ⟨fun h ↦ ⟨rfl, (Prod.mk.inj h).2.symm⟩, fun h ↦ h.2 ▸ rfl⟩

private theorem stepwise_createCentroids (ignoreExisting : Bool) :
    Stepwise (fun (s : Store α) ids ↦ s.createCentroids ids ignoreExisting)
      (fun s id ↦ ignoreExisting = true ∨ s.hasCentroid id = false) putCentroid
      ignoreExisting where
  ok_iff _ := checked_iff
  keeps _ hk := by
    refine or_congr_right' fun hl ↦ ?_
    rw [hasCentroid_putCentroid, beq_eq_false_iff_ne.2 (hk.resolve_left hl), Bool.false_or]

private theorem stepwise_deleteCentroids (ignoreMissing : Bool) :
    Stepwise (fun (s : Store α) ids ↦ s.deleteCentroids ids ignoreMissing)
      (fun s id ↦ ignoreMissing = true ∨ (!s.hasCentroid id) = false) dropCentroid
      ignoreMissing where
  ok_iff _ := checked_iff
  keeps _ hk := by
    refine or_congr_right' fun hl ↦ ?_
    rw [hasCentroid_dropCentroid, bne_iff_ne.2 (hk.resolve_left hl), Bool.true_and]

private theorem stepwise_deleteDocuments (ignoreMissing : Bool) :
    Stepwise (fun (s : Store α) ids ↦ s.deleteDocuments ids ignoreMissing)
      (fun s id ↦ ignoreMissing = true ∨ (!s.hasDocument id) = false) dropDocument
      ignoreMissing where
  ok_iff _ := checked_iff
  keeps _ hk := by
    refine or_congr_right' fun hl ↦ ?_
    rw [hasDocument_dropDocument, bne_iff_ne.2 (hk.resolve_left hl), Bool.true_and]

private theorem stepwise_addDocuments (centroid : String) (ignoreMembers : Bool) :
    Stepwise (fun (s : Store α) ids ↦ s.addDocuments centroid ids ignoreMembers)
      (fun s id ↦ s.hasCentroid centroid = true ∧ s.hasDocument id = true ∧
        (ignoreMembers = true ∨ s.hasMember centroid id = false))
      (fun s id ↦ s.modifyCentroid centroid (·.addMember id)) ignoreMembers where
  ok_iff {s s' ids} hne := by
    obtain ⟨first, hfirst⟩ := List.exists_mem_of_ne_nil ids hne
    rw [foldl_modifyCentroid]
    unfold addDocuments
    split
    · next hnone =>
      refine iff_of_false nofun fun ⟨hall, _⟩ ↦ ?_
      have hcentroid := (hall first hfirst).1
      rw [hasCentroid_of_get?_none hnone] at hcentroid
      cases hcentroid
    · next c hc =>
      rw [Dict.insert_eq_modify hc (ids.foldl Centroid.addMember ·)]
      have hcentroid := hasCentroid_of_get? hc
      split
      · next hmissing =>
        obtain ⟨id, hid, hid'⟩ := List.any_eq_true.1 hmissing
        refine iff_of_false nofun fun ⟨hall, _⟩ ↦ ?_
        rw [(hall id hid).2.1] at hid'
        cases hid'
      · next hexist =>
        rw [checked_iff]
        refine and_congr_left fun _ ↦ forall₂_congr fun id hid ↦ ?_
        have hdocument : s.hasDocument id = true := by
          simpa using List.any_eq_false.1 (Bool.eq_false_iff.2 hexist) id hid
        rw [hasMember_of_get? hc, hcentroid, hdocument]
        simp
  keeps {s id k} hid hk := by
    rw [hasCentroid_modifyCentroid, hasMember_addMember hid.1]
    refine and_congr_right fun _ ↦ and_congr_right fun _ ↦ or_congr_right' fun hl ↦ ?_
    rw [beq_eq_false_iff_ne.2 (hk.resolve_left hl), Bool.false_or]

private theorem stepwise_removeDocuments (centroid : String) (ignoreOthers : Bool) :
    Stepwise (fun (s : Store α) ids ↦ s.removeDocuments centroid ids ignoreOthers)
      (fun s id ↦ s.hasCentroid centroid = true ∧
        (ignoreOthers = true ∨ (!s.hasMember centroid id) = false))
      (fun s id ↦ s.modifyCentroid centroid (·.removeMembers [id])) ignoreOthers where
  ok_iff {s s' ids} hne := by
    obtain ⟨first, hfirst⟩ := List.exists_mem_of_ne_nil ids hne
    rw [foldl_modifyCentroid s centroid (fun c d ↦ c.removeMembers [d])]
    unfold removeDocuments
    split
    · next hnone =>
      refine iff_of_false nofun fun ⟨hall, _⟩ ↦ ?_
      have hcentroid := (hall first hfirst).1
      rw [hasCentroid_of_get?_none hnone] at hcentroid
      cases hcentroid
    · next c hc =>
      rw [Dict.insert_eq_modify hc (·.removeMembers ids), checked_iff]
      have hcentroid := hasCentroid_of_get? hc
      simp only [hasMember_of_get? hc, hcentroid, true_and, Centroid.foldl_removeMembers]
      rfl
  keeps {s id k} _ hk := by
    rw [hasCentroid_modifyCentroid, hasMember_removeMembers]
    refine and_congr_right fun _ ↦ or_congr_right' fun hl ↦ ?_
    have hother : [id].contains k = false := by
      simpa using hk.resolve_left hl
    rw [hother, Bool.not_false, Bool.true_and]

variable [Weight α] {s s' : Store α}

/-- A centroid that exists is joined, and says whether its members had changed. -/
theorem answer_joinCentroid_of_some {id : String} {c : Centroid α}
    (hc : s.members.get? id = some c) :
    s.answer (.joinCentroid id) = (.ok c.dirty, s.join id) := by
  have hid := hasCentroid_of_get? hc
  simp [answer, joinCentroids, joinAll, hc, hid, Except.map]

/-- A centroid that does not exist is not joined. -/
theorem answer_joinCentroid_of_none {id : String} (hc : s.members.get? id = none) :
    (s.answer (.joinCentroid id)).1 = .error .centroidDoesNotExist := by
  have hid := hasCentroid_of_get?_none hc
  simp [answer, joinCentroids, hid, Except.map]

private theorem joinCentroids_cons_of_none {id : String} (hc : s.members.get? id = none)
    (ids : List String) : (s.joinCentroids (id :: ids)).1 = .error .centroidDoesNotExist := by
  have hid := hasCentroid_of_get?_none hc
  simp [joinCentroids, hid]

/-- Centroids are joined as the first of them and then the others are. -/
theorem joinCentroids_cons {id : String} {c : Centroid α} (hc : s.members.get? id = some c)
    (ids : List String) (flags : List Bool) :
    s.joinCentroids (id :: ids) = (.ok flags, s') ↔
      ∃ rest, flags = c.dirty :: rest ∧ (s.join id).joinCentroids ids = (.ok rest, s') := by
  have hid := hasCentroid_of_get? hc
  unfold joinCentroids
  simp only [List.any_cons, hid, hasCentroid_join, Bool.not_true, Bool.false_or]
  split
  · exact iff_of_false nofun fun ⟨_, _, h⟩ ↦ nomatch h
  · simp only [joinAll, hc]
    constructor
    · intro h
      cases h
      exact ⟨_, rfl, rfl⟩
    · rintro ⟨rest, rfl, h⟩
      cases h
      rfl

/-- Joining centroids is joining them in turn, whatever they are. -/
theorem joinCentroids_iff_inTurn (s : Store α) (ids : List String) (flags : List Bool) :
    s.joinCentroids ids = (.ok flags, s') ↔
      inTurn (fun s id ↦ s.answer (.joinCentroid id)) s ids = (flags.map .ok, s') := by
  induction ids generalizing s flags with
  | nil =>
    cases flags <;> simp [joinCentroids, joinAll, inTurn]
  | cons id ids ih =>
    cases hc : s.members.get? id with
    | none =>
      refine iff_of_false (fun h ↦ ?_)
        (inTurn_cons_of_error (answer_joinCentroid_of_none hc) ids flags)
      have hok := congrArg Prod.fst h
      rw [joinCentroids_cons_of_none hc] at hok
      cases hok
    | some c =>
      rw [joinCentroids_cons hc, inTurn_cons_of_ok (answer_joinCentroid_of_some hc)]
      simp only [ih]

/-- Joining centroids matches joining them in turn. -/
theorem matches_joinCentroids (s : Store α) (ids : List String) :
    Matches (s.answer (.multiJoinCentroids ids))
      (inTurn (fun s id ↦ s.answer (.joinCentroid id)) s ids) (fun told ↦ told) := by
  refine matches_of_iff fun flags s' ↦ ?_
  refine (joinCentroids_iff_inTurn s ids flags).trans ⟨fun h ↦ ⟨flags, h, rfl⟩, ?_⟩
  rintro ⟨_, h, rfl⟩
  exact h

/-- A batch is the same as its single requests, one after the other: for ids that are apart, or
with what is in the way ignored, and for the joining of any ids. -/
theorem batch_matches_singles (s : Store α) (ids : List String) (ignore : Bool) :
    (ids ≠ [] → ids.Nodup ∨ ignore = true →
      Matches (s.answer (.multiCreateCentroids ids ignore))
        (inTurn (fun s id ↦ s.answer (.createCentroid id ignore)) s ids) (fun told ↦ told) ∧
      Matches (s.answer (.multiDeleteCentroids ids ignore))
        (inTurn (fun s id ↦ s.answer (.deleteCentroid id ignore)) s ids) (fun told ↦ told) ∧
      Matches (s.answer (.multiDeleteDocuments ids ignore))
        (inTurn (fun s id ↦ s.answer (.deleteDocument id ignore)) s ids) (fun told ↦ told) ∧
      (∀ centroid, Matches (s.answer (.addDocumentsToCentroid centroid ids ignore))
        (inTurn (fun s id ↦ s.answer (.addDocumentsToCentroid centroid [id] ignore)) s ids)
        fun _ ↦ ()) ∧
      (∀ centroid, Matches (s.answer (.removeDocumentsFromCentroid centroid ids ignore))
        (inTurn (fun s id ↦ s.answer (.removeDocumentsFromCentroid centroid [id] ignore)) s ids)
        fun _ ↦ ())) ∧
    Matches (s.answer (.multiJoinCentroids ids))
      (inTurn (fun s id ↦ s.answer (.joinCentroid id)) s ids) (fun told ↦ told) := by
  refine ⟨fun hne hids ↦ ?_, matches_joinCentroids s ids⟩
  exact ⟨(stepwise_createCentroids ignore).matches_echoed hne hids s,
    (stepwise_deleteCentroids ignore).matches_echoed hne hids s,
    (stepwise_deleteDocuments ignore).matches_echoed hne hids s,
    fun centroid ↦ (stepwise_addDocuments centroid ignore).matches_untold hne hids s,
    fun centroid ↦ (stepwise_removeDocuments centroid ignore).matches_untold hne hids s⟩

/-- Two centroids are created with one request as with two. -/
theorem batch_matches_singles_two :
    ["a", "b"] ≠ [] ∧ ["a", "b"].Nodup ∧
    (inTurn (fun s id ↦ s.answer (.createCentroid id false)) (empty : Store Float) ["a", "b"]).1 =
      [.ok "a", .ok "b"] ∧
    (empty : Store Float).answer (.multiCreateCentroids ["a", "b"] false) =
      (.ok ["a", "b"],
        (inTurn (fun s id ↦ s.answer (.createCentroid id false)) empty ["a", "b"]).2) := by
  have hne : ["a", "b"] ≠ [] := by decide
  have hnodup : ["a", "b"].Nodup := by decide
  obtain ⟨hcreate, -⟩ := (batch_matches_singles (empty : Store Float) ["a", "b"] false).1 hne
    (.inl hnodup)
  exact ⟨hne, hnodup, rfl, hcreate.agrees ["a", "b"] rfl⟩

end Store

end CentroidRpc
