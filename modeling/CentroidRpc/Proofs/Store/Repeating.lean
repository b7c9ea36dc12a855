import CentroidRpc.Proofs.Store.Marks

/-!
# Requests that may be repeated

A request that ignores what is in its way takes a step for each id that has something left to do,
and does nothing where it is done (`Store.Lasting`). So the same request once more is answered the
same and changes nothing (`Store.answer_repeated`). A centroid that is joined once more has no
changed members.
-/

namespace CentroidRpc

/-- Whether a call is to ignore what is in its way: documents or centroids that are missing, that
exist already, or that are members already or are none. -/
def Call.ignores {ℓ : Type} : Call Bool ℓ → Bool
  | deleteDocument _ b | multiDeleteDocuments _ b => b
  | createCentroid _ b | multiCreateCentroids _ b => b
  | deleteCentroid _ b | multiDeleteCentroids _ b => b
  | addDocumentsToCentroid _ _ b | removeDocumentsFromCentroid _ _ b => b
  | _ => false

namespace Centroid

variable {α : Type}

/-- Members that come once more are there already. -/
theorem foldl_addMember_twice (c : Centroid α) (ds : List String) :
    ds.foldl addMember (ds.foldl addMember c) = ds.foldl addMember c :=
  foldl_addMember_of_forall_mem fun _ hd ↦ mem_foldl_addMember.2 (.inl hd)

/-- Members that leave once more have left already. -/
theorem removeMembers_twice (c : Centroid α) (ds : List String) :
    (c.removeMembers ds).removeMembers ds = c.removeMembers ds :=
  removeMembers_of_forall_not_mem fun _ hd hmem ↦ (mem_removeMembers.1 hmem).1 hd

end Centroid

namespace Store

variable {α : Type}

/-- A step does something for an id that lasts through the steps for others, and nothing where it
has been done. -/
structure Lasting (step : Store α → String → Store α) (done : Store α → String → Prop) : Prop where
  idle : ∀ {s id}, done s id → step s id = s
  does : ∀ s id, done (step s id) id
  keeps : ∀ {s id k}, done s k → done (step s id) k

namespace Lasting

variable {step : Store α → String → Store α} {done : Store α → String → Prop} {s : Store α}
  {ids : List String}

/-- What has been done stays so through all steps. -/
theorem keeps_foldl (h : Lasting step done) {k : String} (hk : done s k) (ids : List String) :
    done (ids.foldl step s) k := by
  induction ids generalizing s with
  | nil => exact hk
  | cons id ids ih => exact ih (h.keeps hk)

/-- The steps do it for all of their ids. -/
theorem does_foldl (h : Lasting step done) (s : Store α) {id : String} (hid : id ∈ ids) :
    done (ids.foldl step s) id := by
  induction ids generalizing s with
  | nil => exact absurd hid List.not_mem_nil
  | cons first ids ih =>
    rcases List.mem_cons.1 hid with rfl | hid
    · exact h.keeps_foldl (h.does s id) ids
    · exact ih (step s first) hid

/-- Nothing happens where it has been done for all ids. -/
theorem idle_foldl (h : Lasting step done) (hdone : ∀ id ∈ ids, done s id) :
    ids.foldl step s = s := by
  induction ids with
  | nil => rfl
  | cons id ids ih =>
    rw [List.foldl_cons, h.idle (hdone id List.mem_cons_self)]
    exact ih fun k hk ↦ hdone k (List.mem_cons_of_mem id hk)

/-- The same steps once more do nothing. -/
theorem foldl_twice (h : Lasting step done) (s : Store α) (ids : List String) :
    ids.foldl step (ids.foldl step s) = ids.foldl step s :=
  h.idle_foldl fun _ hid ↦ h.does_foldl s hid

end Lasting

/-- A deleted document does not come back when others are deleted. -/
theorem lasting_dropDocument :
    Lasting dropDocument fun (s : Store α) id ↦ s.hasDocument id = false where
  idle h := by
    rw [dropDocument, h]
    rfl
  does s id := by rw [hasDocument_dropDocument, bne_self_eq_false, Bool.false_and]
  keeps h := by rw [hasDocument_dropDocument, h, Bool.and_false]

/-- A created centroid stays when others are created. -/
theorem lasting_putCentroid :
    Lasting putCentroid fun (s : Store α) id ↦ s.hasCentroid id = true where
  idle h := by rw [putCentroid, if_pos h]
  does s id := by rw [hasCentroid_putCentroid, beq_self_eq_true, Bool.true_or]
  keeps h := by rw [hasCentroid_putCentroid, h, Bool.or_true]

/-- A deleted centroid does not come back when others are deleted. -/
theorem lasting_dropCentroid :
    Lasting dropCentroid fun (s : Store α) id ↦ s.hasCentroid id = false where
  idle h := by
    rw [dropCentroid, h]
    rfl
  does s id := by rw [hasCentroid_dropCentroid, bne_self_eq_false, Bool.false_and]
  keeps h := by rw [hasCentroid_dropCentroid, h, Bool.and_false]

private theorem deleteDocuments_twice (s : Store α) (ids : List String) :
    (s.deleteDocuments ids true).2.deleteDocuments ids true = s.deleteDocuments ids true :=
  Prod.ext rfl (lasting_dropDocument.foldl_twice s ids)

private theorem createCentroids_twice (s : Store α) (ids : List String) :
    (s.createCentroids ids true).2.createCentroids ids true = s.createCentroids ids true :=
  Prod.ext rfl (lasting_putCentroid.foldl_twice s ids)

private theorem deleteCentroids_twice (s : Store α) (ids : List String) :
    (s.deleteCentroids ids true).2.deleteCentroids ids true = s.deleteCentroids ids true :=
  Prod.ext rfl (lasting_dropCentroid.foldl_twice s ids)

private theorem addDocuments_twice (s : Store α) (centroid : String) (ds : List String) :
    (s.addDocuments centroid ds true).2.addDocuments centroid ds true =
      s.addDocuments centroid ds true := by
  cases hc : s.members.get? centroid with
  | none => simp only [addDocuments, hc]
  | some c =>
    by_cases hmissing : ds.any (!s.hasDocument ·) = true
    · simp only [addDocuments, hc, if_pos hmissing]
    · have honce (t : Store α) (hcontents : t.contents = s.contents) {c : Centroid α}
          (hc : t.members.get? centroid = some c) : t.addDocuments centroid ds true =
            (.ok (), t.modifyCentroid centroid (ds.foldl Centroid.addMember)) := by
        have hexist : ¬ ds.any (!t.hasDocument ·) = true := by
          simpa only [hasDocument, hcontents] using hmissing
        simp only [addDocuments, hc, if_neg hexist, modifyCentroid,
          ← Dict.insert_eq_modify hc (ds.foldl Centroid.addMember)]
        rfl
      have hkept := s.get?_modifyCentroid centroid (ds.foldl Centroid.addMember)
      rw [hc, Option.map_some] at hkept
      rw [honce s rfl hc, honce (s.modifyCentroid centroid _) rfl hkept,
        modifyCentroid_modifyCentroid]
      simp only [Centroid.foldl_addMember_twice]

private theorem removeDocuments_twice (s : Store α) (centroid : String) (ds : List String) :
    (s.removeDocuments centroid ds true).2.removeDocuments centroid ds true =
      s.removeDocuments centroid ds true := by
  cases hc : s.members.get? centroid with
  | none => simp only [removeDocuments, hc]
  | some c =>
    have honce {t : Store α} {c : Centroid α} (hc : t.members.get? centroid = some c) :
        t.removeDocuments centroid ds true =
          (.ok (), t.modifyCentroid centroid (·.removeMembers ds)) := by
      simp only [removeDocuments, hc, modifyCentroid,
        ← Dict.insert_eq_modify hc (·.removeMembers ds)]
      rfl
    have hkept := s.get?_modifyCentroid centroid (·.removeMembers ds)
    rw [hc, Option.map_some] at hkept
    rw [honce hc, honce hkept, modifyCentroid_modifyCentroid]
    simp only [Centroid.removeMembers_twice]

private theorem map_twice {β γ : Type} {s : Store α} (batch : Store α → Except Failure β × Store α)
    (g : β → γ) (h : batch (batch s).2 = batch s) :
    ((batch (batch s).2).1.map g, (batch (batch s).2).2) = ((batch s).1.map g, (batch s).2) := by
  rw [h]

variable [Weight α]

private theorem join_join (s : Store α) (id : String) : (s.join id).join id = s.join id :=
  s.modifyCentroid_modifyCentroid id s.joined s.joined

private theorem answer_joinCentroid_twice {s : Store α} {id : String}
    (h : s.hasCentroid id = true) :
    (s.answer (.joinCentroid id)).2.answer (.joinCentroid id) =
      (.ok false, (s.answer (.joinCentroid id)).2) := by
  obtain ⟨c, hc⟩ := exists_of_hasCentroid h
  have hjoined : (s.join id).members.get? id = some (s.joined c) := by
    show (s.modifyCentroid id s.joined).members.get? id = _
    rw [get?_modifyCentroid, hc, Option.map_some]
  rw [answer_joinCentroid_of_some hc]
  refine (answer_joinCentroid_of_some hjoined).trans ?_
  rw [join_join]
  rfl

/-- A request that ignores what is in its way is answered the same when it is repeated, and changes
nothing then. -/
theorem answer_twice (s : Store α) {r : Request} (hr : r.ignores = true) :
    (s.answer r).2.answer r = s.answer r := by
  cases r with
  | deleteDocument id b =>
    obtain rfl : b = true := hr
    exact map_twice (·.deleteDocuments [id] true) _ (s.deleteDocuments_twice [id])
  | multiDeleteDocuments ids b =>
    obtain rfl : b = true := hr
    exact map_twice (·.deleteDocuments ids true) _ (s.deleteDocuments_twice ids)
  | createCentroid id b =>
    obtain rfl : b = true := hr
    exact map_twice (·.createCentroids [id] true) _ (s.createCentroids_twice [id])
  | multiCreateCentroids ids b =>
    obtain rfl : b = true := hr
    exact map_twice (·.createCentroids ids true) _ (s.createCentroids_twice ids)
  | deleteCentroid id b =>
    obtain rfl : b = true := hr
    exact map_twice (·.deleteCentroids [id] true) _ (s.deleteCentroids_twice [id])
  | multiDeleteCentroids ids b =>
    obtain rfl : b = true := hr
    exact map_twice (·.deleteCentroids ids true) _ (s.deleteCentroids_twice ids)
  | addDocumentsToCentroid c ds b =>
    obtain rfl : b = true := hr
    exact s.addDocuments_twice c ds
  | removeDocumentsFromCentroid c ds b =>
    obtain rfl : b = true := hr
    exact s.removeDocuments_twice c ds
  | _ => cases hr

private theorem answer_ne_of_ignores (s : Store α) {r : Request} (hr : r.ignores = true) :
    (s.answer r).1 ≠ .error .documentAlreadyInCentroid ∧
      (s.answer r).1 ≠ .error .documentNotInCentroid := by
  cases r with
  | addDocumentsToCentroid c ds b =>
    obtain rfl : b = true := hr
    show (s.addDocuments c ds true).1 ≠ _ ∧ (s.addDocuments c ds true).1 ≠ _
    unfold addDocuments
    split
    · exact ⟨nofun, nofun⟩
    · split
      · exact ⟨nofun, nofun⟩
      · exact ⟨nofun, nofun⟩
  | removeDocumentsFromCentroid c ds b =>
    obtain rfl : b = true := hr
    show (s.removeDocuments c ds true).1 ≠ _ ∧ (s.removeDocuments c ds true).1 ≠ _
    unfold removeDocuments
    split
    · exact ⟨nofun, nofun⟩
    · exact ⟨nofun, nofun⟩
  | deleteDocument | multiDeleteDocuments | createCentroid | multiCreateCentroids | deleteCentroid
  | multiDeleteCentroids =>
    obtain rfl := show _ = true from hr
    exact ⟨nofun, nofun⟩
  | _ => cases hr

/-- A creation or a deletion that ignores what is in its way is not refused. -/
theorem succeeds_of_ignores (s : Store α) {r : Request} (hr : r.ignores = true)
    (hadd : r.operation ≠ .addDocumentsToCentroid)
    (hremove : r.operation ≠ .removeDocumentsFromCentroid) : s.Succeeds r := by
  cases r with
  | deleteDocument | multiDeleteDocuments | createCentroid | multiCreateCentroids | deleteCentroid
  | multiDeleteCentroids =>
    obtain rfl := show _ = true from hr
    exact ⟨_, rfl⟩
  | addDocumentsToCentroid => exact absurd rfl hadd
  | removeDocumentsFromCentroid => exact absurd rfl hremove
  | _ => cases hr

/-- A request that ignores what is in its way may be repeated: it is answered the same, and the
store stays as the first one left it. What it ignores is never why it fails, and only an addition or
a removal of members fails at all. A centroid that is joined twice tells the second time that its
members have not changed, and is as after the first time. -/
theorem answer_repeated (s : Store α) :
    (∀ r : Request, r.ignores = true →
      (s.answer r).2.answer r = s.answer r ∧
      (s.answer r).1 ≠ .error .documentAlreadyInCentroid ∧
      (s.answer r).1 ≠ .error .documentNotInCentroid ∧
      (r.operation ≠ .addDocumentsToCentroid → r.operation ≠ .removeDocumentsFromCentroid →
        s.Succeeds r)) ∧
    ∀ id, s.hasCentroid id = true →
      (s.answer (.joinCentroid id)).2.answer (.joinCentroid id) =
        (.ok false, (s.answer (.joinCentroid id)).2) := by
  refine ⟨fun r hr ↦ ?_, fun id hid ↦ answer_joinCentroid_twice hid⟩
  obtain ⟨hmembers, hothers⟩ := s.answer_ne_of_ignores hr
  exact ⟨s.answer_twice hr, hmembers, hothers, s.succeeds_of_ignores hr⟩

/-- A document and a centroid that it may come into. -/
def oneAndOne : List Request := [.createDocumentWithId "a" "red" 0, .createCentroid "x" false]

/-- The document comes into the centroid, which is deleted beside one that does not exist; each of
it is asked for twice, as is a join. -/
theorem answer_repeated_oneAndOne :
    ((empty.run oneAndOne : Store Float).answer
        (.addDocumentsToCentroid "x" ["a", "a"] true)).2.answer
      (.addDocumentsToCentroid "x" ["a", "a"] true) =
        (empty.run oneAndOne : Store Float).answer (.addDocumentsToCentroid "x" ["a", "a"] true) ∧
    (empty.run oneAndOne : Store Float).Succeeds (.multiDeleteCentroids ["y", "x", "y"] true) ∧
    (((empty.run oneAndOne : Store Float).answer (.joinCentroid "x")).2.answer
      (.joinCentroid "x")).1 = .ok false := by
  obtain ⟨hrepeated, hjoined⟩ := (empty.run oneAndOne : Store Float).answer_repeated
  have hdelete := hrepeated (.multiDeleteCentroids ["y", "x", "y"] true) rfl
  refine ⟨(hrepeated (.addDocumentsToCentroid "x" ["a", "a"] true) rfl).1, ?_, ?_⟩
  · exact hdelete.2.2.2 nofun nofun
  · exact congrArg Prod.fst (hjoined "x" rfl)

end Store

end CentroidRpc
