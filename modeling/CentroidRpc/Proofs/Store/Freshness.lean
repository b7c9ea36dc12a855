import CentroidRpc.Proofs.Store.GeneratedId
import CentroidRpc.Proofs.Store.Marks
import CentroidRpc.Proofs.Store.Words

/-!
# Centroids that need no joining

A centroid whose mark is not set has the vector that its members make up, and joining it changes
nothing (`Store.join_of_false`), unless a member was overwritten by a document whose id was made up:
then the vector of the member is another one and no mark is set (`Store.stale_overwrittenMember`).
-/

namespace CentroidRpc

namespace Store

variable {α : Type} [Weight α]

/-- Whether a request overwrites a member of a centroid: it stores a document under the id that is
made up next, and a member has that id. -/
def Overwrites (s : Store α) (id : String) (r : Request) : Prop :=
  r.operation = .createDocument ∧
    ∃ c, s.members.get? id = some c ∧ s.nextId ∈ c.documents

/-- Members that have the same vectors make up the same vector. -/
theorem joinedVector_congr {s s' : Store α} {ds : List String}
    (h : ∀ d ∈ ds, (s'.contents.get? d).map (·.vector) = (s.contents.get? d).map (·.vector)) :
    s'.joinedVector ds = s.joinedVector ds := by
  unfold joinedVector
  congr 1
  apply List.foldl_ext
  intro v d hd
  have hsame := h d hd
  cases hs' : s'.contents.get? d <;> cases hs : s.contents.get? d <;> simp_all

variable {s : Store α} {r : Request} {id : String} {c c' : Centroid α}

/-- What is kept of a document that is there before and afterwards is the same, unless the document
is overwritten. -/
theorem contents_answer {d : String} (hd : s.hasDocument d = true)
    (hd' : (s.answer r).2.hasDocument d = true)
    (hkept : r.operation = .createDocument → d ≠ s.nextId) :
    (s.answer r).2.contents.get? d = s.contents.get? d := by
  cases s.documentEffect_answer r with
  | created _ hcontents =>
    rw [hcontents, Dict.get?_insert, if_neg (hkept rfl)]
  | stored hnew _ hcontents =>
    rw [hcontents, Dict.get?_insert, if_neg]
    rintro rfl
    rw [hnew] at hd
    cases hd
  | retained _ hretains =>
    obtain ⟨document, hdocument⟩ := Option.isSome_iff_exists.1 hd'
    rw [hdocument, hretains.contents hdocument]

/-- The members of a centroid make up the same vector as before if they are the same and none is
overwritten. -/
theorem Intact.joinedVector_answer (h : s.Intact) (h' : (s.answer r).2.Intact)
    (hc : s.members.get? id = some c) (hc' : (s.answer r).2.members.get? id = some c')
    (hdocuments : c'.documents = c.documents) (hkept : ¬ s.Overwrites id r) :
    (s.answer r).2.joinedVector c'.documents = s.joinedVector c.documents := by
  rw [hdocuments]
  apply joinedVector_congr
  intro d hd
  apply congrArg (Option.map Document.vector)
  have hd' : (s.answer r).2.hasDocument d = true :=
    (h'.members id c' hc').stored d (hdocuments ▸ hd)
  apply contents_answer ((h.members id c hc).stored d hd) hd'
  rintro hr rfl
  exact hkept ⟨hr, c, hc, hd⟩

/-- A centroid whose mark is not set has the vector that its members make up, unless one of them was
overwritten since it was settled. -/
theorem vector_of_not_dirty {rs : List Request}
    (hc : (empty.run rs : Store α).members.get? id = some c) (hdirty : c.dirty = false)
    (hkept : ¬ Unsettled (Overwrites (α := α)) rs id) :
    c.vector = (empty.run rs : Store α).joinedVector c.documents := by
  induction rs using List.reverseRecOn generalizing c with
  | nil => cases hc
  | append_singleton rs r ih =>
    have hs : (empty.run rs : Store α).Intact := Reachable.intact ⟨rs, rfl⟩
    have hs' : (empty.run (rs ++ [r]) : Store α).Intact := Reachable.intact ⟨rs ++ [r], rfl⟩
    rw [run_concat] at hc hs' ⊢
    rw [unsettled_concat, not_or] at hkept
    have heffect := hs.centroidEffect hc
    generalize hbefore : (empty.run rs : Store α).members.get? id = before at heffect
    cases heffect with
    | created => exact TermVector.normalized_empty.symm
    | joined _ c => exact (hs.joinedVector_answer hs' hbefore hc rfl hkept.1).symm
    | altered _ hset =>
      rw [hdirty] at hset
      cases hset
    | kept _ hsettles =>
      rw [hs.joinedVector_answer hs' hbefore hc rfl hkept.1]
      exact ih hbefore hdirty fun h ↦ hkept.2 ⟨h, hsettles⟩

private theorem join_eq_self (hc : s.members.get? id = some c) (hjoined : s.joined c = c) :
    s.join id = s := by
  have hmembers : s.members.modify id s.joined = s.members := by
    apply Dict.ext_get?
    intro k
    rw [Dict.get?_modify]
    split
    · next hk => rw [hk, hc, Option.map_some, hjoined]
    · rfl
  show { s with members := s.members.modify id s.joined } = s
  rw [hmembers]

private theorem not_unsettled_overwrites {rs : List Request} (hcount : creations rs < UInt64.size)
    (hchosen : ∀ n text language, .createDocumentWithId (numberedId n) text language ∉ rs)
    (id : String) : ¬ Unsettled (Overwrites (α := α)) rs id := by
  rintro ⟨before, r, after, rfl, ⟨-, c, hc, hmember⟩, -⟩
  have hs : (empty.run before : Store α).Intact := Reachable.intact ⟨before, rfl⟩
  have hfewer : creations before < UInt64.size := by
    rw [creations, List.countP_append] at hcount
    exact Nat.lt_of_le_of_lt (Nat.le_add_right ..) hcount
  obtain ⟨text, l, hmem⟩ := (numbered_run before).chosen_of_taken hfewer
    ((hs.members id c hc).stored _ hmember)
  exact hchosen _ text l (List.mem_append_left _ hmem)

/-- A centroid that needs no joining is left as it is when it is joined, and so is the whole store:
its vector is the sum of the vectors of its members already. For this no member may have been
overwritten since the centroid was settled, and none is as long as the numbers last and no client
has chosen a numbered id. -/
theorem join_of_false (rs : List Request) (id : String) :
    let s : Store α := empty.run rs
    ((s.answer (.joinCentroid id)).1 = .ok false → ¬ Unsettled (Overwrites (α := α)) rs id →
      (s.answer (.joinCentroid id)).2 = s ∧
      ∃ (c : Centroid α) (ds : List (Document α)), s.members.get? id = some c ∧
        c.documents.map s.contents.get? = ds.map some ∧
        c.vector = (TermVector.sum (ds.map (·.vector))).normalized) ∧
    (creations rs < UInt64.size →
      (∀ n text language, .createDocumentWithId (numberedId n) text language ∉ rs) →
      ¬ Unsettled (Overwrites (α := α)) rs id) := by
  intro s
  refine ⟨fun hfalse hkept ↦ ?_, fun hcount hchosen ↦ not_unsettled_overwrites hcount hchosen id⟩
  cases hc : s.members.get? id with
  | none =>
    rw [answer_joinCentroid_of_none hc] at hfalse
    cases hfalse
  | some c =>
    have hs : s.Intact := Reachable.intact ⟨rs, rfl⟩
    have hjoin := answer_joinCentroid_of_some hc
    rw [hjoin] at hfalse ⊢
    have hdirty : c.dirty = false := Except.ok.inj hfalse
    have hvector := vector_of_not_dirty hc hdirty hkept
    obtain ⟨ds, hds, hsum⟩ := joinedVector_of_stored (hs.members id c hc).stored
    have hjoined : s.joined c = c := by
      unfold joined
      rw [← hvector, ← hdirty]
    exact ⟨join_eq_self hc hjoined, c, ds, rfl, hds, hvector.trans hsum⟩

/-- A document comes into a centroid, which is joined, and comes once more. -/
def cameTwice : List Request :=
  [.createDocument "red" 0, .createCentroid "c" false, .addDocumentsToCentroid "c" ["doc-1"] false,
    .joinCentroid "c", .addDocumentsToCentroid "c" ["doc-1"] true]

/-- The centroid needs no joining, and nothing becomes of the store if it is joined still. -/
theorem join_of_false_cameTwice :
    let s : Store Float := empty.run cameTwice
    (s.answer (.joinCentroid "c")).1 = .ok false ∧ creations cameTwice < UInt64.size ∧
    (∀ n text language, .createDocumentWithId (numberedId n) text language ∉ cameTwice) ∧
    ¬ Unsettled (Overwrites (α := Float)) cameTwice "c" ∧
    (s.answer (.joinCentroid "c")).2 = s := by
  intro s
  obtain ⟨hunchanged, hkept⟩ := join_of_false (α := Float) cameTwice "c"
  have hfalse : (s.answer (.joinCentroid "c")).1 = .ok false := rfl
  have hcount : creations cameTwice < UInt64.size := by decide
  have hchosen : ∀ n text language,
      .createDocumentWithId (numberedId n) text language ∉ cameTwice := by
    intro n text l
    simp [cameTwice]
  have hover := hkept hcount hchosen
  exact ⟨hfalse, hcount, hchosen, hover, (hunchanged hfalse hover).1⟩

/-- A member of a centroid that has been joined is overwritten. -/
def overwrittenMember : List Request :=
  [.createDocumentWithId "doc-1" "red" 2, .createCentroid "c" false,
    .addDocumentsToCentroid "c" ["doc-1"] false, .joinCentroid "c", .createDocument "blue" 2]

/-- The centroid says that it needs no joining, and still it is another one afterwards: its one word
was that of the document that is gone. -/
theorem stale_overwrittenMember :
    let s : Store Float := empty.run overwrittenMember
    let s' := (s.answer (.joinCentroid "c")).2
    s.Reachable ∧ (s.answer (.joinCentroid "c")).1 = .ok false ∧ s' ≠ s ∧
    ∃ c c', s.members.get? "c" = some c ∧ s'.members.get? "c" = some c' ∧
      "blue" ∉ c.vector.keys ∧ "blue" ∈ c'.vector.keys := by
  have hother : "blue" ∉ (TermVector.ofText "red" : TermVector Float).keys :=
    mt TermVector.mem_keys_ofText.1 (by decide +kernel)
  have hown : "blue" ∈ (TermVector.ofText "blue" : TermVector Float).keys :=
    TermVector.mem_keys_ofText.2 (by decide +kernel)
  intro s s'
  let before : Store Float := empty.run (overwrittenMember.take 3)
  have hc : s.members.get? "c" = some ⟨["doc-1"], before.joinedVector ["doc-1"], false⟩ := rfl
  have hc' : s'.members.get? "c" = some ⟨["doc-1"], s.joinedVector ["doc-1"], false⟩ := rfl
  have hred : before.contents.get? "doc-1" = some ⟨2, .ofText "red"⟩ := rfl
  have hblue : s.contents.get? "doc-1" = some ⟨2, .ofText "blue"⟩ := rfl
  have hlacks : "blue" ∉ (before.joinedVector ["doc-1"]).keys := by
    rw [mem_keys_joinedVector]
    rintro ⟨d, hd, document, hget, hword⟩
    rw [List.mem_singleton.1 hd, hred] at hget
    cases hget
    dsimp only at hword
    exact hother hword
  have hhas : "blue" ∈ (s.joinedVector ["doc-1"]).keys := by
    refine mem_keys_joinedVector.2 ⟨"doc-1", List.mem_singleton.2 rfl, _, hblue, ?_⟩
    dsimp only
    exact hown
  refine ⟨⟨_, rfl⟩, rfl, fun hsame ↦ hlacks ?_, _, _, hc, hc', hlacks, hhas⟩
  have hvector := congrArg Centroid.vector (Option.some.inj (hc.symm.trans (hsame ▸ hc')))
  dsimp only at hvector
  rw [hvector]
  exact hhas

end Store

end CentroidRpc
