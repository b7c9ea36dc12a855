import CentroidRpc.Proofs.Dict
import CentroidRpc.Service.InMemory
import Mathlib.Logic.Relation

/-!
# The small changes that requests are made of

Whatever is asked of a store, and in whatever orders new vectors are scaled, the store afterwards
comes from the one before by a row of small changes (`Store.changes_answer`). So what every small
change keeps holds of every store that requests lead to (`Store.Attainable.induction`). Only the two
requests that create a document store one: to all others the row is of changes that store none
(`Store.rearranges_answer`).
-/

namespace CentroidRpc

/-- A request as it is carried out: each vector that is made for it is scaled in some order. -/
structure Execution (α : Type) where
  request : Request
  orders : Nat → EntryOrder α

/-- A request that is carried out in the order of the words. -/
def Execution.byKey {α : Type} (r : Request) : Execution α := ⟨r, fun _ ↦ .byKey⟩

namespace Store

open Relation (ReflTransGen)

variable {α : Type}

/-- Changes one centroid, if it exists. -/
def modifyCentroid (s : Store α) (id : String) (f : Centroid α → Centroid α) : Store α :=
  { s with members := s.members.modify id f }

/-- A changed centroid is found as it has been changed. -/
theorem get?_modifyCentroid (s : Store α) (id : String) (f : Centroid α → Centroid α) :
    (s.modifyCentroid id f).members.get? id = (s.members.get? id).map f :=
  (Dict.get?_modify ..).trans (if_pos rfl)

/-- A centroid that is changed as it is stays the same. -/
theorem modifyCentroid_id (s : Store α) (id : String) : (s.modifyCentroid id fun c ↦ c) = s := by
  have hmembers : s.members.modify id (fun c ↦ c) = s.members := by
    apply Dict.ext_get?
    intro k
    rw [Dict.get?_modify]
    split
    · exact Option.map_id'
    · rfl
  unfold modifyCentroid
  rw [hmembers]

/-- Two changes of a centroid are one change. -/
theorem modifyCentroid_modifyCentroid (s : Store α) (id : String)
    (f g : Centroid α → Centroid α) :
    (s.modifyCentroid id f).modifyCentroid id g = s.modifyCentroid id fun c ↦ g (f c) := by
  have hmembers : (s.members.modify id f).modify id g = s.members.modify id fun c ↦ g (f c) := by
    apply Dict.ext_get?
    intro k
    rw [Dict.get?_modify, Dict.get?_modify, Dict.get?_modify]
    split
    · rw [Option.map_map]
      rfl
    · rfl
  unfold modifyCentroid
  rw [hmembers]

/-- No document is stored anew and no id made up, though documents may have been deleted. -/
structure Retains (s s' : Store α) : Prop where
  generated : s'.generated = s.generated
  contents : ∀ {d document}, s'.contents.get? d = some document →
    s.contents.get? d = some document

/-- A store that stays as it is stores nothing. -/
theorem Retains.refl (s : Store α) : s.Retains s := ⟨rfl, fun h ↦ h⟩

/-- Nothing is stored in two steps if nothing is in each. -/
theorem Retains.trans {s s' s'' : Store α} (h : s.Retains s') (h' : s'.Retains s'') :
    s.Retains s'' :=
  ⟨h'.generated.trans h.generated, fun hd ↦ h.contents (h'.contents hd)⟩

/-- What exists afterwards has existed before. -/
theorem Retains.hasDocument {s s' : Store α} (h : s.Retains s') {d : String}
    (hd : s'.hasDocument d = true) : s.hasDocument d = true := by
  obtain ⟨document, hdocument⟩ := Option.isSome_iff_exists.1 hd
  exact Option.isSome_iff_exists.2 ⟨document, h.contents hdocument⟩

/-- Deleting a document stores none. -/
theorem retains_dropDocument (s : Store α) (id : String) : s.Retains (s.dropDocument id) := by
  unfold dropDocument
  split
  · refine ⟨rfl, fun {d document} hd ↦ ?_⟩
    have hget : (s.contents.erase id).get? d = some document := hd
    rw [Dict.get?_erase] at hget
    split at hget
    · cases hget
    · exact hget
  · exact .refl s

private theorem retains_putCentroid (s : Store α) (id : String) : s.Retains (s.putCentroid id) := by
  unfold putCentroid
  split
  · exact .refl s
  · exact ⟨rfl, fun hd ↦ hd⟩

private theorem retains_dropCentroid (s : Store α) (id : String) :
    s.Retains (s.dropCentroid id) := by
  unfold dropCentroid
  split
  · exact ⟨rfl, fun hd ↦ hd⟩
  · exact .refl s

private theorem retains_modifyCentroid (s : Store α) (id : String) (f : Centroid α → Centroid α) :
    s.Retains (s.modifyCentroid id f) :=
  ⟨rfl, fun hd ↦ hd⟩

variable [Weight α]

/-- One store comes from another by a small change. -/
inductive Change : Store α → Store α → Prop where
  /-- An id is made up. -/
  | generate (s : Store α) : Change s { s with generated := s.generated + 1 }
  /-- A document is stored, in the stead of one with the same id. -/
  | putDocument (s : Store α) (id text : String) (language : Int32) (order : EntryOrder α) :
      Change s (s.putDocument id text language order)
  /-- A document is deleted. -/
  | dropDocument (s : Store α) (id : String) : Change s (s.dropDocument id)
  /-- A centroid is created. -/
  | putCentroid (s : Store α) (id : String) : Change s (s.putCentroid id)
  /-- A centroid is deleted. -/
  | dropCentroid (s : Store α) (id : String) : Change s (s.dropCentroid id)
  /-- A centroid is joined. -/
  | join (s : Store α) (id : String) (order : EntryOrder α) : Change s (s.join id order)
  /-- A document that exists becomes a member of a centroid. -/
  | addMember (s : Store α) (centroid document : String) (h : s.hasDocument document = true) :
      Change s (s.modifyCentroid centroid (·.addMember document))
  /-- Documents leave a centroid. -/
  | removeMembers (s : Store α) (centroid : String) (documents : List String) :
      Change s (s.modifyCentroid centroid (·.removeMembers documents))

/-- A small change that stores no document. -/
def Rearranges (s s' : Store α) : Prop := Change s s' ∧ s.Retains s'

private theorem rearranges_foldl {f : Store α → String → Store α}
    (h : ∀ s id, Rearranges s (f s id)) (s : Store α) (ids : List String) :
    ReflTransGen Rearranges s (ids.foldl f s) := by
  induction ids generalizing s with
  | nil => exact .refl
  | cons id ids ih => exact .head (h s id) (ih (f s id))

private theorem rearranges_joinAll (s : Store α) (ids : List String)
    (orders : Nat → EntryOrder α) : ReflTransGen Rearranges s (s.joinAll ids orders).2 := by
  induction ids generalizing s orders with
  | nil => exact .refl
  | cons id ids ih =>
    cases hc : s.members.get? id with
    | none =>
      rw [joinAll_cons_of_none hc]
      exact ih s _
    | some c =>
      rw [joinAll_cons_of_some hc]
      exact .head ⟨.join s id (orders 0), retains_modifyCentroid s id _⟩ (ih _ _)

private theorem rearranges_deleteDocuments (s : Store α) (ids : List String)
    (ignoreMissing : Bool) :
    ReflTransGen Rearranges s (s.deleteDocuments ids ignoreMissing).2 := by
  unfold deleteDocuments
  split
  · exact .refl
  · exact rearranges_foldl (fun s id ↦ ⟨.dropDocument s id, retains_dropDocument s id⟩) s ids

private theorem rearranges_createCentroids (s : Store α) (ids : List String)
    (ignoreExisting : Bool) :
    ReflTransGen Rearranges s (s.createCentroids ids ignoreExisting).2 := by
  unfold createCentroids
  split
  · exact .refl
  · exact rearranges_foldl (fun s id ↦ ⟨.putCentroid s id, retains_putCentroid s id⟩) s ids

private theorem rearranges_deleteCentroids (s : Store α) (ids : List String)
    (ignoreMissing : Bool) :
    ReflTransGen Rearranges s (s.deleteCentroids ids ignoreMissing).2 := by
  unfold deleteCentroids
  split
  · exact .refl
  · exact rearranges_foldl (fun s id ↦ ⟨.dropCentroid s id, retains_dropCentroid s id⟩) s ids

private theorem rearranges_joinCentroids (s : Store α) (ids : List String)
    (orders : Nat → EntryOrder α) :
    ReflTransGen Rearranges s (s.joinCentroids ids orders).2 := by
  unfold joinCentroids
  split
  · exact .refl
  · exact rearranges_joinAll s ids orders

private theorem rearranges_addMembers (s : Store α) (centroid : String) (ids : List String)
    (h : ∀ id ∈ ids, s.hasDocument id = true) :
    ReflTransGen Rearranges s (s.modifyCentroid centroid (ids.foldl Centroid.addMember ·)) := by
  induction ids generalizing s with
  | nil =>
    show ReflTransGen Rearranges s (s.modifyCentroid centroid fun c ↦ c)
    rw [modifyCentroid_id]
  | cons id ids ih =>
    have hmore := ih (s.modifyCentroid centroid (·.addMember id)) fun d hd ↦
      h d (List.mem_cons_of_mem id hd)
    rw [modifyCentroid_modifyCentroid] at hmore
    have hmember := Change.addMember s centroid id (h id List.mem_cons_self)
    exact .head ⟨hmember, retains_modifyCentroid s centroid _⟩ hmore

private theorem rearranges_addDocuments (s : Store α) (centroid : String) (ids : List String)
    (ignoreMembers : Bool) :
    ReflTransGen Rearranges s (s.addDocuments centroid ids ignoreMembers).2 := by
  unfold addDocuments
  split
  · exact .refl
  · next c hc =>
    split
    · exact .refl
    · next hexist =>
      split
      · exact .refl
      · rw [Dict.insert_eq_modify hc (ids.foldl Centroid.addMember ·)]
        apply rearranges_addMembers
        intro id hid
        cases hd : s.hasDocument id with
        | true => rfl
        | false => exact absurd (List.any_eq_true.2 ⟨id, hid, by rw [hd]; rfl⟩) hexist

private theorem rearranges_removeDocuments (s : Store α) (centroid : String) (ids : List String)
    (ignoreOthers : Bool) :
    ReflTransGen Rearranges s (s.removeDocuments centroid ids ignoreOthers).2 := by
  unfold removeDocuments
  split
  · exact .refl
  · next c hc =>
    split
    · exact .refl
    · rw [Dict.insert_eq_modify hc (·.removeMembers ids)]
      exact .single ⟨.removeMembers s centroid ids, retains_modifyCentroid s centroid _⟩

/-- Whatever is asked but the creation of a document, the store comes to its next state by a row of
changes that store none. -/
theorem rearranges_answer (s : Store α) {r : Request} {orders : Nat → EntryOrder α}
    (h : r.operation ≠ .createDocument) (h' : r.operation ≠ .createDocumentWithId) :
    ReflTransGen Rearranges s (s.answer r orders).2 := by
  cases r with
  | createDocument text l => exact absurd rfl h
  | createDocumentWithId id text l => exact absurd rfl h'
  | deleteDocument id b => exact rearranges_deleteDocuments s [id] b
  | multiDeleteDocuments ids b => exact rearranges_deleteDocuments s ids b
  | createCentroid id b => exact rearranges_createCentroids s [id] b
  | multiCreateCentroids ids b => exact rearranges_createCentroids s ids b
  | deleteCentroid id b => exact rearranges_deleteCentroids s [id] b
  | multiDeleteCentroids ids b => exact rearranges_deleteCentroids s ids b
  | joinCentroid id => exact rearranges_joinCentroids s [id] orders
  | multiJoinCentroids ids => exact rearranges_joinCentroids s ids orders
  | addDocumentsToCentroid c ds b => exact rearranges_addDocuments s c ds b
  | removeDocumentsFromCentroid c ds b => exact rearranges_removeDocuments s c ds b
  | _ => exact .refl

/-- Changes that store no document store none together. -/
theorem retains_of_rearranges {s s' : Store α} (h : ReflTransGen Rearranges s s') :
    s.Retains s' := by
  induction h with
  | refl => exact .refl s
  | tail _ hchange ih => exact ih.trans hchange.2

private theorem changes_of_rearranges {s s' : Store α} (h : ReflTransGen Rearranges s s') :
    ReflTransGen Change s s' := by
  induction h with
  | refl => exact .refl
  | tail _ hchange ih => exact ih.tail hchange.1

/-- Whatever is asked, the store comes to its next state by a row of small changes. -/
theorem changes_answer (s : Store α) (r : Request) (orders : Nat → EntryOrder α) :
    ReflTransGen Change s (s.answer r orders).2 := by
  cases r with
  | createDocument text l =>
    exact .head (.generate s) (.single (.putDocument _ s.nextId text l (orders 0)))
  | createDocumentWithId id text l =>
    show ReflTransGen Change s (s.createDocumentWithId id text l (orders 0)).2
    unfold createDocumentWithId
    split
    · exact .refl
    · exact .single (.putDocument s id text l (orders 0))
  | _ => exact changes_of_rearranges (rearranges_answer s nofun nofun)

/-- A row of changes keeps what each change keeps. -/
theorem induction_of_changes {P : Store α → Prop} (hstep : ∀ s s', P s → Change s s' → P s')
    {s s' : Store α} (hs : P s) (h : ReflTransGen Change s s') : P s' := by
  induction h with
  | refl => exact hs
  | tail _ hchange ih => exact hstep _ _ ih hchange

/-- The answer to a request that is carried out in some orders, and the store afterwards. -/
def execute (s : Store α) (e : Execution α) : Except Failure (e.request.Answer α) × Store α :=
  s.answer e.request e.orders

/-- The store after some requests that are carried out in some orders. -/
def executeAll (s : Store α) (es : List (Execution α)) : Store α :=
  es.foldl (fun s e ↦ (s.execute e).2) s

/-- The stores that requests lead to from the empty one, in whatever orders they are carried out. -/
def Attainable (s : Store α) : Prop := ∃ es, s = empty.executeAll es

/-- Requests lead on from stores that requests lead to. -/
theorem Attainable.execute {s : Store α} (h : s.Attainable) (e : Execution α) :
    (s.execute e).2.Attainable := by
  obtain ⟨es, rfl⟩ := h
  refine ⟨es ++ [e], ?_⟩
  rw [executeAll, executeAll, List.foldl_append]
  rfl

/-- Requests lead on from stores that requests lead to, one after the other. -/
theorem Attainable.executeAll {s : Store α} (h : s.Attainable) (es : List (Execution α)) :
    (s.executeAll es).Attainable := by
  induction es generalizing s with
  | nil => exact h
  | cons e es ih => exact ih (h.execute e)

/-- What the empty store has and every change keeps holds of all stores that requests lead to, in
whatever orders they are carried out. -/
theorem Attainable.induction {P : Store α → Prop} (h0 : P empty)
    (hstep : ∀ s s', P s → Change s s' → P s') {s : Store α} (h : s.Attainable) : P s := by
  obtain ⟨es, rfl⟩ := h
  suffices hrun : ∀ s : Store α, P s → P (s.executeAll es) from hrun empty h0
  intro s hs
  induction es generalizing s with
  | nil => exact hs
  | cons e es ih => exact ih _ (induction_of_changes hstep hs (changes_answer s e.request e.orders))

/-- The store after some requests, all of them carried out in the order of the words. -/
def run (s : Store α) (rs : List Request) : Store α := rs.foldl (fun s r ↦ (s.answer r).2) s

/-- The stores that requests lead to from the empty one. -/
def Reachable (s : Store α) : Prop := ∃ rs, s = empty.run rs

/-- Requests lead on from stores that requests lead to. -/
theorem Reachable.answer {s : Store α} (h : s.Reachable) (r : Request) :
    (s.answer r).2.Reachable := by
  obtain ⟨rs, rfl⟩ := h
  refine ⟨rs ++ [r], ?_⟩
  rw [run, run, List.foldl_append]
  rfl

/-- The order of the words is one order. -/
theorem Reachable.attainable {s : Store α} (h : s.Reachable) : s.Attainable := by
  obtain ⟨rs, rfl⟩ := h
  refine ⟨rs.map .byKey, ?_⟩
  rw [Store.executeAll, List.foldl_map]
  rfl

end Store

/-- Whatever bytes the service takes, its store is still one that requests lead to. -/
theorem Service.reachable_inMemory (op : Operation) (bs : Wire.Bytes) {s : Store Float}
    (h : s.Reachable) : (inMemory op bs s).2.Reachable := by
  unfold inMemory
  split
  · exact h
  · next r hr => exact h.answer r

/-- The same holds of every request that is sent to it. -/
theorem Service.reachable_exchange (r : Request) {s : Store Float} (h : s.Reachable) :
    (exchange inMemory () r s).2.Reachable := by
  unfold exchange
  split
  · exact h
  · exact reachable_inMemory r.operation r.encode h

/-- Whatever a client calls for, the store of the service it is connected to is still one that
requests lead to. -/
theorem Session.reachable_call {s : Session Unit (Store Float)} (h : s.world.Reachable)
    (r : Request) : (s.call (Service.exchange .inMemory) r).2.world.Reachable := by
  unfold call start
  split
  · next failed s' hs =>
    split at hs
    · cases hs
      exact h
    · cases hs
  · next passage s' hs =>
    split at hs
    · cases hs
    · cases hs
      exact Service.reachable_exchange r h

end CentroidRpc
