import CentroidRpc.Proofs.Clients
import Mathlib.Data.List.Nodup
import Mathlib.Data.Nat.Digits.Defs

/-!
# Ids that callers are told of

Those who create documents without an id are told the numbered ids one after the other, whatever
else is asked for in between. So as long as the numbers last, no id is told twice
(`Store.nodup_idsTold`).
-/

namespace CentroidRpc

open Wire

private theorem size_utf8Encode_le (cs : List Char) : cs.utf8Encode.size ≤ 4 * cs.length := by
  induction cs with
  | nil => exact Nat.le_refl 0
  | cons c cs ih =>
    have hc : [c].utf8Encode.size = c.utf8Size := by
      rw [List.utf8Encode_singleton, List.size_toByteArray, String.length_utf8EncodeChar]
    rw [List.utf8Encode_cons, ByteArray.size_append, hc, List.length_cons]
    have hfour := c.utf8Size_le_four
    omega

/-- The id that was made up for a document, if a call has come to this. -/
def Finished.generatedId : Finished → Option String
  | ⟨.createDocument .., _, .ok id⟩ => some id
  | _ => none

private theorem Finished.generatedId_of_ne {f : Finished}
    (h : f.request.operation ≠ .createDocument) :
    f.generatedId = none := by
  rcases f with ⟨r, delivered, outcome⟩
  cases r with
  | createDocument text language => exact absurd rfl h
  | _ => rfl

private theorem Finished.generatedId_of_error (r : Request) (delivered : Bool) (e : CallError) :
    (⟨r, delivered, .error e⟩ : Finished).generatedId = none := by
  cases r <;> rfl

private theorem Request.exists_of_createDocument {r : Request} (h : r.operation = .createDocument) :
    ∃ text language, r = .createDocument text language := by
  cases r with
  | createDocument text language => exact ⟨text, language, rfl⟩
  | _ => cases h

namespace Store

private theorem utf8ByteSize_numberedId_le (n : UInt64) : (numberedId n).utf8ByteSize ≤ 96 := by
  have hdigits : (toString n.toNat).toList.length ≤ 20 := by
    have hn : n.toNat < 10 ^ 20 := Nat.lt_trans n.toNat_lt (by decide)
    rw [Nat.toString_eq_ofList_toDigits, String.toList_ofList]
    exact Nat.toDigits_length 10 n.toNat 20 (by decide) hn
  have hchars : (numberedId n).toList = "doc-".toList ++ (toString n.toNat).toList :=
    String.toList_append
  have hsize := size_utf8Encode_le (numberedId n).toList
  rw [String.utf8Encode_toList, String.size_toByteArray, hchars, List.length_append] at hsize
  have hprefix : "doc-".toList.length = 4 := rfl
  omega

private theorem length_numbered_le (n : UInt64) :
    (ResponseType.createDocument.schema.encode (Response.record
      ⟨some .ok, (numberedId n, ())⟩)).length ≤ RpcStatus.maxMessageSize := by
  rw [Schema.length_of_writes _ (Schema.writes_encode _ _)]
  have hsize := utf8ByteSize_numberedId_le n
  have hlog : (numberedId n).utf8ByteSize.log2 ≤ (numberedId n).utf8ByteSize := Nat.log2_le_self _
  show blockFieldSize 1 0 + ((if Scalar.text.isZero (numberedId n) then 0
    else scalarFieldSize .text 2 (numberedId n)) + 0) ≤ RpcStatus.maxMessageSize
  have hfield : scalarFieldSize .text 2 (numberedId n) =
      keySize 2 + ((numberedId n).utf8ByteSize.log2 / 7 + 1 + (numberedId n).utf8ByteSize) := rfl
  have hstatus : blockFieldSize 1 0 = 2 := by decide
  have hkey : keySize 2 = 1 := by decide
  rw [hfield, hstatus, hkey, RpcStatus.maxMessageSize]
  split <;> omega

private theorem conclude_numbered (text : String) (language : Int32) (n : UInt64) :
    let r : Request := .createDocument text language
    r.conclude (r.response (Reply.received (.ok
      (ResponseType.createDocument.schema.encode (Response.record
        ⟨some .ok, (numberedId n, ())⟩))))) = .ok (numberedId n) := by
  intro r
  rw [Reply.received_of_le (length_numbered_le n)]
  have hresponse := r.response_encode (.ok (numberedId n))
    (RpcStatus.lt_of_le_maxMessageSize (length_numbered_le n))
  have htold := r.conclude_arrived_ok (numberedId n)
  exact (congrArg r.conclude hresponse).trans htold

/-- What a call means for the ids that are made up: nothing, or its caller, who wants a document to
be created, is told the next one. -/
theorem ask_generates (s : Store Float) (a : Asking) :
    (s.ask a).1.generatedId = none ∧ (s.ask a).2.generated = s.generated ∨
      a.request.operation = .createDocument ∧ (s.ask a).1.generatedId = some s.nextId ∧
        (s.ask a).2.generated = s.generated + 1 := by
  by_cases hreaches : a.Reaches
  · rw [ask_of_reaches hreaches]
    generalize a.request = r
    by_cases hcreate : r.operation = .createDocument
    · obtain ⟨text, language, rfl⟩ := Request.exists_of_createDocument hcreate
      have htold := conclude_numbered text language (s.generated + 1)
      exact .inr ⟨rfl, congrArg (fun o ↦ Finished.generatedId ⟨_, true, o⟩) htold, rfl⟩
    · refine .inl ⟨Finished.generatedId_of_ne hcreate, ?_⟩
      cases documentEffect_answer s r with
      | created => exact absurd rfl hcreate
      | stored _ hgenerated => exact hgenerated
      | retained _ hretains => exact hretains.generated
  · obtain ⟨e, hask⟩ := ask_of_not_reaches hreaches s
    rw [hask]
    exact .inl ⟨Finished.generatedId_of_error .., rfl⟩

/-- A call that reaches the store and wants a document to be created has one made up. -/
theorem ask_generates_of_reaches {a : Asking} (hreaches : a.Reaches)
    (hcreate : a.request.operation = .createDocument) (s : Store Float) :
    (s.ask a).1.generatedId = some s.nextId := by
  rcases s.ask_generates a with ⟨-, hgenerated⟩ | ⟨-, htold, -⟩
  · exfalso
    rw [world_ask, if_pos hreaches] at hgenerated
    obtain ⟨text, language, hrequest⟩ := Request.exists_of_createDocument hcreate
    rw [hrequest] at hgenerated
    have hnext : s.generated + 1 = s.generated := hgenerated
    have hnat := congrArg UInt64.toNat hnext
    rw [UInt64.toNat_add, UInt64.toNat_one] at hnat
    have hlt := s.generated.toNat_lt
    omega
  · exact htold

/-- The first of the numbered ids. -/
def firstIds (n : Nat) : List String := (List.range n).map fun i ↦ numberedId (.ofNat (i + 1))

private theorem firstIds_succ (n : Nat) :
    firstIds (n + 1) = firstIds n ++ [numberedId (.ofNat (n + 1))] := by
  rw [firstIds, List.range_succ, List.map_append]
  rfl

private theorem nodup_firstIds {n : Nat} (h : n < UInt64.size) : (firstIds n).Nodup := by
  refine List.Nodup.map_on (fun i hi j hj hids ↦ ?_) List.nodup_range
  have hnumbers := congrArg UInt64.toNat (numberedId_injective hids)
  rw [List.mem_range] at hi hj
  rw [UInt64.toNat_ofNat', UInt64.toNat_ofNat'] at hnumbers
  rw [UInt64.size] at h
  omega

/-- The ids that callers are told of have been made up in order, and all that have been made up are
among them. -/
structure Issued (ids : List String) (s : Store Float) : Prop where
  first : ids = firstIds ids.length
  generated : s.generated = .ofNat ids.length

/-- So it stays with each call. -/
theorem Issued.ask {ids : List String} {s : Store Float} (h : Issued ids s) (a : Asking) :
    Issued (ids ++ (s.ask a).1.generatedId.toList) (s.ask a).2 := by
  rcases s.ask_generates a with ⟨hnone, hgenerated⟩ | ⟨-, htold, hgenerated⟩
  · rw [hnone, Option.toList_none, List.append_nil]
    exact ⟨h.first, hgenerated.trans h.generated⟩
  · have hnext : s.generated + 1 = .ofNat (ids.length + 1) := by
      rw [h.generated, UInt64.ofNat_add]
      rfl
    rw [htold, Option.toList_some]
    constructor
    · rw [List.length_append, List.length_singleton, firstIds_succ, ← h.first, ← hnext]
      rfl
    · rw [hgenerated, List.length_append, List.length_singleton, hnext]

/-- The ids that were made up for the callers of a store, in order. -/
def idsTold (as : List Asking) : List String := (empty.askAll as).1.filterMap Finished.generatedId

/-- One more call is told of one more id or of none. -/
theorem idsTold_concat (as : List Asking) (a : Asking) :
    idsTold (as ++ [a]) = idsTold as ++ ((empty.askAll as).2.ask a).1.generatedId.toList := by
  rw [idsTold, askAll_concat, List.filterMap_append, idsTold]
  cases h : ((empty.askAll as).2.ask a).1.generatedId <;> simp [h]

/-- After all calls the ids are the first ones. -/
theorem issued_idsTold (as : List Asking) : Issued (idsTold as) (empty.askAll as).2 := by
  induction as using List.reverseRecOn with
  | nil => exact ⟨rfl, rfl⟩
  | append_singleton as a ih =>
    rw [idsTold_concat, askAll_concat]
    exact ih.ask a

private theorem length_generatedId_le (s : Store Float) (a : Asking) :
    (s.ask a).1.generatedId.toList.length ≤
      if a.request.operation = .createDocument then 1 else 0 := by
  rcases s.ask_generates a with ⟨hnone, -⟩ | ⟨hcreate, htold, -⟩
  · rw [hnone]
    exact Nat.zero_le _
  · rw [htold, if_pos hcreate]
    exact Nat.le_refl 1

private theorem length_generatedId_eq {a : Asking} (hreaches : a.Reaches) (s : Store Float) :
    (s.ask a).1.generatedId.toList.length =
      if a.request.operation = .createDocument then 1 else 0 := by
  by_cases hcreate : a.request.operation = .createDocument
  · rw [ask_generates_of_reaches hreaches hcreate, if_pos hcreate]
    rfl
  · have hle := s.length_generatedId_le a
    rw [if_neg hcreate] at hle ⊢
    exact Nat.le_zero.1 hle

/-- There are no more ids than calls that ask for a document to be created. -/
theorem length_idsTold_le (as : List Asking) :
    (idsTold as).length ≤ creations (as.map Asking.request) := by
  induction as using List.reverseRecOn with
  | nil => exact Nat.le_refl 0
  | append_singleton as a ih =>
    rw [idsTold_concat, List.length_append, List.map_append, List.map_singleton, creations_concat]
    exact Nat.add_le_add ih ((empty.askAll as).2.length_generatedId_le a)

/-- There are as many if all calls reach the store. -/
theorem length_idsTold_eq (as : List Asking) (hreach : ∀ a ∈ as, a.Reaches) :
    (idsTold as).length = creations (as.map Asking.request) := by
  induction as using List.reverseRecOn with
  | nil => rfl
  | append_singleton as a ih =>
    obtain ⟨hbefore, hlast⟩ := List.forall_mem_append.1 hreach
    have ha := List.forall_mem_singleton.1 hlast
    rw [idsTold_concat, List.length_append, List.map_append, List.map_singleton, creations_concat,
      ih hbefore, length_generatedId_eq ha]

/-- Whatever is called over any clients, if fewer documents are to be created than there are
numbers, then no id is told twice: the callers are told the first numbered ids, in order, and one is
told for each document to be created if all calls reach the store. -/
theorem nodup_idsTold (as : List Asking)
    (hcount : creations (as.map Asking.request) < UInt64.size) :
    (idsTold as).Nodup ∧
    idsTold as = firstIds (idsTold as).length ∧
    ((∀ a ∈ as, a.Reaches) →
      (idsTold as).length = creations (as.map Asking.request)) := by
  have hfirst : idsTold as = firstIds (idsTold as).length := (issued_idsTold as).first
  have hlength : (idsTold as).length < UInt64.size := (length_idsTold_le as).trans_lt hcount
  refine ⟨?_, hfirst, length_idsTold_eq as⟩
  rw [hfirst]
  exact nodup_firstIds hlength

/-- The first document is deleted, and the next id is chosen by somebody. Still two ids are told,
one after the other. -/
theorem nodup_idsTold_oneDeletedOneChosen :
    let client : Client Unit := .ofStub ()
    let as : List Asking :=
      [⟨client, .createDocument "red" none⟩, ⟨client, .deleteDocument "doc-1" none⟩,
        ⟨client, .createDocumentWithId "doc-2" "green" none⟩,
        ⟨client, .createDocument "blue" (some .german)⟩]
    creations (as.map Asking.request) < UInt64.size ∧ (idsTold as).Nodup ∧
    idsTold as = ["doc-1", "doc-2"] := by
  intro client as
  have hcount : creations (as.map Asking.request) < UInt64.size := by decide
  obtain ⟨hnodup, hfirst, hall⟩ := nodup_idsTold as hcount
  have hlength : (idsTold as).length = 2 := hall (by decide +kernel)
  rw [hlength] at hfirst
  exact ⟨hcount, hnodup, hfirst.trans (by decide)⟩

end Store

end CentroidRpc
