import CentroidRpc.Proofs.Lifecycle
import CentroidRpc.Proofs.Told
import Mathlib.Data.List.Induction

/-!
# Clients of one store

A store may have any number of clients, and each of them may come and go. A call reaches the store
exactly if its client is connected at the time and its request is not too long. What reaches the
store is answered by it (`Store.world_ask`), and every other call leaves it as it is.
-/

namespace CentroidRpc

/-- A call that somebody makes. -/
structure Asking where
  client : Client Unit
  draft : Draft

/-- The request that is sent for a call. -/
abbrev Asking.request (a : Asking) : Request := a.draft.request

/-- A call reaches the store: its client is connected, and its request is not too long. -/
def Asking.Reaches (a : Asking) : Prop :=
  a.client.connection.isOpen = true ∧ a.request.encode.length ≤ RpcStatus.maxMessageSize

instance (a : Asking) : Decidable a.Reaches :=
  inferInstanceAs (Decidable (_ ∧ _))

namespace Store

/-- What a call to a store comes to, and the store afterwards. -/
def ask (s : Store Float) (a : Asking) : Finished × Store Float :=
  let (finished, session) := Session.call ⟨a.client, s⟩ (Service.exchange .inMemory) a.request
  (finished, session.world)

/-- What calls to a store come to, one after the other, and the store afterwards. -/
def askAll (s : Store Float) : List Asking → List Finished × Store Float
  | [] => ([], s)
  | a :: rest =>
    let (finished, s) := s.ask a
    let (others, s) := s.askAll rest
    (finished :: others, s)

/-- One more call is made to the store that the ones before have left. -/
theorem askAll_concat (s : Store Float) (as : List Asking) (a : Asking) :
    s.askAll (as ++ [a]) =
      ((s.askAll as).1 ++ [((s.askAll as).2.ask a).1], ((s.askAll as).2.ask a).2) := by
  induction as generalizing s with
  | nil => rfl
  | cons b bs ih =>
    simp only [List.cons_append, askAll, ih]

variable {a : Asking}

/-- Of a call that does not reach the store nothing comes but an error. -/
theorem ask_of_not_reaches (h : ¬ a.Reaches) (s : Store Float) :
    ∃ e, s.ask a = (⟨a.request, false, .error e⟩, s) := by
  cases hopen : a.client.connection.isOpen with
  | false =>
    have hcall := Session.call_of_not_open (s := ⟨a.client, s⟩) hopen (Service.exchange .inMemory)
    refine ⟨.notConnected, ?_⟩
    simp only [ask, hcall]
    rfl
  | true =>
    have hlong : RpcStatus.tooLong? a.request.encode.length ≠ none :=
      fun hnone ↦ h ⟨hopen, RpcStatus.tooLong?_eq_none_iff.1 hnone⟩
    obtain ⟨status, hstatus⟩ := Option.ne_none_iff_exists'.1 hlong
    obtain ⟨stub, hstub⟩ := a.client.connection.isOpen_iff.1 hopen
    have hcall := Session.call_of_tooLong (s := ⟨a.client, s⟩) hstub hstatus .inMemory
    refine ⟨.transport status, ?_⟩
    simp only [ask, hcall]

/-- Every other one is answered by the store, and the answer comes back if it is not too long. -/
theorem ask_of_reaches (h : a.Reaches) (s : Store Float) :
    s.ask a =
      (⟨a.request, true, a.request.conclude
          (a.request.response (Reply.received (.ok (a.request.replyOf s))))⟩,
        (s.answer a.request).2) := by
  obtain ⟨hopen, hfits⟩ := h
  obtain ⟨stub, hstub⟩ := a.client.connection.isOpen_iff.1 hopen
  have hcall := Session.call_of_open (s := ⟨a.client, s⟩) hstub (Service.exchange .inMemory)
  simp only [ask, hcall, Service.exchange_inMemory hfits]

/-- What reaches the store is answered by it, and nothing else changes it. -/
theorem world_ask (a : Asking) (s : Store Float) :
    (s.ask a).2 = if a.Reaches then (s.answer a.request).2 else s := by
  split
  · next h => rw [ask_of_reaches h]
  · next h =>
    obtain ⟨e, hask⟩ := ask_of_not_reaches h s
    rw [hask]

/-- Calls over clients lead to a store that calls lead to. -/
theorem served_askAll (as : List Asking) : (empty.askAll as).2.Served := by
  induction as using List.reverseRecOn with
  | nil => exact ⟨[], rfl⟩
  | append_singleton as a ih =>
    rw [askAll_concat, world_ask]
    split
    · exact ih.answer a.draft
    · exact ih

end Store

end CentroidRpc
