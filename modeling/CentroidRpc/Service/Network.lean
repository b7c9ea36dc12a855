import CentroidRpc.Service.InMemory

/-!
# Servers on a network

At most one server runs at a time, each with a store of its own. A dialled connection leads to the
server that ran then, and breaks when that one is stopped. A network that is not reachable refuses
every dial.
-/

namespace CentroidRpc

/-- A network with at most one server on it: which one it is, and its store. A hanging one leaves
the simplest call without an answer and refuses all others. -/
structure Network where
  reachable : Bool
  hanging : Bool
  started : Nat
  running : Option (Nat × Store Float)

namespace Network

/-- A network without a server. -/
def idle (reachable hanging : Bool) : Network := ⟨reachable, hanging, 0, none⟩

/-- Starts a server unless one runs. -/
def serve (n : Network) : Network :=
  match n.running with
  | some _ => n
  | none => { n with started := n.started + 1, running := some (n.started, .empty) }

/-- Stops the server that runs. -/
def shutdown (n : Network) : Network := { n with running := none }

/-- The server that is found by a dial. -/
def dial (n : Network) : Option Nat := if n.reachable then n.running.map (·.1) else none

/-- The status of a call that broke off on this side. -/
def brokenOff (reason : String) : Reply := .error ⟨.unknown, reason, some reason⟩

/-- What becomes of a request to a server, when a call waits no longer than `timeout`. -/
def exchange (timeout : Option UInt64) : Exchange Nat Network := fun server r n ↦
  match n.running with
  | none => (⟨false, brokenOff "connection closed", 0⟩, n)
  | some (current, store) =>
    if current ≠ server then (⟨false, brokenOff "connection closed", 0⟩, n)
    else if n.hanging then
      match r, timeout with
      | .ping, some _ => (⟨true, brokenOff "Timeout expired", 0⟩, n)
      | _, _ => ((Service.unimplemented.exchange () r ()).1, n)
    else
      let (passage, store) := Service.inMemory.exchange () r store
      (passage, { n with running := some (current, store) })

end Network

end CentroidRpc
