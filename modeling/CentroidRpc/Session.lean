import CentroidRpc.Client

/-!
# Calls in the course of time

A session is a client together with the world on the other side. Calls made at the same time start
in order. One whose reply is there at once ends before the next one starts; the others end in the
order in which their replies arrive, and among replies of one moment in the order of their starts.
(`SPEC_FULL.md` §5, Concurrency & Resource Model.)
-/

namespace CentroidRpc

open Wire

/-- What becomes of a request on its way: whether it reached the service, what came back, and how
many rounds that took; none if the reply was there at once. -/
structure Passage where
  delivered : Bool
  reply : Reply
  delay : Nat

/-- The other side: what it does with a request that is sent over a stub. -/
abbrev Exchange (σ ω : Type) := σ → Request → ω → Passage × ω

/-- A call that has come to its end, with what its caller is told. -/
structure Finished where
  request : Request
  delivered : Bool
  outcome : Except CallError (request.Answer Double)

/-- A call whose reply is still to come, at its position among the calls made at the same time. -/
structure Pending where
  position : Nat
  request : Request
  passage : Passage

/-- A client and the world on the other side. -/
structure Session (σ ω : Type) where
  client : Client σ
  world : ω

/-- What can be done with a client, and what comes of it on the other side: it is connected or
disconnected, or a call is made and waited for. -/
inductive Move (σ ω : Type) where
  | dial (d : Dialling σ ω)
  | disconnect
  | call (x : Exchange σ ω) (r : Request)

namespace Session

variable {σ ω : Type}

/-- Starts a call: it fails at once, or its request is on its way. -/
def start (s : Session σ ω) (x : Exchange σ ω) (r : Request) :
    Except Finished Passage × Session σ ω :=
  match s.client.start with
  | .error e => (.error ⟨r, false, .error e⟩, s)
  | .ok stub =>
    let (passage, world) := x stub r s.world
    (.ok passage, { s with world })

/-- Ends a call with the reply to its request. -/
def finish (s : Session σ ω) (r : Request) (passage : Passage) : Finished × Session σ ω :=
  let (outcome, client) := s.client.finish r passage.reply
  (⟨r, passage.delivered, outcome⟩, { s with client })

/-- Makes a call and waits for its end (`SPEC_FULL.md` §4.4, `call`). -/
def call (s : Session σ ω) (x : Exchange σ ω) (r : Request) : Finished × Session σ ω :=
  match s.start x r with
  | (.error failed, s) => (failed, s)
  | (.ok passage, s) => s.finish r passage

/-- Opens the connection, unless it is open. -/
def dial (s : Session σ ω) (d : Dialling σ ω) : Except ConnectError Unit × Session σ ω :=
  match s.client.dialIn d s.world with
  | (.ok client, world) => (.ok (), ⟨client, world⟩)
  | (.error e, world) => (.error e, ⟨s.client, world⟩)

/-- Closes the connection. -/
def disconnect (s : Session σ ω) : Except CallError Unit × Session σ ω :=
  match s.client.disconnect with
  | .ok client => (.ok (), ⟨client, s.world⟩)
  | .error e => (.error e, s)

/-- Starts calls in order. Gives those that have ended and those that are under way. -/
def startAll (s : Session σ ω) (position : Nat) :
    List (Exchange σ ω × Request) → (List (Nat × Finished) × List Pending) × Session σ ω
  | [] => (([], []), s)
  | (x, r) :: rest =>
    match s.start x r with
    | (.error failed, s) =>
      let ((ended, pending), s) := s.startAll (position + 1) rest
      (((position, failed) :: ended, pending), s)
    | (.ok passage, s) =>
      if passage.delay = 0 then
        let (finished, s) := s.finish r passage
        let ((ended, pending), s) := s.startAll (position + 1) rest
        (((position, finished) :: ended, pending), s)
      else
        let ((ended, pending), s) := s.startAll (position + 1) rest
        ((ended, ⟨position, r, passage⟩ :: pending), s)

/-- Ends calls in order. -/
def finishAll (s : Session σ ω) : List Pending → List (Nat × Finished) × Session σ ω
  | [] => ([], s)
  | p :: rest =>
    let (finished, s) := s.finish p.request p.passage
    let (ended, s) := s.finishAll rest
    ((p.position, finished) :: ended, s)

/-- Makes calls at the same time and waits for the end of them all. -/
def concurrently (s : Session σ ω) (calls : List (Exchange σ ω × Request)) :
    List Finished × Session σ ω :=
  let ((early, pending), s) := s.startAll 0 calls
  let (late, s) := s.finishAll (pending.mergeSort fun p q ↦ p.passage.delay ≤ q.passage.delay)
  (((early ++ late).mergeSort fun p q ↦ p.1 ≤ q.1).map (·.2), s)

/-- The session after a move. -/
def move (s : Session σ ω) : Move σ ω → Session σ ω
  | .dial d => (s.dial d).2
  | .disconnect => s.disconnect.2
  | .call x r => (s.call x r).2

end Session

end CentroidRpc
