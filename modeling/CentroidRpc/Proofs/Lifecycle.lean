import CentroidRpc.Proofs.Interleaving

/-!
# The life of a connection over whole runs

A client dials, disconnects and calls, in any order. Each of these moves leaves the connection as it
is, opens it or closes it (`Session.turn_move`), so openings and closings take turns, and their
numbers tell how the connection stands (`History.lifecycle`). The rules are those of `SPEC_FULL.md`
§4.1.
-/

namespace CentroidRpc

/-- What has been dialled, each with whether somebody answered. -/
abbrev DialLog := List (Endpoint × Bool)

/-- The same dialling, with a log of it. -/
def Dialling.logged {σ ω : Type} (d : Dialling σ ω) : Dialling σ (ω × DialLog) :=
  fun endpoint (world, log) ↦
    let (found, world) := d endpoint world
    (found, world, log ++ [(endpoint, found.isSome)])

namespace Session

variable {σ ω : Type}

section Dial

variable (s : Session σ ω) (d : Dialling σ ω)

/-- An open connection is not dialled. -/
theorem dial_of_open (h : s.client.connection.isOpen = true) : s.dial d = (.ok (), s) := by
  simp [dial, Client.dialIn, Connection.dial, h, Except.map]

/-- What is no address is not dialled. -/
theorem dial_of_invalid (h : s.client.connection.isOpen = false)
    (hparse : Endpoint.parse? s.client.config.uri = none) :
    s.dial d = (.error (.invalidUrl s.client.config.uri), s) := by
  simp [dial, Client.dialIn, Connection.dial, h, hparse, Except.map]

/-- If nobody answers, the client stays as it is. -/
theorem dial_of_unanswered (h : s.client.connection.isOpen = false) {endpoint : Endpoint}
    (hparse : Endpoint.parse? s.client.config.uri = some endpoint) {world : ω}
    (hd : d endpoint s.world = (none, world)) :
    s.dial d = (.error (.connectionFailed s.client.config.uri), ⟨s.client, world⟩) := by
  simp [dial, Client.dialIn, Connection.dial, h, hparse, hd, Except.map]

/-- If somebody answers, the connection is open. -/
theorem dial_of_answered (h : s.client.connection.isOpen = false) {endpoint : Endpoint}
    (hparse : Endpoint.parse? s.client.config.uri = some endpoint) {stub : σ} {world : ω}
    (hd : d endpoint s.world = (some stub, world)) :
    s.dial d = (.ok (), ⟨⟨s.client.config, .opened stub⟩, world⟩) := by
  simp [dial, Client.dialIn, Connection.dial, h, hparse, hd, Except.map]

end Dial

/-- What is dialled when the connection is to be opened. -/
def dialled (s : Session σ ω) (d : Dialling σ ω) : DialLog :=
  ((⟨s.client, s.world, []⟩ : Session σ (ω × DialLog)).dial d.logged).2.world.2

/-- What is dialled is the address that the configuration names, unless the connection is open. -/
theorem dialled_eq (s : Session σ ω) (d : Dialling σ ω) : s.dialled d =
    if s.client.connection.isOpen then []
    else
      match Endpoint.parse? s.client.config.uri with
      | none => []
      | some endpoint => [(endpoint, (d endpoint s.world).1.isSome)] := by
  unfold dialled dial Client.dialIn Connection.dial
  cases s.client.connection.isOpen with
  | true => rfl
  | false =>
    cases Endpoint.parse? s.client.config.uri with
    | none => rfl
    | some endpoint =>
      simp only [Dialling.logged]
      cases d endpoint s.world with
      | mk found world => cases found <;> rfl

/-- Nothing is dialled if the connection is open. -/
theorem dialled_of_open (s : Session σ ω) (d : Dialling σ ω)
    (h : s.client.connection.isOpen = true) : s.dialled d = [] := by
  rw [dialled_eq, if_pos h]

/-- Nothing is dialled if there is no address. -/
theorem dialled_of_invalid (s : Session σ ω) (d : Dialling σ ω)
    (hparse : Endpoint.parse? s.client.config.uri = none) : s.dialled d = [] := by
  rw [dialled_eq, hparse]
  exact ite_self []

/-- An attempt to open a connection that is not open, at an address: this is dialled once, and the
attempt succeeds exactly if somebody answers. The connection is open to whoever has answered, and
otherwise the client stays as it is. -/
structure Attempts (s : Session σ ω) (d : Dialling σ ω) (endpoint : Endpoint) : Prop where
  dialled : s.dialled d = [(endpoint, (d endpoint s.world).1.isSome)]
  ok_iff : (s.dial d).1 = .ok () ↔ (d endpoint s.world).1.isSome = true
  answered : ∀ stub world, d endpoint s.world = (some stub, world) →
    (s.dial d).2 = ⟨⟨s.client.config, .opened stub⟩, world⟩
  unanswered : ∀ world, d endpoint s.world = (none, world) →
    s.dial d = (.error (.connectionFailed s.client.config.uri), ⟨s.client, world⟩)

/-- A connection that is not open is dialled at the address that the configuration names. -/
theorem attempts_of_parse (s : Session σ ω) (d : Dialling σ ω)
    (h : s.client.connection.isOpen = false) {endpoint : Endpoint}
    (hparse : Endpoint.parse? s.client.config.uri = some endpoint) : s.Attempts d endpoint where
  dialled := by
    rw [dialled_eq, h, hparse]
    rfl
  ok_iff := by
    obtain ⟨found, world, hd⟩ : ∃ found world, d endpoint s.world = (found, world) := ⟨_, _, rfl⟩
    rw [hd]
    cases found with
    | none =>
      rw [dial_of_unanswered s d h hparse hd]
      exact iff_of_false nofun nofun
    | some stub =>
      rw [dial_of_answered s d h hparse hd]
      exact iff_of_true rfl rfl
  answered stub world hd := congrArg Prod.snd (dial_of_answered s d h hparse hd)
  unanswered world hd := dial_of_unanswered s d h hparse hd

/-- An attempt to open the connection finds it open, finds no address, or dials once, and nobody
answers or somebody does. -/
theorem dial_cases (s : Session σ ω) (d : Dialling σ ω) :
    (s.client.connection.isOpen = true ∧ s.dial d = (.ok (), s) ∧ s.dialled d = []) ∨
    (s.client.connection.isOpen = false ∧
      s.dial d = (.error (.invalidUrl s.client.config.uri), s) ∧ s.dialled d = []) ∨
    (s.client.connection.isOpen = false ∧ ∃ endpoint world,
      s.dial d = (.error (.connectionFailed s.client.config.uri), ⟨s.client, world⟩) ∧
      s.dialled d = [(endpoint, false)]) ∨
    (s.client.connection.isOpen = false ∧ ∃ endpoint stub world,
      s.dial d = (.ok (), ⟨⟨s.client.config, .opened stub⟩, world⟩) ∧
      s.dialled d = [(endpoint, true)]) := by
  cases h : s.client.connection.isOpen with
  | true => exact .inl ⟨rfl, dial_of_open s d h, dialled_of_open s d h⟩
  | false =>
    refine .inr ?_
    cases hparse : Endpoint.parse? s.client.config.uri with
    | none => exact .inl ⟨rfl, dial_of_invalid s d h hparse, dialled_of_invalid s d hparse⟩
    | some endpoint =>
      refine .inr ?_
      have hdialled := (attempts_of_parse s d h hparse).dialled
      obtain ⟨found, world, hd⟩ : ∃ found world, d endpoint s.world = (found, world) :=
        ⟨_, _, rfl⟩
      rw [hd] at hdialled
      cases found with
      | none => exact .inl ⟨rfl, endpoint, world, dial_of_unanswered s d h hparse hd, hdialled⟩
      | some stub =>
        exact .inr ⟨rfl, endpoint, stub, world, dial_of_answered s d h hparse hd, hdialled⟩

/-- Opening the connection is what it is for the client alone, to which the other side is as it is
found. -/
theorem client_dial (s : Session σ ω) (d : Dialling σ ω) :
    s.client.dial (fun endpoint ↦ (d endpoint s.world).1) =
      (s.dial d).1.map fun _ ↦ (s.dial d).2.client := by
  unfold Client.dial dial Client.dialIn Connection.dial
  cases s.client.connection.isOpen with
  | true => rfl
  | false =>
    cases Endpoint.parse? s.client.config.uri with
    | none => rfl
    | some endpoint =>
      obtain ⟨found, hfound⟩ : ∃ found, d endpoint s.world = found := ⟨_, rfl⟩
      simp only [hfound]
      rcases found with ⟨_ | stub, world⟩
      · rfl
      · rfl

/-- Closing the connection is what it is for the client alone. -/
theorem client_disconnect (s : Session σ ω) :
    s.client.disconnect = s.disconnect.1.map fun _ ↦ s.disconnect.2.client := by
  rcases s with ⟨⟨config, _ | stub | _⟩, world⟩ <;> rfl

end Session

/-- Whether a call told of a lost connection. -/
def Finished.tellsLoss (f : Finished) : Bool :=
  match f.outcome with
  | .error (.transport status) => status.isLoss
  | _ => false

private theorem Finished.tellsLoss_iff (f : Finished) : f.tellsLoss = true ↔ f.Loss := by
  unfold tellsLoss Loss
  split
  · next status h => simp [h, RpcStatus.isLoss_iff]
  · next hother =>
    refine iff_of_false Bool.false_ne_true ?_
    rintro ⟨status, h, -⟩
    exact hother status h

namespace Move

variable {σ ω : Type}

/-- How often a move opens the connection: once for each dialling that was answered. -/
def openings (s : Session σ ω) : Move σ ω → Nat
  | dial d => (s.dialled d).countP (·.2)
  | disconnect | call .. => 0

/-- How often a move closes the connection: once if it succeeds in disconnecting, and once if a call
over an open connection tells of its loss. -/
def closings (s : Session σ ω) : Move σ ω → Nat
  | dial _ => 0
  | disconnect => if s.disconnect.1.isOk then 1 else 0
  | call x r => if s.client.connection.isOpen && (s.call x r).1.tellsLoss then 1 else 0

end Move

/-- What becomes of a connection in one move, with how often it was opened and closed by it. -/
inductive Connection.Turn {σ : Type} : Connection σ → Connection σ → Nat → Nat → Prop where
  /-- It stays as it is. -/
  | stays (c : Connection σ) : Turn c c 0 0
  /-- It is opened, which it was not. -/
  | opens {c : Connection σ} (h : c.isOpen = false) (stub : σ) : Turn c (.opened stub) 1 0
  /-- It is closed, and was open. -/
  | closes (stub : σ) : Turn (.opened stub) .closed 0 1

namespace Session

variable {σ ω : Type}

/-- Without an open connection a call fails at once, and nobody notices. -/
theorem call_of_not_open {s : Session σ ω} (h : s.client.connection.isOpen = false)
    (x : Exchange σ ω) (r : Request) : s.call x r = (.unsent r, s) := by
  rw [call, start_of_not_open h]

/-- A call is told that there is no connection exactly if none is open. -/
theorem call_notConnected_iff (s : Session σ ω) (x : Exchange σ ω) (r : Request) :
    (s.call x r).1.outcome = .error .notConnected ↔ s.client.connection.isOpen = false := by
  cases h : s.client.connection.isOpen with
  | false =>
    rw [call_of_not_open h]
    exact iff_of_true rfl rfl
  | true =>
    obtain ⟨stub, hs⟩ := s.client.connection.isOpen_iff.1 h
    rw [call_of_open hs]
    exact iff_of_false (Finished.finished_ne_notConnected (x stub r s.world).1 r) nofun

/-- An open one is closed, and nothing else happens. -/
theorem disconnect_of_open {s : Session σ ω} (h : s.client.connection.isOpen = true) :
    s.disconnect = (.ok (), ⟨⟨s.client.config, .closed⟩, s.world⟩) := by
  rcases s with ⟨⟨config, _ | stub | _⟩, world⟩
  · cases h
  · rfl
  · cases h

/-- One that is not open stays as it is. -/
theorem disconnect_of_not_open {s : Session σ ω} (h : s.client.connection.isOpen = false) :
    s.disconnect = (.error .notConnected, s) := by
  rcases s with ⟨⟨config, _ | stub | _⟩, world⟩
  · rfl
  · cases h
  · rfl

/-- A move leaves the connection as it is, opens it or closes it. -/
theorem turn_move (s : Session σ ω) (m : Move σ ω) :
    s.client.connection.Turn (s.move m).client.connection (m.openings s) (m.closings s) := by
  cases m with
  | dial d =>
    show s.client.connection.Turn (s.dial d).2.client.connection ((s.dialled d).countP (·.2)) 0
    obtain ⟨-, hdial, hlog⟩ | ⟨-, hdial, hlog⟩ | ⟨-, endpoint, world, hdial, hlog⟩ |
      ⟨h, endpoint, stub, world, hdial, hlog⟩ := s.dial_cases d
    · rw [hdial, hlog]
      exact .stays _
    · rw [hdial, hlog]
      exact .stays _
    · rw [hdial, hlog]
      exact .stays _
    · rw [hdial, hlog]
      exact .opens h stub
  | disconnect =>
    rcases s with ⟨⟨config, _ | stub | _⟩, world⟩
    · exact .stays _
    · exact .closes stub
    · exact .stays _
  | call x r =>
    show s.client.connection.Turn (s.call x r).2.client.connection 0
      (if s.client.connection.isOpen && (s.call x r).1.tellsLoss then 1 else 0)
    cases h : s.client.connection.isOpen with
    | false =>
      rw [call_of_not_open h]
      exact .stays _
    | true =>
      obtain ⟨stub, hs⟩ := s.client.connection.isOpen_iff.1 h
      obtain ⟨passage, world, hx⟩ : ∃ passage world, x stub r s.world = (passage, world) :=
        ⟨_, _, rfl⟩
      have hcall : s.call x r = (passage.finished r,
          ⟨⟨s.client.config, s.client.connection.after (r.response passage.reply)⟩, world⟩) := by
        rw [call_of_open hs, hx]
        rfl
      rw [hcall]
      -- The reply alone decides whether the connection is closed.
      cases hloss : (passage.finished r).tellsLoss with
      | true =>
        rw [Connection.after_of_loss _ ((Finished.tellsLoss_iff _).1 hloss), hs]
        exact .closes stub
      | false =>
        have hkept : ¬ (passage.finished r).Loss := by
          rw [← Finished.tellsLoss_iff, hloss]
          exact Bool.false_ne_true
        rw [Connection.after_of_not_loss _ hkept]
        exact .stays _

end Session

/-- How often a connection has been opened and closed when it stands like this. -/
def Connection.Balanced {σ : Type} (c : Connection σ) (openings closings : Nat) : Prop :=
  match c with
  | unopened => openings = 0 ∧ closings = 0
  | opened _ => openings = closings + 1
  | closed => openings = closings ∧ 0 < openings

namespace Connection

variable {σ : Type} {c c' : Connection σ} {openings closings : Nat}

private theorem Balanced.turn (h : c.Balanced openings closings) {i j : Nat}
    (hturn : Turn c c' i j) :
    c'.Balanced (openings + i) (closings + j) := by
  cases hturn with
  | stays => exact h
  | opens hopen stub =>
    show openings + 1 = closings + 1
    cases c with
    | unopened => rw [h.1, h.2]
    | opened stub => cases hopen
    | closed => rw [h.1]
  | closes stub =>
    have hopened : openings = closings + 1 := h
    exact ⟨hopened, hopened ▸ Nat.succ_pos closings⟩

private theorem Balanced.count (h : c.Balanced openings closings) :
    (openings = closings ∨ openings = closings + 1) ∧
    (openings = closings + 1 ↔ c.isOpen = true) ∧ (c = .unopened ↔ openings = 0) := by
  cases c with
  | unopened =>
    obtain ⟨rfl, rfl⟩ := h
    simp [isOpen]
  | opened stub =>
    cases (h : openings = closings + 1)
    simp [isOpen]
  | closed =>
    obtain ⟨rfl, hpos⟩ := h
    simp [isOpen, Nat.pos_iff_ne_zero.1 hpos]

end Connection

/-- A session, with how often its connection has been opened and closed. -/
structure History (σ ω : Type) where
  session : Session σ ω
  openings : Nat
  closings : Nat

/-- How a client comes about. -/
inductive ClientOrigin (σ : Type) where
  | config (config : Config)
  | stub (stub : σ)

namespace History

variable {σ ω : Type}

/-- A client at its start. Access to a service counts as an opening. -/
def start (world : ω) : ClientOrigin σ → History σ ω
  | .config config => ⟨⟨.ofConfig config, world⟩, 0, 0⟩
  | .stub stub => ⟨⟨.ofStub stub, world⟩, 1, 0⟩

/-- One more move. -/
def move (h : History σ ω) (m : Move σ ω) : History σ ω :=
  ⟨h.session.move m, h.openings + m.openings h.session, h.closings + m.closings h.session⟩

/-- Some more moves, one after the other. -/
def run (h : History σ ω) (ms : List (Move σ ω)) : History σ ω := ms.foldl move h

/-- The count of openings and closings is right for the connection. -/
def Balanced (h : History σ ω) : Prop :=
  h.session.client.connection.Balanced h.openings h.closings

private theorem balanced_start (world : ω) (origin : ClientOrigin σ) :
    (start world origin).Balanced := by
  cases origin with
  | config config => exact ⟨rfl, rfl⟩
  | stub stub => exact rfl

/-- It stays right with each move. -/
theorem Balanced.move {h : History σ ω} (hb : h.Balanced) (m : Move σ ω) : (h.move m).Balanced :=
  hb.turn (h.session.turn_move m)

/-- It stays right with all of them. -/
theorem Balanced.run {h : History σ ω} (hb : h.Balanced) (ms : List (Move σ ω)) :
    (h.run ms).Balanced := by
  induction ms generalizing h with
  | nil => exact hb
  | cons m ms ih => exact ih (hb.move m)

/-- However a client came about and whatever has been done with it: a call is told that there is no
connection exactly if none is open, and then the other side does not notice. Disconnecting closes an
open connection and leaves every other one. An open connection is not dialled, and a connection that
is not open is dialled once if the configuration names an address, and then it is open exactly if
somebody has answered; an attempt that fails leaves the client as it is. What the session does is
what its client does. At most one opening is without a closing, which is the one of a connection
that is open, and a connection is unopened exactly if there was none. -/
theorem lifecycle (origin : ClientOrigin σ) (world : ω) (ms : List (Move σ ω)) :
    let h := (start world origin).run ms
    let s := h.session
    let uri := s.client.config.uri
    (∀ x r, ((s.call x r).1.outcome = .error .notConnected ↔
        s.client.connection.isOpen = false) ∧
      ((s.call x r).1.outcome = .error .notConnected →
        (s.call x r).1.delivered = false ∧ (s.call x r).2 = s)) ∧
    (s.client.connection.isOpen = true →
      s.disconnect = (.ok (), ⟨⟨s.client.config, .closed⟩, s.world⟩) ∧
      ∀ d, s.dial d = (.ok (), s) ∧ s.dialled d = []) ∧
    (s.client.connection.isOpen = false →
      s.disconnect = (.error .notConnected, s) ∧
      ∀ d, (Endpoint.parse? uri = none →
          s.dial d = (.error (.invalidUrl uri), s) ∧ s.dialled d = []) ∧
        ∀ endpoint, Endpoint.parse? uri = some endpoint → s.Attempts d endpoint) ∧
    (∀ d e, (s.dial d).1 = .error e → (s.dial d).2.client = s.client) ∧
    (∀ d, s.client.dial (fun endpoint ↦ (d endpoint s.world).1) =
      (s.dial d).1.map fun _ ↦ (s.dial d).2.client) ∧
    s.client.disconnect = (s.disconnect.1.map fun _ ↦ s.disconnect.2.client) ∧
    (h.openings = h.closings ∨ h.openings = h.closings + 1) ∧
    (h.openings = h.closings + 1 ↔ s.client.connection.isOpen = true) ∧
    (s.client.connection = .unopened ↔ h.openings = 0) := by
  intro h s uri
  refine ⟨fun x r ↦ ⟨s.call_notConnected_iff x r, fun hcall ↦ ?_⟩,
    fun hopen ↦ ⟨Session.disconnect_of_open hopen,
      fun d ↦ ⟨s.dial_of_open d hopen, s.dialled_of_open d hopen⟩⟩,
    fun hclosed ↦ ⟨Session.disconnect_of_not_open hclosed, fun d ↦
      ⟨fun hparse ↦ ⟨s.dial_of_invalid d hclosed hparse, s.dialled_of_invalid d hparse⟩,
        fun endpoint hparse ↦ s.attempts_of_parse d hclosed hparse⟩⟩,
    fun d e hfailed ↦ ?_, s.client_dial, s.client_disconnect,
    ((balanced_start world origin).run ms).count⟩
  · rw [Session.call_of_not_open ((s.call_notConnected_iff x r).1 hcall)]
    exact ⟨rfl, rfl⟩
  · obtain ⟨-, hdial, -⟩ | ⟨-, hdial, -⟩ | ⟨-, _, _, hdial, -⟩ | ⟨-, _, _, _, hdial, -⟩ :=
      s.dial_cases d
    all_goals
      rw [hdial] at hfailed ⊢
    · cases hfailed

/-- Disconnecting twice closes once. -/
example : ((start () (.stub ())).run [.disconnect, .disconnect]).closings = 1 := rfl

end History

end CentroidRpc
