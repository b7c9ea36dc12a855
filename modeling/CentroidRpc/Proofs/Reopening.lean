import CentroidRpc.Proofs.Authority
import CentroidRpc.Service.Network
import Mathlib.Data.List.Induction

/-!
# Clients that were given a service

A client that was given access to a service has the standard configuration, and so there is an
address to dial once its connection is closed. It is opened again exactly by a dialling that is
answered there, whatever service it was given (`History.reopened_iff`).
-/

namespace CentroidRpc

/-- The address of the standard configuration. -/
def Endpoint.standard : Endpoint := ⟨"localhost:8097", ""⟩

private theorem Endpoint.parse?_standard : parse? Config.standard.uri = some standard := by
  decide +kernel

namespace Session

variable {σ ω : Type}

/-- No move changes the configuration. -/
theorem config_move (s : Session σ ω) (m : Move σ ω) :
    (s.move m).client.config = s.client.config := by
  cases m with
  | dial d =>
    obtain ⟨-, hdial, -⟩ | ⟨-, hdial, -⟩ | ⟨-, _, _, hdial, -⟩ | ⟨-, _, _, _, hdial, -⟩ :=
      s.dial_cases d
    all_goals
      show (s.dial d).2.client.config = _
      rw [hdial]
  | disconnect => rcases s with ⟨⟨config, _ | stub | _⟩, world⟩ <;> rfl
  | call x r =>
    show (s.call x r).2.client.config = _
    cases h : s.client.connection.isOpen with
    | false => rw [call_of_not_open h]
    | true =>
      obtain ⟨stub, hs⟩ := s.client.connection.isOpen_iff.1 h
      rw [call_of_open hs]

section Closed

variable {s : Session σ ω} (hclosed : s.client.connection.isOpen = false)

include hclosed

private theorem move_of_not_open {m : Move σ ω} (hm : ∀ d, m ≠ .dial d) : s.move m = s := by
  cases m with
  | dial d => exact absurd rfl (hm d)
  | disconnect => exact congrArg (·.2) (disconnect_of_not_open hclosed)
  | call x r => exact congrArg (·.2) (call_of_not_open hclosed x r)

variable (hconfig : s.client.config = .standard) (d : Dialling σ ω)

include hconfig

private theorem dialled_standard :
    s.dialled d = [(.standard, (d .standard s.world).1.isSome)] := by
  rw [dialled_eq, hclosed, hconfig, Endpoint.parse?_standard]
  rfl

private theorem client_dial_standard : (s.dial d).2.client =
    match (d .standard s.world).1 with
    | none => s.client
    | some stub => ⟨.standard, .opened stub⟩ := by
  have hparse : Endpoint.parse? s.client.config.uri = some .standard := by
    rw [hconfig, Endpoint.parse?_standard]
  obtain ⟨found, world, hd⟩ : ∃ found world, d .standard s.world = (found, world) := ⟨_, _, rfl⟩
  rw [hd]
  cases found with
  | none => rw [dial_of_unanswered s d hclosed hparse hd]
  | some stub => rw [dial_of_answered s d hclosed hparse hd, hconfig]

end Closed

end Session

/-- Whether a move is a dialling that is answered at the standard address. -/
def Move.Reaches {σ ω : Type} (m : Move σ ω) (world : ω) : Prop :=
  ∃ d, m = .dial d ∧ (d .standard world).1.isSome = true

/-- A connection that is not open is opened exactly by a dialling that is answered at the standard
address, under the standard configuration. -/
theorem Session.isOpen_move_iff {σ ω : Type} {s : Session σ ω}
    (hclosed : s.client.connection.isOpen = false) (hconfig : s.client.config = .standard)
    (m : Move σ ω) : (s.move m).client.connection.isOpen = true ↔ m.Reaches s.world := by
  by_cases hm : ∀ d, m ≠ .dial d
  · rw [move_of_not_open hclosed hm, hclosed]
    exact iff_of_false Bool.false_ne_true fun ⟨d, hd, _⟩ ↦ hm d hd
  · obtain ⟨d, rfl⟩ : ∃ d, m = .dial d := by
      simpa using hm
    have hreaches : (Move.dial d).Reaches s.world ↔ (d .standard s.world).1.isSome = true := by
      constructor
      · rintro ⟨_, ⟨⟩, hanswer⟩
        exact hanswer
      · exact fun hanswer ↦ ⟨d, rfl, hanswer⟩
    have hclient := client_dial_standard hclosed hconfig d
    rw [hreaches]
    show (s.dial d).2.client.connection.isOpen = true ↔ _
    rw [hclient]
    cases (d .standard s.world).1 with
    | none => simp [hclosed]
    | some stub => exact iff_of_true rfl rfl

namespace History

variable {σ ω : Type}

/-- One more move is made in the session that the ones before have left. -/
theorem run_concat (h : History σ ω) (ms : List (Move σ ω)) (m : Move σ ω) :
    h.run (ms ++ [m]) = (h.run ms).move m := by
  rw [run, List.foldl_append]
  rfl

/-- No moves change the configuration. -/
theorem config_run (h : History σ ω) (ms : List (Move σ ω)) :
    (h.run ms).session.client.config = h.session.client.config := by
  induction ms using List.reverseRecOn with
  | nil => rfl
  | append_singleton ms m ih =>
    rw [run_concat]
    exact ((h.run ms).session.config_move m).trans ih

section Standard

variable {h : History σ ω} (hconfig : h.session.client.config = .standard)

include hconfig

private theorem isOpen_run_concat {ms : List (Move σ ω)}
    (hclosed : (h.run ms).session.client.connection.isOpen = false) (m : Move σ ω) :
    (h.run (ms ++ [m])).session.client.connection.isOpen = true ↔
      m.Reaches (h.run ms).session.world := by
  rw [run_concat]
  exact Session.isOpen_move_iff hclosed ((h.config_run ms).trans hconfig) m

private theorem exists_reaches_of_isOpen (hclosed : h.session.client.connection.isOpen = false)
    {ms : List (Move σ ω)} (hopen : (h.run ms).session.client.connection.isOpen = true) :
    ∃ front m, front ++ [m] <+: ms ∧ m.Reaches (h.run front).session.world := by
  induction ms using List.reverseRecOn with
  | nil =>
    have hstill : h.session.client.connection.isOpen = true := hopen
    rw [hclosed] at hstill
    cases hstill
  | append_singleton ms m ih =>
    cases hbefore : (h.run ms).session.client.connection.isOpen with
    | true =>
      obtain ⟨front, m', hprefix, hreaches⟩ := ih hbefore
      exact ⟨front, m', hprefix.trans (List.prefix_append ms [m]), hreaches⟩
    | false =>
      exact ⟨ms, m, List.prefix_rfl, (isOpen_run_concat hconfig hbefore m).1 hopen⟩

private theorem exists_isOpen_of_reaches {front : List (Move σ ω)} {m : Move σ ω}
    (hreaches : m.Reaches (h.run front).session.world) :
    ∃ ms, ms <+: front ++ [m] ∧ (h.run ms).session.client.connection.isOpen = true := by
  cases hbefore : (h.run front).session.client.connection.isOpen with
  | true => exact ⟨front, List.prefix_append front [m], hbefore⟩
  | false =>
    exact ⟨front ++ [m], List.prefix_rfl, (isOpen_run_concat hconfig hbefore m).2 hreaches⟩

end Standard

/-- A client that was given access to a service, and whose connection is open no more: whatever is
dialled is the standard address, and if somebody answers, the connection is open to whoever this is.
In what comes later it is open at some time exactly if a dialling has been answered there, so it
stays closed for good if none is made. -/
theorem reopened_iff (stub : σ) (world : ω) (ms : List (Move σ ω))
    (hleft : ((start world (.stub stub)).run ms).session.client.connection.isOpen = false) :
    let h := (start world (.stub stub)).run ms
    (∀ d, h.session.dialled d = [(.standard, (d .standard h.session.world).1.isSome)] ∧
      ∀ other, (d .standard h.session.world).1 = some other →
        (h.move (.dial d)).session.client.connection = .opened other) ∧
    ∀ later,
      ((∃ front, front <+: later ∧ (h.run front).session.client.connection.isOpen = true) ↔
        ∃ front m, front ++ [m] <+: later ∧ m.Reaches (h.run front).session.world) ∧
      ((∀ m ∈ later, ∀ d, m ≠ .dial d) →
        (h.run later).session.client.connection.isOpen = false) := by
  intro h
  have hconfig : h.session.client.config = .standard := (start world (.stub stub)).config_run ms
  refine ⟨fun d ↦ ⟨Session.dialled_standard hleft hconfig d, fun other hother ↦ ?_⟩,
    fun later ↦ ⟨⟨?_, ?_⟩, fun hnone ↦ ?_⟩⟩
  · have hclient := Session.client_dial_standard hleft hconfig d
    rw [hother] at hclient
    exact congrArg (·.connection) hclient
  · rintro ⟨front, hfront, hopen⟩
    obtain ⟨before, m, hbefore, hreaches⟩ := exists_reaches_of_isOpen hconfig hleft hopen
    exact ⟨before, m, hbefore.trans hfront, hreaches⟩
  · rintro ⟨front, m, hprefix, hreaches⟩
    obtain ⟨opened, hopened, hopen⟩ := exists_isOpen_of_reaches hconfig hreaches
    exact ⟨opened, hopened.trans hprefix, hopen⟩
  · rw [← Bool.not_eq_true]
    intro hopen
    obtain ⟨front, m, hprefix, d, hd, -⟩ := exists_reaches_of_isOpen hconfig hleft hopen
    have hmem : m ∈ later := hprefix.subset (List.mem_append_right front List.mem_cons_self)
    exact hnone m hmem d hd

/-- Somebody is found at the standard address if a server runs on the network, and nobody at any
other one. -/
def onThisMachine : Dialling Nat Network := fun endpoint n ↦
  (if endpoint = .standard then n.dial else none, n)

/-- A client of the seventh server is disconnected. It dials while none runs, and stays closed. -/
theorem reopened_iff_nobodyThere :
    let h := (start (Network.idle true false) (.stub 7)).run [.disconnect]
    h.session.client.connection = .closed ∧
    h.session.dialled onThisMachine = [(⟨"localhost:8097", ""⟩, false)] ∧
    (h.run [.disconnect]).session.client.connection.isOpen = false := by
  intro h
  have hleft : h.session.client.connection.isOpen = false := rfl
  obtain ⟨hdial, hlater⟩ := reopened_iff 7 (Network.idle true false) [.disconnect] hleft
  refine ⟨rfl, (hdial onThisMachine).1, (hlater [.disconnect]).2 ?_⟩
  rintro m hm d rfl
  cases List.mem_singleton.1 hm

/-- A server runs at the standard address when the client of another one is to be connected again.
The connection is open then, and leads to the first one. -/
theorem reopened_elsewhere :
    let h := (start (Network.idle true false).serve (.stub 7)).run [.disconnect]
    h.session.client.connection = .closed ∧
    h.session.dialled onThisMachine = [(⟨"localhost:8097", ""⟩, true)] ∧
    (h.run [.dial onThisMachine]).session.client.connection = .opened 0 ∧
    ¬ ∀ (stub : Nat) (world : Network) (ms later : List (Move Nat Network)),
      let h := (start world (.stub stub)).run ms
      h.session.client.connection.isOpen = false →
      (h.run later).session.client.connection.isOpen = false := by
  intro h
  have hleft : h.session.client.connection.isOpen = false := rfl
  have hdialled : h.session.dialled onThisMachine = [(⟨"localhost:8097", ""⟩, true)] :=
    Session.dialled_standard hleft rfl onThisMachine
  have hopen : (h.run [.dial onThisMachine]).session.client.connection = .opened 0 :=
    congrArg (·.connection) (Session.client_dial_standard hleft rfl onThisMachine)
  refine ⟨rfl, hdialled, hopen, fun hclaim ↦ ?_⟩
  have hstill := hclaim 7 (Network.idle true false).serve [.disconnect] [.dial onThisMachine] hleft
  simp only [h] at hopen
  rw [hopen] at hstill
  cases hstill

end History

end CentroidRpc
