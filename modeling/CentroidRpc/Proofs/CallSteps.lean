import CentroidRpc.Proofs.Connection
import CentroidRpc.Session
import Mathlib.Logic.Function.Basic

/-!
# The steps of calls made at the same time

Calls over one session start and complete in any order. A step is the start of a call, which takes
access to the other side or fails, or its completion, at which its reply arrives and may close the
connection. A run is a row of steps, and completions can be swapped in it (`Calls.run_perm`).
-/

namespace CentroidRpc

/-- One end of a call, where the calls are named by an `ι`. -/
inductive CallStep (ι : Type) where
  | start (i : ι)
  | complete (i : ι)

/-- How far a call has come. -/
inductive Progress where
  | waiting
  | underWay (passage : Passage)
  | ended (finished : Finished)

/-- Calls made at the same time over one session. -/
structure Calls (σ ω ι : Type) where
  session : Session σ ω
  progress : ι → Progress

/-- What a call comes to whose request went this way. -/
def Passage.finished (p : Passage) (r : Request) : Finished :=
  ⟨r, p.delivered, r.conclude (r.response p.reply)⟩

/-- A call that failed at its start. -/
def Finished.unsent (r : Request) : Finished := ⟨r, false, .error .notConnected⟩

namespace Session

variable {σ ω : Type} {s : Session σ ω}

/-- Over an open connection a request goes on its way. -/
theorem start_of_open {stub : σ} (h : s.client.connection = .opened stub) (x : Exchange σ ω)
    (r : Request) :
    s.start x r = (.ok (x stub r s.world).1, ⟨s.client, (x stub r s.world).2⟩) := by
  simp only [start, Client.start, h, Connection.stub]

/-- Without an open connection a call fails at once. -/
theorem start_of_not_open (h : s.client.connection.isOpen = false) (x : Exchange σ ω)
    (r : Request) : s.start x r = (.error (.unsent r), s) := by
  simp only [start, Client.start, Connection.stub_of_not_open h]
  rfl

/-- A call ends with what its reply says, and the reply may close the connection. -/
theorem finish_eq (s : Session σ ω) (r : Request) (p : Passage) :
    s.finish r p = (p.finished r,
      ⟨⟨s.client.config, s.client.connection.after (r.response p.reply)⟩, s.world⟩) := rfl

end Session

namespace Calls

variable {σ ω ι : Type}

/-- Calls of which none has started. -/
def ofSession (s : Session σ ω) : Calls σ ω ι := ⟨s, fun _ ↦ .waiting⟩

/-- The connection that the calls share. -/
abbrev connection (c : Calls σ ω ι) : Connection σ := c.session.client.connection

variable [DecidableEq ι] (plan : ι → Exchange σ ω × Request)

/-- Takes a step of one of the calls, each of which is a request with what the other side makes of
it. A call starts once, and completes once after that. -/
def step (c : Calls σ ω ι) : CallStep ι → Option (Calls σ ω ι)
  | .start i =>
    match c.progress i with
    | .waiting =>
      match c.session.start (plan i).1 (plan i).2 with
      | (.error failed, s) => some ⟨s, Function.update c.progress i (.ended failed)⟩
      | (.ok passage, s) => some ⟨s, Function.update c.progress i (.underWay passage)⟩
    | _ => none
  | .complete i =>
    match c.progress i with
    | .underWay passage =>
      let (finished, s) := c.session.finish (plan i).2 passage
      some ⟨s, Function.update c.progress i (.ended finished)⟩
    | _ => none

/-- Takes steps in order. -/
def run (c : Calls σ ω ι) (steps : List (CallStep ι)) : Option (Calls σ ω ι) :=
  steps.foldlM (step plan) c

variable {plan} {c c' : Calls σ ω ι} {i : ι}

/-- Over an open connection a call goes under way, and its request reaches the other side. -/
theorem step_start_of_open {stub : σ} (hi : c.progress i = .waiting)
    (h : c.connection = .opened stub) :
    step plan c (.start i) =
      some ⟨⟨c.session.client, ((plan i).1 stub (plan i).2 c.session.world).2⟩,
        Function.update c.progress i
          (.underWay ((plan i).1 stub (plan i).2 c.session.world).1)⟩ := by
  simp only [step, hi, Session.start_of_open h]

/-- Without an open connection a call fails at once, and the other side does not notice. -/
theorem step_start_of_not_open (hi : c.progress i = .waiting) (h : c.connection.isOpen = false) :
    step plan c (.start i) =
      some ⟨c.session, Function.update c.progress i (.ended (.unsent (plan i).2))⟩ := by
  simp only [step, hi, Session.start_of_not_open h]

/-- A call completes with what its own reply says. -/
theorem step_complete {p : Passage} (hi : c.progress i = .underWay p) :
    step plan c (.complete i) =
      some ⟨⟨⟨c.session.client.config, c.connection.after ((plan i).2.response p.reply)⟩,
          c.session.world⟩,
        Function.update c.progress i (.ended (p.finished (plan i).2))⟩ := by
  simp only [step, hi, Session.finish_eq]

/-- A step is a start over an open connection, a start without one, or a completion. -/
theorem step_cases {e : CallStep ι} (h : step plan c e = some c') :
    (∃ i stub, e = .start i ∧ c.progress i = .waiting ∧ c.connection = .opened stub ∧
      c' = ⟨⟨c.session.client, ((plan i).1 stub (plan i).2 c.session.world).2⟩,
        Function.update c.progress i
          (.underWay ((plan i).1 stub (plan i).2 c.session.world).1)⟩) ∨
    (∃ i, e = .start i ∧ c.progress i = .waiting ∧ c.connection.isOpen = false ∧
      c' = ⟨c.session, Function.update c.progress i (.ended (.unsent (plan i).2))⟩) ∨
    (∃ i p, e = .complete i ∧ c.progress i = .underWay p ∧
      c' = ⟨⟨⟨c.session.client.config, c.connection.after ((plan i).2.response p.reply)⟩,
          c.session.world⟩,
        Function.update c.progress i (.ended (p.finished (plan i).2))⟩) := by
  cases e with
  | start i =>
    cases hi : c.progress i with
    | waiting =>
      cases ho : c.connection.isOpen with
      | true =>
        obtain ⟨stub, hc⟩ := c.connection.isOpen_iff.mp ho
        rw [step_start_of_open hi hc] at h
        exact .inl ⟨i, stub, rfl, hi, hc, (Option.some.inj h).symm⟩
      | false =>
        rw [step_start_of_not_open hi ho] at h
        exact .inr (.inl ⟨i, rfl, hi, rfl, (Option.some.inj h).symm⟩)
    | underWay p => simp [step, hi] at h
    | ended f => simp [step, hi] at h
  | complete i =>
    cases hi : c.progress i with
    | waiting => simp [step, hi] at h
    | underWay p =>
      rw [step_complete hi] at h
      exact .inr (.inr ⟨i, p, rfl, hi, (Option.some.inj h).symm⟩)
    | ended f => simp [step, hi] at h

/-- No steps lead nowhere else. -/
@[simp] theorem run_nil (c : Calls σ ω ι) : run plan c [] = some c := rfl

/-- A run is a step and the run after it. -/
theorem run_cons (c : Calls σ ω ι) (e : CallStep ι) (es : List (CallStep ι)) :
    run plan c (e :: es) = (step plan c e).bind fun c' ↦ run plan c' es := by
  simp only [run, List.foldlM_cons]
  rfl

/-- A step is a run. -/
theorem run_singleton (c : Calls σ ω ι) (e : CallStep ι) : run plan c [e] = step plan c e := by
  rw [run_cons]
  cases step plan c e with
  | none => rfl
  | some c' => rfl

/-- A run can be cut anywhere. -/
theorem run_append (c : Calls σ ω ι) (es es' : List (CallStep ι)) :
    run plan c (es ++ es') = (run plan c es).bind fun c' ↦ run plan c' es' := by
  simp only [run, List.foldlM_append]
  rfl

/-- What each step keeps, a run keeps. -/
theorem run_induction {P : Calls σ ω ι → Prop}
    (hstep : ∀ {c c' e}, step plan c e = some c' → P c → P c') {es : List (CallStep ι)}
    (h : run plan c es = some c') (hc : P c) : P c' := by
  induction es generalizing c with
  | nil =>
    cases h
    exact hc
  | cons e es ih =>
    rw [run_cons, Option.bind_eq_some_iff] at h
    obtain ⟨d, hd, h⟩ := h
    exact ih h (hstep hd hc)

/-- A call that has ended stays as it is. -/
theorem step_of_ended {e : CallStep ι} {f : Finished} (h : step plan c e = some c')
    (hi : c.progress i = .ended f) : c'.progress i = .ended f := by
  have hne : ∀ {j : ι}, (c.progress j = .waiting ∨ ∃ p, c.progress j = .underWay p) → i ≠ j := by
    rintro j hj rfl
    simp [hi] at hj
  obtain ⟨j, _, -, hj, -, rfl⟩ | ⟨j, -, hj, -, rfl⟩ | ⟨j, p, -, hj, rfl⟩ := step_cases h
  · exact (Function.update_of_ne (hne (.inl hj)) ..).trans hi
  · exact (Function.update_of_ne (hne (.inl hj)) ..).trans hi
  · exact (Function.update_of_ne (hne (.inr ⟨p, hj⟩)) ..).trans hi

private theorem step_of_underWay {e : CallStep ι} {p : Passage} (h : step plan c e = some c')
    (hi : c.progress i = .underWay p) :
    (e = .complete i ∧ c'.progress i = .ended (p.finished (plan i).2)) ∨
      (e ≠ .complete i ∧ c'.progress i = .underWay p) := by
  have hne : ∀ {j : ι}, c.progress j = .waiting → i ≠ j := by
    rintro j hj rfl
    simp [hi] at hj
  obtain ⟨j, _, rfl, hj, -, rfl⟩ | ⟨j, rfl, hj, -, rfl⟩ | ⟨j, q, rfl, hj, rfl⟩ := step_cases h
  · exact .inr ⟨nofun, (Function.update_of_ne (hne hj) ..).trans hi⟩
  · exact .inr ⟨nofun, (Function.update_of_ne (hne hj) ..).trans hi⟩
  · by_cases hij : i = j
    · subst j
      cases hi.symm.trans hj
      exact .inl ⟨rfl, Function.update_self ..⟩
    · refine .inr ⟨?_, (Function.update_of_ne hij ..).trans hi⟩
      intro he
      cases he
      exact hij rfl

/-- At the end of a run, a call that was under way has completed with its own reply, or is still
under way. -/
theorem run_of_underWay {es : List (CallStep ι)} {p : Passage} (h : run plan c es = some c')
    (hi : c.progress i = .underWay p) :
    (.complete i ∈ es → c'.progress i = .ended (p.finished (plan i).2)) ∧
      (.complete i ∉ es → c'.progress i = .underWay p) := by
  induction es generalizing c with
  | nil =>
    cases h
    exact ⟨fun hm ↦ absurd hm List.not_mem_nil, fun _ ↦ hi⟩
  | cons e es ih =>
    rw [run_cons, Option.bind_eq_some_iff] at h
    obtain ⟨d, hd, h⟩ := h
    obtain ⟨rfl, hended⟩ | ⟨hne, hunder⟩ := step_of_underWay hd hi
    · have hlast := run_induction (P := fun d ↦ d.progress i = .ended (p.finished (plan i).2))
        (fun hs hd ↦ step_of_ended hs hd) h hended
      exact ⟨fun _ ↦ hlast, fun hm ↦ absurd List.mem_cons_self hm⟩
    · obtain ⟨hin, hout⟩ := ih h hunder
      constructor
      · intro hm
        exact hin ((List.mem_cons.mp hm).resolve_left (Ne.symm hne))
      · intro hm
        exact hout fun hmem ↦ hm (List.mem_cons_of_mem _ hmem)

private theorem step_start_eq_none (hi : c.progress i ≠ .waiting) :
    step plan c (.start i) = none := by
  cases h : c.progress i with
  | waiting => exact absurd h hi
  | underWay p => simp only [step, h]
  | ended f => simp only [step, h]

private theorem step_complete_eq_none (hi : ∀ p, c.progress i ≠ .underWay p) :
    step plan c (.complete i) = none := by
  cases h : c.progress i with
  | waiting => simp only [step, h]
  | underWay p => exact absurd h (hi p)
  | ended f => simp only [step, h]

private theorem progress_step_complete {j : ι} (h : step plan c (.complete i) = some c')
    (hij : j ≠ i) :
    c'.progress j = c.progress j := by
  obtain ⟨k, _, he, -, -, -⟩ | ⟨k, he, -, -, -⟩ | ⟨k, p, he, -, rfl⟩ := step_cases h
  · cases he
  · cases he
  · cases he
    exact Function.update_of_ne hij ..

/-- No call goes back to its start. -/
theorem started_step {e : CallStep ι} (h : step plan c e = some c')
    (hi : c.progress i ≠ .waiting) : c'.progress i ≠ .waiting := by
  cases hp : c.progress i with
  | waiting => exact absurd hp hi
  | underWay p =>
    obtain ⟨-, hc'⟩ | ⟨-, hc'⟩ := step_of_underWay h hp
    · simp [hc']
    · simp [hc']
  | ended f => simp [step_of_ended h hp]

private theorem step_complete_comm (c : Calls σ ω ι) {i j : ι} (hij : i ≠ j) :
    (step plan c (.complete i)).bind (step plan · (.complete j)) =
      (step plan c (.complete j)).bind (step plan · (.complete i)) := by
  by_cases hi : ∃ p, c.progress i = .underWay p
  · by_cases hj : ∃ q, c.progress j = .underWay q
    · obtain ⟨p, hi⟩ := hi
      obtain ⟨q, hj⟩ := hj
      rw [step_complete hi, step_complete hj, Option.bind_some, Option.bind_some,
        step_complete ((Function.update_of_ne hij.symm ..).trans hj),
        step_complete ((Function.update_of_ne hij ..).trans hi)]
      simp only [Connection.after_comm c.connection]
      rw [Function.update_comm hij]
    · have hnone : step plan c (.complete j) = none := step_complete_eq_none fun q h ↦ hj ⟨q, h⟩
      rw [hnone, Option.bind_none, Option.bind_eq_none_iff]
      intro d hd
      apply step_complete_eq_none
      intro q h
      rw [progress_step_complete hd hij.symm] at h
      exact hj ⟨q, h⟩
  · have hnone : step plan c (.complete i) = none := step_complete_eq_none fun p h ↦ hi ⟨p, h⟩
    rw [hnone, Option.bind_none, eq_comm, Option.bind_eq_none_iff]
    intro d hd
    apply step_complete_eq_none
    intro p h
    rw [progress_step_complete hd hij] at h
    exact hi ⟨p, h⟩

/-- Once all calls have started, steps that follow each other can be swapped. -/
theorem step_comm (hc : ∀ i, c.progress i ≠ .waiting) (e e' : CallStep ι) :
    (step plan c e).bind (step plan · e') = (step plan c e').bind (step plan · e) := by
  have hstart : ∀ i (e : CallStep ι), (step plan c e).bind (step plan · (.start i)) = none := by
    intro i e
    rw [Option.bind_eq_none_iff]
    intro d hd
    exact step_start_eq_none (started_step hd (hc i))
  cases e with
  | start i => rw [hstart, step_start_eq_none (hc i), Option.bind_none]
  | complete i =>
    cases e' with
    | start j => rw [hstart, step_start_eq_none (hc j), Option.bind_none]
    | complete j =>
      by_cases hij : i = j
      · rw [hij]
      · exact step_complete_comm c hij

/-- Once all calls have started, their replies may arrive in any order. -/
theorem run_perm {es es' : List (CallStep ι)} (hp : es.Perm es')
    (hc : ∀ i, c.progress i ≠ .waiting) : run plan c es = run plan c es' := by
  induction hp generalizing c with
  | nil => rfl
  | cons e _ ih =>
    rw [run_cons, run_cons]
    refine Option.bind_congr fun d hd ↦ ih fun i ↦ started_step hd (hc i)
  | swap e e' es =>
    simp only [run_cons]
    rw [← Option.bind_assoc, ← Option.bind_assoc, step_comm hc]
  | trans _ _ ih ih' => exact (ih hc).trans (ih' hc)

end Calls

end CentroidRpc
