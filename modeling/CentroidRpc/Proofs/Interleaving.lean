import CentroidRpc.Proofs.CallSteps
import CentroidRpc.Proofs.Outcome

/-!
# What calls made at the same time are told

What a call is told depends on the connection at its start and on its own reply alone. The first
reply that tells of a loss closes the connection for good: how the connection stands to the calls
over it (`Calls.Consistent`) is kept by every step.
-/

namespace CentroidRpc

/-- Whether a call ended with a status that tells of a lost connection. -/
def Finished.Loss (f : Finished) : Prop :=
  ∃ status, f.outcome = .error (.transport status) ∧
    (status.code = .unavailable ∨ status.source ≠ none)

namespace Finished

variable {r : Request} {p : Passage}

/-- What came back for a request is never told as a missing connection. -/
theorem finished_ne_notConnected (p : Passage) (r : Request) :
    (p.finished r).outcome ≠ .error .notConnected := by
  intro h
  change r.conclude (r.response p.reply) = .error .notConnected at h
  cases hr : r.response p.reply with
  | error s =>
    rw [hr] at h
    cases h
  | ok response =>
    rw [hr] at h
    exact (Request.conclude_ne_local h).1 rfl

private theorem loss_finished_iff :
    (p.finished r).Loss ↔ ∃ status, r.response p.reply = .error status ∧ status.isLoss = true := by
  constructor
  · rintro ⟨status, ho, hl⟩
    change r.conclude (r.response p.reply) = .error (.transport status) at ho
    cases hr : r.response p.reply with
    | error s =>
      rw [hr] at ho
      cases ho
      exact ⟨status, rfl, status.isLoss_iff.mpr hl⟩
    | ok response =>
      rw [hr] at ho
      exact absurd rfl ((Request.conclude_ne_local ho).2 status)
  · rintro ⟨status, hr, hl⟩
    refine ⟨status, ?_, status.isLoss_iff.mp hl⟩
    change r.conclude (r.response p.reply) = _
    rw [hr]
    rfl

private theorem not_loss_unsent (r : Request) : ¬ (unsent r).Loss := by
  rintro ⟨status, ho, -⟩
  cases ho

end Finished

namespace Connection

variable {σ : Type} {r : Request} {p : Passage}

/-- A call that tells of a lost connection loses it. -/
theorem after_of_loss (c : Connection σ) (h : (p.finished r).Loss) :
    c.after (r.response p.reply) = c.lose := by
  obtain ⟨status, hr, hl⟩ := Finished.loss_finished_iff.mp h
  rw [hr, after, hl, if_pos rfl]

/-- Every other call leaves it as it is. -/
theorem after_of_not_loss (c : Connection σ) (h : ¬ (p.finished r).Loss) :
    c.after (r.response p.reply) = c := by
  cases hr : r.response p.reply with
  | ok response => rfl
  | error status =>
    have hl : status.isLoss = false := by
      cases hl : status.isLoss with
      | false => rfl
      | true => exact absurd (Finished.loss_finished_iff.mpr ⟨status, hr, hl⟩) h
    simp only [after, hl, Bool.false_eq_true, ite_false]

end Connection

namespace Calls

variable {σ ω ι : Type}

/-- Whether some call ended with a status that tells of a lost connection. -/
def Lost (c : Calls σ ω ι) : Prop := ∃ i f, c.progress i = .ended f ∧ f.Loss

/-- How the connection stands to the calls over it, where `s` is the session before them. -/
structure Consistent (s : Session σ ω) (c : Calls σ ω ι) : Prop where
  kept : ¬ c.Lost → c.connection = s.client.connection
  closed : c.Lost → c.connection = .closed
  opened : c.Lost → s.client.connection.isOpen = true
  underWay : ∀ i p, c.progress i = .underWay p → s.client.connection.isOpen = true

/-- Before the first step the connection is as it was. -/
theorem consistent_ofSession (s : Session σ ω) : Consistent s (ofSession s : Calls σ ω ι) := by
  have hlost : ¬ (ofSession s : Calls σ ω ι).Lost := by
    rintro ⟨i, f, hi, -⟩
    cases hi
  exact ⟨fun _ ↦ rfl, fun h ↦ absurd h hlost, fun h ↦ absurd h hlost, fun i p h ↦ nomatch h⟩

/-- A connection is closed exactly if it was before the calls, or one of them lost it. -/
theorem Consistent.closed_iff {s : Session σ ω} {c : Calls σ ω ι} (hc : Consistent s c) :
    c.connection = .closed ↔ s.client.connection = .closed ∨ c.Lost := by
  by_cases hl : c.Lost
  · exact ⟨fun _ ↦ .inr hl, fun _ ↦ hc.closed hl⟩
  · rw [hc.kept hl]
    exact ⟨.inl, fun h ↦ h.resolve_right hl⟩

variable [DecidableEq ι] {plan : ι → Exchange σ ω × Request} {c c' : Calls σ ω ι} {i : ι}

private theorem lost_update_iff {s : Session σ ω} {pr : Progress}
    (hi : ∀ f, c.progress i ≠ .ended f) :
    Lost (⟨s, Function.update c.progress i pr⟩ : Calls σ ω ι) ↔
      (∃ f, pr = .ended f ∧ f.Loss) ∨ c.Lost := by
  constructor
  · rintro ⟨j, f, hj, hf⟩
    change Function.update c.progress i pr j = _ at hj
    by_cases hij : j = i
    · subst j
      rw [Function.update_self] at hj
      exact .inl ⟨f, hj, hf⟩
    · rw [Function.update_of_ne hij] at hj
      exact .inr ⟨j, f, hj, hf⟩
  · rintro (⟨f, rfl, hf⟩ | ⟨j, f, hj, hf⟩)
    · exact ⟨i, f, Function.update_self .., hf⟩
    · have hji : j ≠ i := by
        rintro rfl
        exact hi f hj
      exact ⟨j, f, (Function.update_of_ne hji ..).trans hj, hf⟩

private theorem consistent_start {s : Session σ ω} {w : ω} {pr : Progress} (hc : Consistent s c)
    (hi : c.progress i = .waiting) (hloss : ∀ f, pr = .ended f → ¬ f.Loss)
    (hunder : ∀ p, pr = .underWay p → c.connection.isOpen = true) :
    Consistent s ⟨⟨c.session.client, w⟩, Function.update c.progress i pr⟩ := by
  have hlost : Lost (⟨⟨c.session.client, w⟩, Function.update c.progress i pr⟩ : Calls σ ω ι) ↔
      c.Lost := by
    rw [lost_update_iff (by simp [hi])]
    exact ⟨fun h ↦ h.resolve_left fun ⟨f, hf, hl⟩ ↦ hloss f hf hl, .inr⟩
  refine ⟨fun h ↦ hc.kept (hlost.not.mp h), fun h ↦ hc.closed (hlost.mp h),
    fun h ↦ hc.opened (hlost.mp h), ?_⟩
  intro j p hj
  change Function.update c.progress i pr j = _ at hj
  by_cases hij : j = i
  · subst j
    rw [Function.update_self] at hj
    by_cases hl : c.Lost
    · exact hc.opened hl
    · rw [← hc.kept hl]
      exact hunder p hj
  · rw [Function.update_of_ne hij] at hj
    exact hc.underWay j p hj

private theorem consistent_complete {s : Session σ ω} {p : Passage} {r : Request}
    (hc : Consistent s c) (hi : c.progress i = .underWay p) :
    Consistent s ⟨⟨⟨c.session.client.config, c.connection.after (r.response p.reply)⟩,
      c.session.world⟩, Function.update c.progress i (.ended (p.finished r))⟩ := by
  have hopen := hc.underWay i p hi
  have hlost : ∀ t : Session σ ω,
      Lost (⟨t, Function.update c.progress i (.ended (p.finished r))⟩ : Calls σ ω ι) ↔
        (p.finished r).Loss ∨ c.Lost := by
    intro t
    rw [lost_update_iff (by simp [hi])]
    simp
  have hunder : ∀ j q,
      Function.update c.progress i (.ended (p.finished r)) j = .underWay q →
        s.client.connection.isOpen = true := fun _ _ _ ↦ hopen
  refine ⟨?_, ?_, fun _ ↦ hopen, hunder⟩
  · intro h
    rw [hlost, not_or] at h
    exact (Connection.after_of_not_loss _ h.1).trans (hc.kept h.2)
  · intro h
    rw [hlost] at h
    change c.connection.after (r.response p.reply) = .closed
    by_cases hl : c.Lost
    · rw [hc.closed hl]
      exact Connection.after_closed _
    · rw [Connection.after_of_loss _ (h.resolve_right hl), hc.kept hl]
      obtain ⟨stub, hs⟩ := (Connection.isOpen_iff _).mp hopen
      rw [hs]
      rfl

/-- Every step keeps the connection consistent with the calls. -/
theorem Consistent.step {s : Session σ ω} {e : CallStep ι} (hc : Consistent s c)
    (h : step plan c e = some c') : Consistent s c' := by
  obtain ⟨i, stub, -, hi, ho, rfl⟩ | ⟨i, -, hi, -, rfl⟩ | ⟨i, p, -, hi, rfl⟩ := step_cases h
  · refine consistent_start hc hi ?_ ?_
    · intro f hf
      cases hf
    · intro p _
      rw [ho]
      rfl
  · refine consistent_start hc hi ?_ ?_
    · intro f hf
      cases hf
      exact Finished.not_loss_unsent _
    · intro p hp
      cases hp
  · exact consistent_complete hc hi

/-- A loss is not undone. -/
theorem lost_step {e : CallStep ι} (h : step plan c e = some c') (hl : c.Lost) : c'.Lost := by
  obtain ⟨i, f, hi, hf⟩ := hl
  exact ⟨i, f, step_of_ended h hi, hf⟩

private theorem run_of_start_open {b : Calls σ ω ι} {es : List (CallStep ι)} {stub : σ}
    (hb : b.connection = .opened stub) (h : run plan b (.start i :: es) = some c) :
    ∃ passage world, (plan i).1 stub (plan i).2 b.session.world = (passage, world) ∧
      (passage.finished (plan i).2).outcome ≠ .error .notConnected ∧
      (.complete i ∈ es → c.progress i = .ended (passage.finished (plan i).2)) ∧
      (.complete i ∉ es → c.progress i = .underWay passage) := by
  rw [run_cons, Option.bind_eq_some_iff] at h
  obtain ⟨d, hd, hrun⟩ := h
  refine ⟨_, _, rfl, Finished.finished_ne_notConnected _ _, ?_⟩
  obtain ⟨j, stub', he, -, hstub, rfl⟩ | ⟨j, he, -, hopen, -⟩ | ⟨j, p, he, -, -⟩ := step_cases hd
  · cases he
    cases hb.symm.trans hstub
    exact run_of_underWay hrun (Function.update_self ..)
  · rw [hb] at hopen
    cases hopen
  · cases he

private theorem run_of_start_not_open {b : Calls σ ω ι} {es : List (CallStep ι)}
    (hb : b.connection.isOpen = false) (h : run plan b (.start i :: es) = some c) :
    (step plan b (.start i)).map (·.session) = some b.session ∧
      c.progress i = .ended (.unsent (plan i).2) := by
  rw [run_cons, Option.bind_eq_some_iff] at h
  obtain ⟨d, hd, hrun⟩ := h
  obtain ⟨j, stub, he, -, hstub, -⟩ | ⟨j, he, -, -, rfl⟩ | ⟨j, p, he, -, -⟩ := step_cases hd
  · rw [hstub] at hb
    cases hb
  · cases he
    rw [hd]
    exact ⟨rfl, run_induction (P := fun d ↦ d.progress i = .ended (.unsent (plan i).2))
      (fun hs hd ↦ step_of_ended hs hd) hrun (Function.update_self ..)⟩
  · cases he

/-- A run keeps the connection consistent with the calls. -/
theorem consistent_run {s : Session σ ω} {es : List (CallStep ι)}
    (h : run plan (ofSession s) es = some c) : Consistent s c :=
  run_induction (P := Consistent s) (fun hs hd ↦ hd.step hs) h (consistent_ofSession s)

/-- Calls that start and complete in any order: each is told what its own reply says if the
connection is open at its start, and that there is no connection otherwise; the first loss closes
the connection for good; and once all calls have started, the order of their replies is of no
account. -/
theorem interleaved_calls {s : Session σ ω} {schedule : List (CallStep ι)}
    (h : run plan (ofSession s) schedule = some c) :
    (∀ before i after b, schedule = before ++ .start i :: after →
      run plan (ofSession s) before = some b →
      (∀ stub, b.connection = .opened stub →
        ∃ passage world, (plan i).1 stub (plan i).2 b.session.world = (passage, world) ∧
          (passage.finished (plan i).2).outcome ≠ .error .notConnected ∧
          (.complete i ∈ after → c.progress i = .ended (passage.finished (plan i).2)) ∧
          (.complete i ∉ after → c.progress i = .underWay passage)) ∧
      (b.connection.isOpen = false →
        (step plan b (.start i)).map (·.session) = some b.session ∧
        c.progress i = .ended (.unsent (plan i).2))) ∧
    (∀ before after b, schedule = before ++ after → run plan (ofSession s) before = some b →
      (¬ b.Lost → b.connection = s.client.connection) ∧
      (b.Lost → s.client.connection.isOpen = true ∧ b.connection = .closed ∧ c.Lost)) ∧
    (c.connection = .closed ↔ s.client.connection = .closed ∨ c.Lost) ∧
    ((∀ i, c.progress i ≠ .waiting) →
      ∀ es es' : List (CallStep ι), es.Perm es' → run plan c es = run plan c es') := by
  refine ⟨?_, ?_, (consistent_run h).closed_iff, fun hc es es' hp ↦ run_perm hp hc⟩
  · rintro before i after b rfl hb
    rw [run_append, hb, Option.bind_some] at h
    exact ⟨fun stub hstub ↦ run_of_start_open hstub h, fun hopen ↦ run_of_start_not_open hopen h⟩
  · rintro before after b rfl hb
    rw [run_append, hb, Option.bind_some] at h
    have hc := consistent_run hb
    exact ⟨hc.kept, fun hl ↦ ⟨hc.opened hl, hc.closed hl,
      run_induction (P := Lost) (fun hs hd ↦ lost_step hs hd) h hl⟩⟩

/-- Three calls: the first one loses the connection, the second one has started by then, and the
third one starts after that. The other side counts the requests that reach it. -/
def threeCalls : Fin 3 → Exchange Unit Nat × Request
  | 0 => (fun _ _ n ↦ (⟨true, .error ⟨.unknown, "reset", some "reset"⟩, 1⟩, n + 1), .ping)
  | 1 => (fun _ _ n ↦ (⟨true, .error (.plain .unimplemented "ping"), 1⟩, n + 1), .ping)
  | 2 => (fun _ _ n ↦ (⟨true, .ok [], 1⟩, n + 1), .ping)

/-- The second call hears of its own reply, and the third one of no connection. -/
theorem interleaved_calls_after_loss :
    ∃ c, run threeCalls (ofSession ⟨.ofStub (), 0⟩)
        [.start 0, .start 1, .complete 0, .start 2, .complete 1] = some c ∧
      c.connection = .closed ∧
      c.progress 1 = .ended ⟨.ping, true, .error (.transport (.plain .unimplemented "ping"))⟩ ∧
      c.progress 2 = .ended (.unsent .ping) ∧
      c.session.world = 2 := by
  refine ⟨_, rfl, ?_⟩
  have hrun : run threeCalls (ofSession ⟨.ofStub (), 0⟩)
      [.start 0, .start 1, .complete 0, .start 2, .complete 1] = some _ := rfl
  obtain ⟨hcalls, -, hclosed, -⟩ := interleaved_calls hrun
  have hopen := (hcalls [.start 0] 1 [.complete 0, .start 2, .complete 1] _ rfl rfl).1 () rfl
  have hnone := (hcalls [.start 0, .start 1, .complete 0] 2 [.complete 1] _ rfl rfl).2 rfl
  obtain ⟨passage, world, hx, -, hended, -⟩ := hopen
  cases hx
  refine ⟨hclosed.mpr (.inr ⟨0, _, rfl, _, rfl, .inr nofun⟩), ?_, hnone.2, rfl⟩
  exact hended (by simp)

end Calls

end CentroidRpc
