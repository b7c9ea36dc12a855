import CentroidRpc.Proofs.CallSteps

/-!
# Calls made at the same time take steps

Making calls at the same time (`Session.concurrently`) is a run of the steps of these calls, so what
is said of all runs holds of it. First the calls start in order, some of them completing at once,
and then the others complete.
-/

namespace CentroidRpc

namespace Calls

variable {σ ω : Type} {plan : Nat → Exchange σ ω × Request} {c c' : Calls σ ω Nat}

/-- Calls have ended as they are told to have, and others are under way as they are told to be. -/
structure Told (plan : Nat → Exchange σ ω × Request) (c : Calls σ ω Nat)
    (ended : List (Nat × Finished)) (pending : List Pending) : Prop where
  ended : ∀ e ∈ ended, c.progress e.1 = .ended e.2
  pending : ∀ p ∈ pending,
    p.request = (plan p.position).2 ∧ c.progress p.position = .underWay p.passage

private theorem told_ended {position : Nat} {f : Finished} (h : c.progress position = .ended f) :
    Told plan c [(position, f)] [] := by
  refine ⟨fun e he ↦ ?_, fun p hp ↦ absurd hp List.not_mem_nil⟩
  rw [List.mem_singleton.1 he]
  exact h

private theorem told_pending {position : Nat} {p : Passage}
    (h : c.progress position = .underWay p) :
    Told plan c [] [⟨position, (plan position).2, p⟩] := by
  refine ⟨fun e he ↦ absurd he List.not_mem_nil, fun q hq ↦ ?_⟩
  rw [List.mem_singleton.1 hq]
  exact ⟨rfl, h⟩

private theorem Told.keep {ended : List (Nat × Finished)} {pending : List Pending}
    (h : Told plan c ended pending)
    (hkeep : ∀ i ∈ ended.map (·.1) ++ pending.map (·.position), c'.progress i = c.progress i) :
    Told plan c' ended pending := by
  constructor
  · intro e he
    rw [hkeep e.1 (List.mem_append_left _ (List.mem_map_of_mem he))]
    exact h.ended e he
  · intro p hp
    rw [hkeep p.position (List.mem_append_right _ (List.mem_map_of_mem hp))]
    exact h.pending p hp

private theorem Told.append {ended ended' : List (Nat × Finished)} {pending pending' : List Pending}
    (h : Told plan c ended pending) (h' : Told plan c ended' pending') :
    Told plan c (ended ++ ended') (pending ++ pending') := by
  constructor
  · intro e he
    exact (List.mem_append.1 he).elim (h.ended e) (h'.ended e)
  · intro p hp
    exact (List.mem_append.1 hp).elim (h.pending p) (h'.pending p)

private theorem run_startAll_head (plan : Nat → Exchange σ ω × Request) {position : Nat}
    (hw : c.progress position = .waiting) :
    ∃ schedule c' ended pending, run plan c schedule = some c' ∧
      (∀ i, i ≠ position → c'.progress i = c.progress i) ∧
      Told plan c' ended pending ∧
      ended.map (·.1) ++ pending.map (·.position) = [position] ∧
      ∀ calls, c.session.startAll position (plan position :: calls) =
        ((ended ++ (c'.session.startAll (position + 1) calls).1.1,
          pending ++ (c'.session.startAll (position + 1) calls).1.2),
          (c'.session.startAll (position + 1) calls).2) := by
  cases ho : c.connection.isOpen with
  | false =>
    have hstep : step plan c (.start position) = some _ := step_start_of_not_open hw ho
    refine ⟨[.start position], _, [(position, .unsent (plan position).2)], [],
      (run_singleton c _).trans hstep, ?_, told_ended (Function.update_self ..), rfl, ?_⟩
    · intro i hi
      exact Function.update_of_ne hi ..
    · intro calls
      simp only [Session.startAll, Session.start_of_not_open ho]
      rfl
  | true =>
    obtain ⟨stub, hstub⟩ := c.connection.isOpen_iff.mp ho
    have hstep : step plan c (.start position) = some _ := step_start_of_open hw hstub
    by_cases hdelay : ((plan position).1 stub (plan position).2 c.session.world).1.delay = 0
    · -- The reply is there at once, so the call completes before the next one starts.
      obtain ⟨d, hd, hprogress, hsession⟩ : ∃ d, step plan c (.start position) = some d ∧
          d.progress = Function.update c.progress position
            (.underWay ((plan position).1 stub (plan position).2 c.session.world).1) ∧
          d.session = ⟨c.session.client,
            ((plan position).1 stub (plan position).2 c.session.world).2⟩ :=
        ⟨_, hstep, rfl, rfl⟩
      have hunder := (congrFun hprogress position).trans (Function.update_self ..)
      have hcomplete : step plan d (.complete position) = some _ := step_complete hunder
      have hrun : run plan c [.start position, .complete position] =
          step plan d (.complete position) := by
        rw [run_cons, hd, Option.bind_some, run_singleton]
      refine ⟨_, _, [(position, _)], [], hrun.trans hcomplete, ?_,
        told_ended (Function.update_self ..), rfl, ?_⟩
      · intro i hi
        refine (Function.update_of_ne hi ..).trans ?_
        rw [hprogress]
        exact Function.update_of_ne hi ..
      · intro calls
        simp only [Session.startAll, Session.start_of_open hstub, if_pos hdelay,
          Session.finish_eq, hsession, connection]
        rfl
    · refine ⟨[.start position], _, [],
        [⟨position, (plan position).2,
          ((plan position).1 stub (plan position).2 c.session.world).1⟩],
        (run_singleton c _).trans hstep, ?_, told_pending (Function.update_self ..), rfl, ?_⟩
      · intro i hi
        exact Function.update_of_ne hi ..
      · intro calls
        simp only [Session.startAll, Session.start_of_open hstub, if_neg hdelay]
        rfl

private theorem run_startAll {position : Nat} (count : Nat)
    (hw : ∀ i, position ≤ i → c.progress i = .waiting) :
    ∃ schedule c' ended pending, run plan c schedule = some c' ∧
      c.session.startAll position ((List.range' position count).map plan) =
        ((ended, pending), c'.session) ∧
      (∀ i, i < position → c'.progress i = c.progress i) ∧
      Told plan c' ended pending ∧
      (ended.map (·.1) ++ pending.map (·.position)).Perm (List.range' position count) := by
  induction count generalizing position c with
  | zero =>
    exact ⟨[], c, [], [], rfl, rfl, fun _ _ ↦ rfl, ⟨fun e he ↦ absurd he List.not_mem_nil,
      fun p hp ↦ absurd hp List.not_mem_nil⟩, .refl _⟩
  | succ count ih =>
    obtain ⟨first, d, ended, pending, hfirst, hothers, htold, hone, hstart⟩ :=
      run_startAll_head plan (hw position (Nat.le_refl _))
    have hd : ∀ i, position + 1 ≤ i → d.progress i = .waiting := by
      intro i hi
      rw [hothers i (by omega)]
      exact hw i (by omega)
    obtain ⟨schedule, c', ended', pending', hrun, hrest, hkeep, htold', hperm⟩ := ih hd
    refine ⟨first ++ schedule, c', ended ++ ended', pending ++ pending', ?_, ?_, ?_, ?_, ?_⟩
    · rw [run_append, hfirst, Option.bind_some, hrun]
    · rw [List.range'_succ, List.map_cons, hstart, hrest]
    · intro i hi
      rw [hkeep i (by omega), hothers i (by omega)]
    · refine (htold.keep ?_).append htold'
      intro i hi
      rw [hone, List.mem_singleton] at hi
      exact hkeep i (by omega)
    · rw [List.perm_iff_count] at hperm ⊢
      intro i
      have hi := hperm i
      have hhead := congrArg (List.count i) hone
      simp only [List.range'_succ, List.map_append, List.count_append, List.count_cons,
        List.count_nil] at hi hhead ⊢
      omega

private theorem run_finishAll {pending : List Pending}
    (hnodup : (pending.map (·.position)).Nodup) (h : Told plan c [] pending) :
    ∃ schedule c' ended, run plan c schedule = some c' ∧
      c.session.finishAll pending = (ended, c'.session) ∧
      (∀ i, i ∉ pending.map (·.position) → c'.progress i = c.progress i) ∧
      Told plan c' ended [] ∧
      ended.map (·.1) = pending.map (·.position) := by
  induction pending generalizing c with
  | nil => exact ⟨[], c, [], rfl, rfl, fun _ _ ↦ rfl, h, rfl⟩
  | cons p pending ih =>
    obtain ⟨hrequest, hunder⟩ := h.pending p List.mem_cons_self
    rw [List.map_cons, List.nodup_cons] at hnodup
    obtain ⟨d, hd, hprogress, hsession⟩ : ∃ d, step plan c (.complete p.position) = some d ∧
        d.progress = Function.update c.progress p.position
          (.ended (p.passage.finished p.request)) ∧
        d.session = (c.session.finish p.request p.passage).2 := by
      rw [hrequest]
      exact ⟨_, step_complete hunder, rfl, rfl⟩
    have hother : ∀ i, i ≠ p.position → d.progress i = c.progress i := by
      intro i hi
      rw [hprogress]
      exact Function.update_of_ne hi ..
    have hmore : Told plan d [] pending := by
      refine Told.keep ⟨h.ended, fun q hq ↦ h.pending q (List.mem_cons_of_mem p hq)⟩ fun i hi ↦ ?_
      apply hother
      rintro rfl
      exact hnodup.1 hi
    obtain ⟨schedule, c', ended, hrun, hrest, hkeep, htold, hpositions⟩ := ih hnodup.2 hmore
    refine ⟨.complete p.position :: schedule, c',
      (p.position, p.passage.finished p.request) :: ended, ?_, ?_, ?_, ?_, ?_⟩
    · rw [run_cons, hd, Option.bind_some, hrun]
    · rw [hsession] at hrest
      simp only [Session.finishAll, hrest]
      rfl
    · intro i hi
      rw [List.map_cons, List.mem_cons, not_or] at hi
      rw [hkeep i hi.2, hother i hi.1]
    · have hlast : c'.progress p.position = .ended (p.passage.finished p.request) := by
        rw [hkeep _ hnodup.1, hprogress]
        exact Function.update_self ..
      exact (told_ended hlast).append htold
    · rw [List.map_cons, List.map_cons, hpositions]

private theorem map_sorted {ended : List (Nat × Finished)} {count : Nat}
    (hperm : (ended.map (·.1)).Perm (List.range count))
    (h : ∀ e ∈ ended, c.progress e.1 = .ended e.2) :
    ((ended.mergeSort fun p q ↦ p.1 ≤ q.1).map (·.2)).map Progress.ended =
      (List.range count).map c.progress := by
  have hsorted : (ended.mergeSort fun p q ↦ p.1 ≤ q.1).Pairwise fun p q ↦ p.1 ≤ q.1 := by
    refine (List.pairwise_mergeSort ?_ ?_ ended).imp ?_
    · intro p q r hpq hqr
      simp only [decide_eq_true_eq] at hpq hqr ⊢
      omega
    · intro p q
      simp only [Bool.or_eq_true, decide_eq_true_eq]
      omega
    · intro p q hpq
      exact of_decide_eq_true hpq
  have hpositions : (ended.mergeSort fun p q ↦ p.1 ≤ q.1).map (·.1) = List.range count := by
    refine List.Perm.eq_of_pairwise (fun i j _ _ hij hji ↦ Nat.le_antisymm hij hji)
      (List.pairwise_map.2 hsorted) List.pairwise_le_range ?_
    exact ((List.mergeSort_perm ended _).map _).trans hperm
  rw [← hpositions, List.map_map, List.map_map]
  apply List.map_congr_left
  intro e he
  exact (h e (List.mem_mergeSort.1 he)).symm

/-- Calls made at the same time are a run of their steps: the session is the one after the run, and
each call has ended with what its caller is told. -/
theorem run_concurrently (plan : Nat → Exchange σ ω × Request) (s : Session σ ω) (count : Nat) :
    ∃ schedule c, run plan (ofSession s) schedule = some c ∧
      c.session = (s.concurrently ((List.range count).map plan)).2 ∧
      (List.range count).map c.progress =
        (s.concurrently ((List.range count).map plan)).1.map Progress.ended := by
  obtain ⟨starts, d, early, pending, hstarts, hstart, -, htold, hperm⟩ :=
    run_startAll (c := ofSession s) count (fun i (_ : 0 ≤ i) ↦ rfl)
  rw [← List.range_eq_range'] at hstart hperm
  have hnodup := hperm.nodup_iff.2 List.nodup_range
  have harrival := List.mergeSort_perm pending fun p q ↦ p.passage.delay ≤ q.passage.delay
  have hpositions := harrival.map (·.position)
  have hpending : Told plan d [] (pending.mergeSort fun p q ↦ p.passage.delay ≤ q.passage.delay) :=
    ⟨fun e he ↦ absurd he List.not_mem_nil,
      fun p hp ↦ htold.pending p (harrival.mem_iff.1 hp)⟩
  obtain ⟨completions, c, late, hcompletions, hfinish, hkeep, hlate, horder⟩ :=
    run_finishAll (hpositions.nodup_iff.2 (List.nodup_append.1 hnodup).2.1) hpending
  -- Only calls under way complete, so those that ended early stay as they are.
  have hearly : Told plan c early [] := by
    refine Told.keep ⟨htold.ended, fun p hp ↦ absurd hp List.not_mem_nil⟩ fun i hi ↦ hkeep i ?_
    intro hmem
    rw [List.map_nil, List.append_nil] at hi
    exact (List.nodup_append.1 hnodup).2.2 i hi i (hpositions.mem_iff.1 hmem) rfl
  have hall : ((early ++ late).map (·.1)).Perm (List.range count) := by
    rw [List.map_append, horder]
    exact (hpositions.append_left _).trans hperm
  have hconcurrently : s.concurrently ((List.range count).map plan) =
      (((early ++ late).mergeSort fun p q ↦ p.1 ≤ q.1).map (·.2), c.session) := by
    have hstart' : s.startAll 0 ((List.range count).map plan) = ((early, pending), d.session) :=
      hstart
    simp only [Session.concurrently, hstart', hfinish]
  refine ⟨starts ++ completions, c, ?_, ?_, ?_⟩
  · rw [run_append, hstarts, Option.bind_some, hcompletions]
  · rw [hconcurrently]
  · rw [hconcurrently]
    exact (map_sorted hall (hearly.append hlate).ended).symm

end Calls

end CentroidRpc
