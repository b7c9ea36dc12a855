import CentroidRpc.Proofs.Store.Change
import Mathlib.Data.List.Basic

/-!
# What is left of a history

What holds of a store now often goes back to one request in the past that no later one has undone
(`Store.Since`). With every further request, either that one did it, or it was done before and is
not undone by the last one (`Store.since_concat`).
-/

namespace CentroidRpc

namespace Store

variable {α : Type} [Weight α]

/-- Among some requests there is one that did something, and none after it has undone that. Both are
said of the request and of the store to which it came. -/
def Since (event undoing : Store α → Request → Prop) (rs : List Request) : Prop :=
  ∃ before r after, rs = before ++ r :: after ∧ event (empty.run before) r ∧
    ∀ between r' rest, after = between ++ r' :: rest →
      ¬ undoing (empty.run (before ++ r :: between)) r'

/-- One more request is asked of the store that the ones before have left. -/
theorem run_concat (s : Store α) (rs : List Request) (r : Request) :
    s.run (rs ++ [r]) = ((s.run rs).answer r).2 := by
  rw [run, List.foldl_append]
  rfl

private theorem concat_eq_split {rs before after : List Request} {r r' : Request} :
    rs ++ [r] = before ++ r' :: after ↔
      (rs = before ∧ r = r' ∧ after = []) ∨
        ∃ rest, after = rest ++ [r] ∧ rs = before ++ r' :: rest := by
  constructor
  · intro h
    rcases List.eq_nil_or_concat' after with rfl | ⟨rest, last, rfl⟩
    · obtain ⟨hrs, hr⟩ := List.append_inj' h rfl
      exact .inl ⟨hrs, (List.cons.inj hr).1, rfl⟩
    · rw [← List.cons_append, ← List.append_assoc] at h
      obtain ⟨hrs, hr⟩ := List.append_inj' h rfl
      exact .inr ⟨rest, by rw [(List.cons.inj hr).1], hrs⟩
  · rintro (⟨rfl, rfl, rfl⟩ | ⟨rest, rfl, rfl⟩)
    · rfl
    · exact List.append_assoc ..

/-- Nothing was done before the first request. -/
theorem not_since_nil {event undoing : Store α → Request → Prop} : ¬ Since event undoing [] := by
  rintro ⟨before, r, after, hsplit, -⟩
  exact List.append_ne_nil_of_right_ne_nil before (List.cons_ne_nil r after) hsplit.symm

/-- What was done is not undone by requests that never undo it. -/
theorem since_of_forall {event undoing : Store α → Request → Prop} {before after : List Request}
    {r : Request} (hevent : event (empty.run before) r)
    (hafter : ∀ r' ∈ after, ∀ s, ¬ undoing s r') : Since event undoing (before ++ r :: after) := by
  refine ⟨before, r, after, rfl, hevent, ?_⟩
  rintro between r' rest rfl
  exact hafter r' (List.mem_append_right between List.mem_cons_self) _

/-- After one more request, either that one did it, or one before did and the last one does not undo
it. -/
theorem since_concat {event undoing : Store α → Request → Prop} {rs : List Request} {r : Request} :
    Since event undoing (rs ++ [r]) ↔
      event (empty.run rs) r ∨ Since event undoing rs ∧ ¬ undoing (empty.run rs) r := by
  constructor
  · rintro ⟨before, r₀, after, hsplit, hevent, hlater⟩
    rcases concat_eq_split.1 hsplit with ⟨rfl, rfl, rfl⟩ | ⟨after, rfl, rfl⟩
    · exact .inl hevent
    · refine .inr ⟨⟨before, r₀, after, rfl, hevent, ?_⟩, hlater after r [] rfl⟩
      rintro between r' rest rfl
      exact hlater between r' (rest ++ [r]) (List.append_assoc ..)
  · rintro (hevent | ⟨⟨before, r₀, after, rfl, hevent, hlater⟩, hundoing⟩)
    · refine ⟨rs, r, [], rfl, hevent, fun between r' rest hsplit ↦ ?_⟩
      have hne : between ++ r' :: rest ≠ [] :=
        List.append_ne_nil_of_right_ne_nil between (List.cons_ne_nil r' rest)
      exact absurd hsplit.symm hne
    · refine ⟨before, r₀, after ++ [r], List.append_assoc .., hevent, ?_⟩
      intro between r' rest hsplit
      rcases concat_eq_split.1 hsplit with ⟨rfl, rfl, rfl⟩ | ⟨rest, rfl, rfl⟩
      · exact hundoing
      · exact hlater between r' rest rfl

end Store

end CentroidRpc
