import Mathlib.Algebra.BigOperators.Field
import Mathlib.Analysis.Real.Sqrt
import CentroidRpc.Proofs.Store.Words

/-!
# Vectors of real weights

Over the real numbers the product of two vectors does not depend on their order, and it is at most
the product of their lengths, as Cauchy and Schwarz have it (`TermVector.dot_le_norm_mul_norm`). So
two vectors of positive weights that are scaled to length one have a product between zero and one
(`TermVector.Normal.dot_le_one`).
-/

namespace CentroidRpc

noncomputable instance : Weight ℝ where
  zero := 0
  one := 1
  sqrt := Real.sqrt
  isPositive x := decide (0 < x)

namespace TermVector

section Lookup

variable {α : Type} [Weight α]

/-- What is found after more weight was put on a word. -/
theorem get?_addAt (v : TermVector α) (word k : String) (x : α) :
    (v.addAt word x).get? k = if k = word then some (v.weight k + x) else v.get? k := by
  rw [addAt, Dict.get?_insert]
  by_cases hk : k = word
  · rw [if_pos hk, if_pos hk, hk]
  · rw [if_neg hk, if_neg hk]

/-- A word of the second vector has the sum of both weights, and any other that of the first. -/
theorem get?_add (v w : TermVector α) (k : String) :
    (v.add w).get? k = ((w.get? k).map (v.weight k + ·)).or (v.get? k) := by
  suffices hsum : ∀ (es : List (String × α)), (es.map (·.1)).Nodup → ∀ v : TermVector α,
      (es.foldl (fun sum e ↦ sum.addAt e.1 e.2) v).get? k =
        ((Dict.seek k es).map (v.weight k + ·)).or (v.get? k) from
    hsum w.entries w.nodup_keys v
  intro es hes
  induction es with
  | nil => exact fun v ↦ rfl
  | cons e es ih =>
    intro v
    rw [List.map_cons, List.nodup_cons] at hes
    rw [List.foldl_cons, ih hes.2, get?_addAt, Dict.seek]
    by_cases hk : e.1 = k
    -- The keys are apart, so the rest of the entries has nothing to add to this word.
    · rw [if_pos hk, if_pos hk.symm, Dict.seek_eq_none (hk ▸ hes.1)]
      rfl
    · rw [if_neg hk, if_neg (Ne.symm hk), weight, get?_addAt, if_neg (Ne.symm hk), weight]

end Lookup

variable {v w : TermVector ℝ}

/-- The sum from the first number on is the sum. -/
theorem total_eq_sum (l : List ℝ) : total l = l.sum :=
  List.sum_eq_foldl.symm

private theorem weight_of_mem {e : String × ℝ} (h : e ∈ v.entries) : v.weight e.1 = e.2 := by
  have hget : v.get? e.1 = some e.2 := (Dict.seek_eq_some_iff v.sorted).2 h
  rw [weight, hget, Option.getD_some]

private theorem weight_of_not_mem {k : String} (h : k ∉ v.keys) : v.weight k = 0 := by
  have hnone : v.get? k = none := Dict.seek_eq_none h
  rw [weight, hnone]
  rfl

private theorem sum_entries (v : TermVector ℝ) (f : String → ℝ → ℝ) :
    (v.entries.map fun e ↦ f e.1 e.2).sum = ∑ k ∈ v.keys.toFinset, f k (v.weight k) := by
  have hkeys : v.entries.map (fun e ↦ f e.1 e.2) = v.keys.map fun k ↦ f k (v.weight k) := by
    rw [Dict.keys, List.map_map]
    apply List.map_congr_left
    intro e he
    rw [Function.comp_apply, weight_of_mem he]
  rw [hkeys]
  -- No key occurs twice, so nothing is lost when the keys become a set.
  exact (List.sum_toFinset _ v.nodup_keys).symm

/-- The product of two vectors is the sum of the products over the words of the first one. -/
theorem dot_eq_sum (v w : TermVector ℝ) :
    v.dot w = ∑ k ∈ v.keys.toFinset, v.weight k * w.weight k := by
  rw [← sum_entries v fun k x ↦ x * w.weight k, dot, total_eq_sum]
  induction v.entries with
  | nil => rfl
  | cons e es ih =>
    rw [List.map_cons, List.sum_cons, ← ih, List.filterMap_cons, weight]
    cases w.get? e.1 with
    | none => exact (add_eq_right.2 (mul_zero e.2)).symm
    | some x => exact List.sum_cons

private theorem dot_eq_sum_of_subset (w : TermVector ℝ) {ks : Finset String}
    (h : v.keys.toFinset ⊆ ks) :
    v.dot w = ∑ k ∈ ks, v.weight k * w.weight k := by
  rw [dot_eq_sum]
  apply Finset.sum_subset h
  intro k _ hk
  rw [weight_of_not_mem fun hmem ↦ hk (List.mem_toFinset.2 hmem), zero_mul]

private theorem dot_eq_sum_union (v w : TermVector ℝ) :
    v.dot w = ∑ k ∈ v.keys.toFinset ∪ w.keys.toFinset, v.weight k * w.weight k :=
  dot_eq_sum_of_subset w Finset.subset_union_left

/-- The product does not depend on the order of the vectors. -/
theorem dot_comm (v w : TermVector ℝ) : v.dot w = w.dot v := by
  rw [dot_eq_sum_union, dot_eq_sum_union w, Finset.union_comm]
  exact Finset.sum_congr rfl fun k _ ↦ mul_comm ..

private theorem sum_squares (v : TermVector ℝ) : (v.values.map fun x ↦ x * x).sum = v.dot v := by
  rw [dot_eq_sum, ← sum_entries v fun _ x ↦ x * x, Dict.values, List.map_map]
  rfl

private theorem norm_eq_sqrt (v : TermVector ℝ) : v.norm = Real.sqrt (v.dot v) := by
  rw [← sum_squares, ← total_eq_sum]
  rfl

/-- The length of a vector does not depend on the order in which its entries are met. -/
theorem norm_order (v : TermVector ℝ) (order : EntryOrder ℝ) : v.norm order = v.norm := by
  have hperm := ((order.perm v).map (·.2)).map fun x : ℝ ↦ x * x
  show Real.sqrt (total _) = Real.sqrt (total _)
  rw [total_eq_sum, total_eq_sum]
  exact congrArg Real.sqrt hperm.sum_eq

/-- Nor does the scaled vector. -/
theorem normalized_order (v : TermVector ℝ) (order : EntryOrder ℝ) :
    v.normalized order = v.normalized := by
  unfold normalized
  rw [norm_order]

/-- The length of a vector is the root of the sum of its squares, and words without weight may be
summed over. -/
theorem norm_eq_sqrt_sum {ks : Finset String} (h : v.keys.toFinset ⊆ ks) :
    v.norm = Real.sqrt (∑ k ∈ ks, v.weight k * v.weight k) := by
  rw [norm_eq_sqrt, dot_eq_sum_of_subset v h]

/-- The product of two vectors is at most that of their lengths. -/
theorem dot_le_norm_mul_norm (v w : TermVector ℝ) : v.dot w ≤ v.norm * w.norm := by
  rw [dot_eq_sum_union, norm_eq_sqrt_sum Finset.subset_union_left,
    norm_eq_sqrt_sum Finset.subset_union_right]
  simpa only [sq] using Real.sum_mul_le_sqrt_mul_sqrt _ v.weight w.weight

/-- A vector that is added to the empty one stays as it is. -/
theorem empty_add (v : TermVector ℝ) : add .empty v = v := by
  apply Dict.ext_get?
  intro k
  rw [get?_add, Dict.get?_empty, Option.or_none]
  cases v.get? k with
  | none => rfl
  | some x => exact congrArg some (zero_add x)

/-- If all weights are divided by a number, the product of a vector with itself is so twice. -/
theorem dot_map_div (v : TermVector ℝ) (c : ℝ) :
    TermVector.dot (v.map (· / c)) (v.map (· / c)) = v.dot v / (c * c) := by
  have hweight (k : String) : weight (v.map (· / c)) k = v.weight k / c := by
    rw [weight, Dict.get?_map, weight]
    cases v.get? k with
    | none => exact (zero_div c).symm
    | some x => rfl
  rw [dot_eq_sum, dot_eq_sum, Dict.keys_map, Finset.sum_div]
  apply Finset.sum_congr rfl
  intro k _
  rw [hweight, div_mul_div_comm]

/-- A vector all of whose weights are greater than zero. -/
def Positive (v : TermVector ℝ) : Prop := ∀ x ∈ v.values, 0 < x

/-- The weight of every word that has one is greater than zero. -/
theorem positive_iff : v.Positive ↔ ∀ k x, v.get? k = some x → 0 < x := by
  simp only [Positive, Dict.mem_values_iff, forall_exists_index]
  exact forall_comm

private theorem positive_empty : Positive .empty := fun _ hx ↦ absurd hx List.not_mem_nil

private theorem Positive.weight_nonneg (h : v.Positive) (k : String) : 0 ≤ v.weight k := by
  unfold weight
  cases hk : v.get? k with
  | none => exact le_refl 0
  | some x => exact (positive_iff.1 h k x hk).le

private theorem Positive.addAt (h : v.Positive) (word : String) {x : ℝ} (hx : 0 < x) :
    (v.addAt word x).Positive := by
  rw [positive_iff] at h ⊢
  intro k y hy
  rw [get?_addAt] at hy
  split at hy
  · cases hy
    exact add_pos_of_nonneg_of_pos ((positive_iff.2 h).weight_nonneg k) hx
  · exact h k y hy

private theorem Positive.add (h : v.Positive) (hw : w.Positive) : (v.add w).Positive := by
  rw [positive_iff]
  intro k y hy
  rw [get?_add] at hy
  cases hk : w.get? k with
  | none =>
    rw [hk] at hy
    exact positive_iff.1 h k y hy
  | some x =>
    rw [hk] at hy
    cases hy
    exact add_pos_of_nonneg_of_pos (h.weight_nonneg k) (positive_iff.1 hw k x hk)

/-- So has the sum of any number of them. -/
theorem positive_sum {vs : List (TermVector ℝ)} (h : ∀ v ∈ vs, v.Positive) : (sum vs).Positive := by
  suffices hsum : ∀ v : TermVector ℝ, v.Positive → (vs.foldl TermVector.add v).Positive from
    hsum .empty positive_empty
  induction vs with
  | nil => exact fun v hv ↦ hv
  | cons w vs ih =>
    obtain ⟨hw, hvs⟩ := List.forall_mem_cons.1 h
    exact fun v hv ↦ ih hvs _ (hv.add hw)

/-- A word that occurs occurs more than zero times. -/
theorem positive_counts (words : List String) : (counts words).Positive := by
  suffices hcounts : ∀ v : TermVector ℝ, v.Positive →
      (words.foldl (fun v word ↦ v.addAt word Weight.one) v).Positive from
    hcounts .empty positive_empty
  induction words with
  | nil => exact fun v hv ↦ hv
  | cons word words ih => exact fun v hv ↦ ih _ (hv.addAt word zero_lt_one)

/-- A vector with words has a product with itself that is greater than zero. -/
theorem Positive.dot_self_pos (h : v.Positive) (hne : v ≠ .empty) : 0 < v.dot v := by
  rw [dot_eq_sum]
  apply Finset.sum_pos
  · intro k hk
    obtain ⟨x, hx⟩ := Option.isSome_iff_exists.1 (Dict.mem_keys_iff.1 (List.mem_toFinset.1 hk))
    have hpos : 0 < v.weight k := by
      rw [weight, hx, Option.getD_some]
      exact positive_iff.1 h k x hx
    exact mul_pos hpos hpos
  · rw [List.toFinset_nonempty_iff]
    exact mt Dict.keys_eq_nil_iff.1 hne

/-- A vector of positive weights that is either empty or of length one. -/
structure Normal (v : TermVector ℝ) : Prop where
  positive : v.Positive
  length : v = .empty ∨ Real.sqrt (v.values.map fun x ↦ x * x).sum = 1

/-- A vector without words is scaled already. -/
theorem normal_empty : Normal .empty := ⟨positive_empty, .inl rfl⟩

/-- Scaling brings positive weights to length one, if there are any. -/
theorem Positive.normal_normalized (h : v.Positive) : v.normalized.Normal := by
  by_cases hne : v = .empty
  · rw [hne, normalized_empty]
    exact normal_empty
  · have hdot := h.dot_self_pos hne
    have hnorm : 0 < v.norm := norm_eq_sqrt v ▸ Real.sqrt_pos.2 hdot
    have hscaled : v.normalized = v.map (· / v.norm) := if_pos (decide_eq_true hnorm)
    have hsquare : v.norm * v.norm = v.dot v := by
      rw [norm_eq_sqrt]
      exact Real.mul_self_sqrt hdot.le
    rw [hscaled]
    constructor
    · rw [positive_iff] at h ⊢
      intro k x hx
      rw [Dict.get?_map, Option.map_eq_some_iff] at hx
      obtain ⟨y, hy, rfl⟩ := hx
      exact div_pos (h k y hy) hnorm
    · rw [sum_squares, dot_map_div, hsquare, div_self hdot.ne', Real.sqrt_one]
      exact .inr rfl

/-- The vector of a text is scaled. -/
theorem normal_ofText (text : String) : Normal (ofText text) :=
  (positive_counts (wordsOf text)).normal_normalized

/-- The vector of a text with words is not empty. -/
theorem ofText_ne_empty {text : String} (h : wordsOf text ≠ []) :
    (ofText text : TermVector ℝ) ≠ .empty := by
  obtain ⟨word, hword⟩ := List.exists_mem_of_ne_nil _ h
  intro hempty
  have hkey : word ∈ (ofText text : TermVector ℝ).keys := mem_keys_ofText.2 hword
  rw [hempty] at hkey
  exact absurd hkey List.not_mem_nil

namespace Normal

/-- The product of a scaled vector with itself is one, if it has words. -/
theorem dot_self (h : v.Normal) (hne : v ≠ .empty) : v.dot v = 1 := by
  rw [← sum_squares]
  exact Real.sqrt_eq_one.1 (h.length.resolve_left hne)

/-- A scaled vector is scaled to itself. -/
theorem normalized_eq_self (h : v.Normal) : v.normalized = v := by
  by_cases hne : v = .empty
  · rw [hne, normalized_empty]
  · have hnorm : v.norm = 1 := by rw [norm_eq_sqrt, h.dot_self hne, Real.sqrt_one]
    unfold normalized
    dsimp only
    rw [hnorm]
    split
    · apply Dict.ext_get?
      intro k
      simp only [Dict.get?_map, div_one, Option.map_id']
    · rfl

/-- No scaled vector is longer than one. -/
theorem norm_le_one (h : v.Normal) : v.norm ≤ 1 := by
  rw [norm_eq_sqrt, ← sum_squares]
  rcases h.length with rfl | hlength
  · exact Real.sqrt_le_one.2 zero_le_one
  · exact hlength.le

/-- The product of two scaled vectors is not less than zero. -/
theorem dot_nonneg (h : v.Normal) (hw : w.Normal) : 0 ≤ v.dot w := by
  rw [dot_eq_sum]
  exact Finset.sum_nonneg fun k _ ↦
    mul_nonneg (h.positive.weight_nonneg k) (hw.positive.weight_nonneg k)

/-- The product of two scaled vectors is not greater than one. -/
theorem dot_le_one (h : v.Normal) (hw : w.Normal) : v.dot w ≤ 1 := by
  have hroot : 0 ≤ w.norm := norm_eq_sqrt w ▸ Real.sqrt_nonneg _
  calc
    v.dot w ≤ v.norm * w.norm := dot_le_norm_mul_norm v w
    _ ≤ 1 := mul_le_one₀ h.norm_le_one hroot hw.norm_le_one

end Normal

end TermVector

end CentroidRpc
