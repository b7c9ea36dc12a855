import CentroidRpc.Proofs.Store.Integrity

/-!
# The words of a vector

Which words have a weight in a vector does not depend on how numbers are added and scaled: in the
vector of a text these are its words, and in that of a centroid those of its members.
-/

namespace CentroidRpc

variable {α : Type} [Weight α]

namespace TermVector

private theorem mem_keys_addAt {v : TermVector α} {word k : String} {w : α} :
    k ∈ (v.addAt word w).keys ↔ k = word ∨ k ∈ v.keys := by
  rw [Dict.mem_keys_iff, Dict.mem_keys_iff, addAt, Dict.contains_insert, Bool.or_eq_true,
    beq_iff_eq]

private theorem mem_keys_add {v w : TermVector α} {k : String} :
    k ∈ (v.add w).keys ↔ k ∈ v.keys ∨ k ∈ w.keys := by
  suffices hsum : ∀ (es : List (String × α)) (v : TermVector α),
      k ∈ (es.foldl (fun sum e ↦ sum.addAt e.1 e.2) v).keys ↔ k ∈ v.keys ∨ k ∈ es.map (·.1) from
    hsum w.entries v
  intro es
  induction es with
  | nil => exact fun v ↦ (or_iff_left List.not_mem_nil).symm
  | cons e es ih =>
    intro v
    rw [List.foldl_cons, ih, mem_keys_addAt, List.map_cons, List.mem_cons, or_assoc, or_left_comm]

/-- The words of the sum of some vectors are those of each of them. -/
theorem mem_keys_sum {vs : List (TermVector α)} {k : String} :
    k ∈ (sum vs).keys ↔ ∃ v ∈ vs, k ∈ v.keys := by
  suffices hsum : ∀ v : TermVector α,
      k ∈ (vs.foldl add v).keys ↔ k ∈ v.keys ∨ ∃ w ∈ vs, k ∈ w.keys from
    (hsum .empty).trans (or_iff_right List.not_mem_nil)
  induction vs with
  | nil => simp
  | cons w vs ih =>
    intro v
    rw [List.foldl_cons, ih, mem_keys_add, or_assoc]
    simp only [List.mem_cons, exists_eq_or_imp]

private theorem keys_normalized (v : TermVector α) : v.normalized.keys = v.keys := by
  unfold normalized
  dsimp only
  split
  · exact Dict.keys_map v _
  · rfl

/-- There is nothing to scale in an empty vector. -/
@[simp] theorem normalized_empty : normalized (Dict.empty : TermVector α) = .empty :=
  ite_self _

private theorem mem_keys_counts {words : List String} {k : String} :
    k ∈ (counts words : TermVector α).keys ↔ k ∈ words := by
  suffices hcounts : ∀ v : TermVector α,
      k ∈ (words.foldl (fun v word ↦ v.addAt word Weight.one) v).keys ↔ k ∈ words ∨ k ∈ v.keys from
    (hcounts .empty).trans (or_iff_left List.not_mem_nil)
  induction words with
  | nil => exact fun v ↦ (or_iff_right List.not_mem_nil).symm
  | cons word words ih =>
    intro v
    rw [List.foldl_cons, ih, mem_keys_addAt, List.mem_cons, or_left_comm, or_assoc]

/-- The words of the vector of a text are those of the text. -/
theorem mem_keys_ofText {text k : String} :
    k ∈ (ofText text : TermVector α).keys ↔ k ∈ wordsOf text := by
  rw [ofText, keys_normalized, mem_keys_counts]

end TermVector

namespace Store

/-- The words of a joined centroid are those of its members. -/
theorem mem_keys_joinedVector {s : Store α} {ds : List String} {k : String} :
    k ∈ (s.joinedVector ds).keys ↔
      ∃ d ∈ ds, ∃ document, s.contents.get? d = some document ∧ k ∈ document.vector.keys := by
  rw [joinedVector_eq, TermVector.keys_normalized, TermVector.mem_keys_sum]
  simp only [List.mem_map, List.mem_filterMap]
  constructor
  · rintro ⟨_, ⟨document, ⟨d, hd, hget⟩, rfl⟩, hk⟩
    exact ⟨d, hd, document, hget, hk⟩
  · rintro ⟨d, hd, document, hget, hk⟩
    exact ⟨_, ⟨document, ⟨d, hd, hget⟩, rfl⟩, hk⟩

end Store

end CentroidRpc
