import CentroidRpc.Dict

/-!
# Laws of dictionaries

What its keys are, and how the entries of one dictionary are put over those of another: entries with
keys that are all apart may be inserted in any order, and what is found afterwards is the inserted
value of a key, or else the one from before (`get?_override`).
-/

namespace CentroidRpc

namespace Dict

universe u v

variable {α : Type u}

/-- The keys are what has a value. -/
theorem mem_keys_iff {d : Dict α} {k : String} : k ∈ d.keys ↔ d.contains k = true := by
  rw [contains, Option.isSome_iff_exists, keys, List.mem_map]
  constructor
  · rintro ⟨⟨k, v⟩, he, rfl⟩
    exact ⟨v, (seek_eq_some_iff d.sorted).2 he⟩
  · rintro ⟨v, hv⟩
    exact ⟨(k, v), (seek_eq_some_iff d.sorted).1 hv, rfl⟩

/-- The values are what some key has. -/
theorem mem_values_iff {d : Dict α} {v : α} : v ∈ d.values ↔ ∃ k, d.get? k = some v := by
  rw [values, List.mem_map]
  constructor
  · rintro ⟨⟨k, v⟩, he, rfl⟩
    exact ⟨k, (seek_eq_some_iff d.sorted).2 he⟩
  · rintro ⟨k, hk⟩
    exact ⟨(k, v), (seek_eq_some_iff d.sorted).1 hk, rfl⟩

/-- A dictionary without keys is empty. -/
theorem keys_eq_nil_iff {d : Dict α} : d.keys = [] ↔ d = empty := by
  constructor
  · intro h
    obtain ⟨entries, hsorted⟩ := d
    cases List.map_eq_nil_iff.1 h
    rfl
  · rintro rfl
    rfl

/-- Mapping the values leaves the keys. -/
@[simp] theorem keys_map {β : Type v} (d : Dict α) (f : α → β) : (d.map f).keys = d.keys :=
  List.map_map

/-- Mapping the values twice is mapping them once. -/
theorem map_map {β γ : Type v} (d : Dict α) (f : α → β) (g : β → γ) :
    (d.map f).map g = d.map fun a ↦ g (f a) := by
  apply ext_get?
  intro k
  rw [get?_map, get?_map, get?_map, Option.map_map]
  rfl

/-- An inserted key has a value, and every other key keeps having one or none. -/
@[simp] theorem contains_insert (d : Dict α) (k k' : String) (v : α) :
    (d.insert k v).contains k' = (k' == k || d.contains k') := by
  rw [contains, get?_insert, contains]
  by_cases hk : k' = k
  · rw [if_pos hk, beq_iff_eq.2 hk]
    rfl
  · rw [if_neg hk, beq_eq_false_iff_ne.2 hk]
    rfl

/-- An erased key has no value, and every other key keeps having one or none. -/
@[simp] theorem contains_erase (d : Dict α) (k k' : String) :
    (d.erase k).contains k' = (k' != k && d.contains k') := by
  rw [contains, get?_erase, contains]
  by_cases hk : k' = k
  · rw [if_pos hk, bne, beq_iff_eq.2 hk]
    rfl
  · rw [if_neg hk, bne, beq_eq_false_iff_ne.2 hk]
    rfl

/-- Modifying a value makes no key. -/
@[simp] theorem contains_modify (d : Dict α) (k k' : String) (f : α → α) :
    (d.modify k f).contains k' = d.contains k' := by
  rw [contains, get?_modify, contains]
  split
  · exact Option.isSome_map
  · rfl

/-- Mapping the values makes no key. -/
@[simp] theorem contains_map {β : Type v} (d : Dict α) (k : String) (f : α → β) :
    (d.map f).contains k = d.contains k := by
  rw [contains, get?_map, contains, Option.isSome_map]

/-- A key without a value has none once one has been kept under it and dropped. -/
theorem erase_insert {d : Dict α} {k : String} (h : d.contains k = false) (v : α) :
    (d.insert k v).erase k = d := by
  apply ext_get?
  intro k'
  simp only [get?_erase, get?_insert]
  split
  · next hk => rw [hk, Option.isNone_iff_eq_none.1 (Option.isSome_eq_false_iff.1 h)]
  · rfl

/-- Mapping the values leaves a dictionary as it is if it leaves each of them. -/
theorem map_eq_self {d : Dict α} {f : α → α} (h : ∀ k v, d.get? k = some v → f v = v) :
    d.map f = d := by
  apply ext_get?
  intro k
  cases hk : d.get? k with
  | none => simp [hk]
  | some v => simp [hk, h k v hk]

/-- Keeping a value made from the one kept before is modifying it. -/
theorem insert_eq_modify {d : Dict α} {k : String} {v : α} (h : d.get? k = some v) (f : α → α) :
    d.insert k (f v) = d.modify k f := by
  apply ext_get?
  intro k'
  rw [get?_insert, get?_modify]
  by_cases hk : k' = k
  · rw [if_pos hk, if_pos hk, hk, h]
    rfl
  · rw [if_neg hk, if_neg hk]

/-- The keys of a dictionary are apart. -/
theorem nodup_keys (d : Dict α) : (d.entries.map (·.1)).Nodup := by
  rw [List.Nodup, List.pairwise_map]
  refine d.sorted.imp ?_
  intro a b hlt heq
  exact String.lt_irrefl _ (heq ▸ hlt)

/-- A key that no entry has is not found. -/
theorem seek_eq_none {k : String} {l : List (String × α)} (h : k ∉ l.map (·.1)) :
    seek k l = none := by
  induction l with
  | nil => rfl
  | cons e rest ih =>
    rw [List.map_cons, List.mem_cons, not_or] at h
    rw [seek, if_neg fun heq ↦ h.1 heq.symm, ih h.2]

private theorem seek_of_perm {l l' : List (String × α)} (h : l.Perm l') (hl : (l.map (·.1)).Nodup)
    (k : String) : seek k l = seek k l' := by
  induction h with
  | nil => rfl
  | cons e _ ih =>
    rw [List.map_cons, List.nodup_cons] at hl
    rw [seek, seek, ih hl.2]
  | swap e f l =>
    rw [List.map_cons, List.map_cons, List.nodup_cons, List.mem_cons, not_or] at hl
    have hne := hl.1.1
    grind [seek]
  | trans hp _ ih ih' => rw [ih hl, ih' ((hp.map _).nodup_iff.1 hl)]

/-- Inserted entries with keys apart are found, and every other key keeps its value. -/
theorem get?_foldl_insert {es : List (String × α)} (hes : (es.map (·.1)).Nodup) (d : Dict α)
    (k : String) :
    (es.foldl (fun d e ↦ d.insert e.1 e.2) d).get? k = (seek k es).or (d.get? k) := by
  induction es generalizing d with
  | nil => rfl
  | cons e rest ih =>
    rw [List.map_cons, List.nodup_cons] at hes
    rw [List.foldl_cons, ih hes.2, get?_insert, seek]
    by_cases hk : e.1 = k
    · rw [if_pos hk, if_pos hk.symm, seek_eq_none (hk ▸ hes.1)]
      rfl
    · rw [if_neg hk, if_neg fun heq ↦ hk heq.symm]

/-- The entries of two dictionaries, those of the second one where both have a key. -/
def override (d e : Dict α) : Dict α := e.entries.foldl (fun d e ↦ d.insert e.1 e.2) d

/-- A key is looked up in the second dictionary first. -/
theorem get?_override (d e : Dict α) (k : String) :
    (d.override e).get? k = (e.get? k).or (d.get? k) :=
  get?_foldl_insert e.nodup_keys d k

/-- The entries of the second dictionary may be inserted in any order. -/
theorem foldl_insert_of_perm {es : List (String × α)} {e : Dict α} (h : es.Perm e.entries)
    (d : Dict α) : es.foldl (fun d e ↦ d.insert e.1 e.2) d = d.override e := by
  have hes : (es.map (·.1)).Nodup := (h.map _).nodup_iff.2 e.nodup_keys
  apply ext_get?
  intro k
  rw [get?_foldl_insert hes, get?_override, seek_of_perm h hes]
  rfl

/-- Over no entries a dictionary is as before. -/
@[simp] theorem empty_override (e : Dict α) : empty.override e = e := by
  apply ext_get?
  intro k
  rw [get?_override, get?_empty, Option.or_none]

end Dict

end CentroidRpc
