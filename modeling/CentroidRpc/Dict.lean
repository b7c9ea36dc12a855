/-!
# Dictionaries with text keys

A dictionary keeps its entries in strictly increasing order of key, so that two dictionaries with
the same look-ups are the same value (`Dict.ext_get?`). Each operation has one law, which says
what it does to `get?`.
-/

namespace CentroidRpc

universe u v

/-- A finite map from texts, with its entries in strictly increasing order of key, so that no key
occurs twice. -/
structure Dict (α : Type u) where
  entries : List (String × α)
  sorted : entries.Pairwise fun a b ↦ a.1 < b.1

namespace Dict

variable {α : Type u} {β : Type v}

/-- The dictionary without entries. -/
def empty : Dict α := ⟨[], .nil⟩

instance : Inhabited (Dict α) := ⟨empty⟩

/-- The value of the first entry with a key. -/
def seek (k : String) : List (String × α) → Option α
  | [] => none
  | e :: rest => if e.1 = k then some e.2 else seek k rest

/-- The value kept under a key. -/
def get? (d : Dict α) (k : String) : Option α := seek k d.entries

/-- Whether a key has a value. -/
def contains (d : Dict α) (k : String) : Bool := (d.get? k).isSome

/-- The keys, in order. -/
def keys (d : Dict α) : List String := d.entries.map (·.1)

/-- The values, in order of their keys. -/
def values (d : Dict α) : List α := d.entries.map (·.2)

/-- Number of keys. -/
def size (d : Dict α) : Nat := d.entries.length

/-- Puts an entry at its place in a sorted list, in the stead of one with the same key. -/
def place (k : String) (v : α) : List (String × α) → List (String × α)
  | [] => [(k, v)]
  | e :: rest =>
    if k < e.1 then (k, v) :: e :: rest
    else if k = e.1 then (k, v) :: rest
    else e :: place k v rest

private theorem mem_place {k : String} {v : α} {e : String × α} {l : List (String × α)}
    (h : e ∈ place k v l) : e = (k, v) ∨ e ∈ l := by
  induction l with
  | nil => simpa [place] using h
  | cons a rest ih => grind [place]

private theorem pairwise_place {k : String} {v : α} {l : List (String × α)}
    (h : l.Pairwise fun a b ↦ a.1 < b.1) :
    (place k v l).Pairwise fun a b ↦ a.1 < b.1 := by
  induction l with
  | nil => simp [place]
  | cons a rest ih =>
    obtain ⟨ha, hrest⟩ := List.pairwise_cons.1 h
    unfold place
    split
    · rename_i hlt
      refine List.pairwise_cons.2 ⟨fun b hb ↦ ?_, h⟩
      rcases List.mem_cons.1 hb with rfl | hb
      · exact hlt
      · exact String.lt_trans hlt (ha b hb)
    · split
      · rename_i heq
        exact List.pairwise_cons.2 ⟨fun b hb ↦ heq ▸ ha b hb, hrest⟩
      · rename_i hlt hne
        refine List.pairwise_cons.2 ⟨fun b hb ↦ ?_, ih hrest⟩
        rcases mem_place hb with rfl | hb
        · refine String.not_le.1 fun hle ↦ hne (String.le_antisymm hle (String.not_lt.1 hlt))
        · exact ha b hb

/-- Keeps a value under a key, in the stead of the one kept before. -/
def insert (d : Dict α) (k : String) (v : α) : Dict α :=
  ⟨place k v d.entries, pairwise_place d.sorted⟩

/-- Drops the value kept under a key. -/
def erase (d : Dict α) (k : String) : Dict α :=
  ⟨d.entries.filter (·.1 ≠ k), d.sorted.filter _⟩

/-- Applies a function to every value. -/
def map (f : α → β) (d : Dict α) : Dict β :=
  ⟨d.entries.map fun e ↦ (e.1, f e.2), d.sorted.map _ fun _ _ h ↦ h⟩

/-- Applies a function to the value kept under a key, if there is one. -/
def modify (d : Dict α) (k : String) (f : α → α) : Dict α :=
  ⟨d.entries.map fun e ↦ if e.1 = k then (e.1, f e.2) else e,
    d.sorted.map _ fun a b h ↦ by split <;> split <;> exact h⟩

/-- The dictionary of a list of entries, a later one taking the place of an earlier one with the
same key. -/
def ofList (l : List (String × α)) : Dict α :=
  l.foldl (fun d e ↦ d.insert e.1 e.2) empty

instance [DecidableEq α] : DecidableEq (Dict α) := fun a b ↦
  decidable_of_iff (a.entries = b.entries) ⟨fun h ↦ by cases a; cases b; simpa using h, (· ▸ rfl)⟩

/-- No key has a value in the empty dictionary. -/
@[simp] theorem get?_empty (k : String) : (empty : Dict α).get? k = none := rfl

private theorem seek_place (k k' : String) (v : α) (l : List (String × α)) :
    seek k' (place k v l) = if k' = k then some v else seek k' l := by
  induction l with
  | nil => grind [place, seek]
  | cons a rest ih => grind [place, seek]

/-- An inserted value is found under its key, and every other key keeps its value. -/
theorem get?_insert (d : Dict α) (k k' : String) (v : α) :
    (d.insert k v).get? k' = if k' = k then some v else d.get? k' :=
  seek_place k k' v d.entries

/-- An erased key has no value, and every other key keeps its value. -/
theorem get?_erase (d : Dict α) (k k' : String) :
    (d.erase k).get? k' = if k' = k then none else d.get? k' := by
  obtain ⟨l, h⟩ := d
  simp only [get?, erase]
  clear h
  induction l with
  | nil => simp [seek]
  | cons a rest ih => grind [seek]

/-- Mapping the values maps every look-up. -/
@[simp] theorem get?_map (f : α → β) (d : Dict α) (k : String) :
    (d.map f).get? k = (d.get? k).map f := by
  obtain ⟨l, h⟩ := d
  simp only [get?, map]
  clear h
  induction l with
  | nil => simp [seek]
  | cons a rest ih => grind [seek]

/-- Modifying a key maps its look-up, and every other key keeps its value. -/
theorem get?_modify (d : Dict α) (k k' : String) (f : α → α) :
    (d.modify k f).get? k' = if k' = k then (d.get? k').map f else d.get? k' := by
  obtain ⟨l, h⟩ := d
  simp only [get?, modify]
  clear h
  induction l with
  | nil => simp [seek]
  | cons a rest ih => grind [seek]

/-- A value found in a sorted list belongs to an entry, and every entry's value is found. -/
theorem seek_eq_some_iff {l : List (String × α)} (h : l.Pairwise fun a b ↦ a.1 < b.1)
    {k : String} {v : α} : seek k l = some v ↔ (k, v) ∈ l := by
  induction l with
  | nil => simp [seek]
  | cons a rest ih =>
    obtain ⟨ha, hrest⟩ := List.pairwise_cons.1 h
    have ih := ih hrest
    unfold seek
    split
    · rename_i hk
      subst hk
      constructor
      · intro hv
        simp only [Option.some.injEq] at hv
        exact List.mem_cons.2 (.inl (by rw [← hv]))
      · intro hm
        rcases List.mem_cons.1 hm with hm | hm
        · rw [← hm]
        · exact absurd (ha _ hm) (String.lt_irrefl _)
    · rename_i hk
      rw [ih, List.mem_cons]
      refine ⟨Or.inr, fun hm ↦ hm.resolve_left fun he ↦ hk (by rw [← he])⟩

/-- Dictionaries with the same look-ups are equal. -/
theorem ext_get? {d e : Dict α} (h : ∀ k, d.get? k = e.get? k) : d = e := by
  obtain ⟨l, hl⟩ := d
  obtain ⟨m, hm⟩ := e
  simp only [get?] at h
  congr 1
  have hmem : ∀ x, x ∈ l ↔ x ∈ m := fun x ↦ by
    rw [← seek_eq_some_iff hl, ← seek_eq_some_iff hm, h]
  induction l generalizing m with
  | nil => exact (List.eq_nil_iff_forall_not_mem.2 fun x hx ↦ by simpa using (hmem x).2 hx).symm
  | cons a rest ih =>
    obtain ⟨ha, hrest⟩ := List.pairwise_cons.1 hl
    cases m with
    | nil => simpa using hmem a
    | cons b more =>
      obtain ⟨hb, hmore⟩ := List.pairwise_cons.1 hm
      -- Each of the two first entries is the least one of the same entries.
      have hab : a = b := by
        rcases List.mem_cons.1 ((hmem a).1 (List.mem_cons_self ..)) with hab | hab
        · exact hab
        · rcases List.mem_cons.1 ((hmem b).2 (List.mem_cons_self ..)) with hba | hba
          · exact hba.symm
          · exact absurd (String.lt_trans (hb _ hab) (ha _ hba)) (String.lt_irrefl _)
      subst hab
      have hne : ∀ {n : List (String × α)}, (∀ c ∈ n, a.1 < c.1) → a ∉ n := fun hn hc ↦
        String.lt_irrefl _ (hn a hc)
      have hmem' : ∀ x, x ∈ rest ↔ x ∈ more := fun x ↦ by
        have := hmem x
        simp only [List.mem_cons] at this
        constructor
        · intro hx
          exact (this.1 (.inr hx)).resolve_left fun he ↦ hne ha (he ▸ hx)
        · intro hx
          exact (this.2 (.inr hx)).resolve_left fun he ↦ hne hb (he ▸ hx)
      rw [ih hrest more hmore (fun k ↦ ?_) hmem']
      refine Option.ext fun v ↦ ?_
      rw [seek_eq_some_iff hrest, seek_eq_some_iff hmore, hmem']

end Dict

end CentroidRpc
