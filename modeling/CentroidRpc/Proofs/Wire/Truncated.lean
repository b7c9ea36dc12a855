import CentroidRpc.Proofs.Wire.Exact
import CentroidRpc.Proofs.Wire.RoundTrip

/-!
# Messages that break off

The bytes of a message are pieces: a field, a text of a list, an entry of a dictionary, a packed
list or a whole message (`Schema.Pieces`). Each of them is taken in one step, and no part of it is,
so bytes that break off inside of a piece are no message. Bytes that break off behind a piece are
what is written of a beginning of the message (`Schema.Beginning`), and are read as that.
-/

namespace CentroidRpc

/-- The entries of a dictionary that have one of some keys. -/
def Dict.only {α : Type} (d : Dict α) (keys : List String) : Dict α :=
  ⟨d.entries.filter (·.1 ∈ keys), d.sorted.filter _⟩

private theorem Dict.get?_of_only {α : Type} {d : Dict α} {keys : List String} {k : String} {v : α}
    (h : (d.only keys).get? k = some v) : d.get? k = some v := by
  have hmem : (k, v) ∈ (d.only keys).entries := (seek_eq_some_iff (d.only keys).sorted).1 h
  exact (seek_eq_some_iff d.sorted).2 (List.mem_filter.1 hmem).1

private theorem Dict.take_perm_only {α : Type} {d : Dict α} {es : List (String × α)}
    (h : es.Perm d.entries) (n : Nat) :
    (es.take n).Perm (d.only ((es.take n).map (·.1))).entries := by
  have hkeys : ((es.take n ++ es.drop n).map (·.1)).Nodup := by
    rw [List.take_append_drop]
    exact (h.map _).nodup_iff.2 d.nodup_keys
  rw [List.map_append, List.nodup_append] at hkeys
  have hfirst : (es.take n).filter (·.1 ∈ (es.take n).map (·.1)) = es.take n := by
    rw [List.filter_eq_self]
    intro e he
    exact decide_eq_true (List.mem_map_of_mem he)
  have hothers : (es.drop n).filter (·.1 ∈ (es.take n).map (·.1)) = [] := by
    rw [List.filter_eq_nil_iff]
    intro e he hkey
    exact hkeys.2.2 _ (of_decide_eq_true hkey) _ (List.mem_map_of_mem he) rfl
  have hfilter := h.filter (·.1 ∈ (es.take n).map (·.1))
  rwa [← List.take_append_drop n es, List.filter_append, List.take_append_drop, hfirst, hothers,
    List.append_nil] at hfilter

namespace Wire

namespace Reader

variable {α σ : Type} {bs cs xs ys : Bytes}

/-- From the same bytes a reader takes the same ones, as the same value. -/
theorem Takes.unique {r : Reader α} {a b : α} (h : Takes r bs a) (h' : Takes r cs b)
    (heq : bs ++ xs = cs ++ ys) : bs = cs ∧ a = b ∧ xs = ys := by
  have hread := h xs
  rw [heq, h' ys] at hread
  obtain ⟨rfl, rfl⟩ := Prod.mk.inj (Except.ok.inj hread)
  exact ⟨List.append_cancel_right heq, rfl, rfl⟩

variable {step : σ → Reader σ} {s s' t : σ}

private theorem Steps.tail (h : Steps step s (bs ++ cs) t) (htake : Takes (step s) bs s')
    (hne : bs ≠ []) : Steps step s' cs t := by
  generalize hall : bs ++ cs = all at h
  cases h with
  | done => exact absurd (List.append_eq_nil_iff.1 hall).1 hne
  | next _ hfirst more =>
    obtain ⟨-, rfl, rfl⟩ := htake.unique hfirst hall
    exact more

/-- No steps go over a part of what one step takes. -/
theorem Steps.eq_of_prefix (h : Steps step s cs t) (htake : Takes (step s) bs s')
    (hfront : cs <+: bs) : cs = [] ∨ cs = bs := by
  obtain ⟨rest, rfl⟩ := hfront
  cases h with
  | done => exact .inl rfl
  | @next _ _ _ first others _ hfirst more =>
    have heq : (first ++ others ++ rest) ++ [] = first ++ (others ++ rest) := by
      rw [List.append_nil, List.append_assoc]
    obtain ⟨hall, -⟩ := htake.unique hfirst heq
    rw [List.append_assoc, List.append_right_eq_self, List.append_eq_nil_iff] at hall
    rw [hall.2, List.append_nil]
    exact .inr rfl

/-- Bytes that break off, of pieces that are taken in one step each, are taken step by step only if
they break off between two pieces. -/
theorem exists_take_of_steps {ps : List Bytes}
    (hps : ∀ p ∈ ps, p ≠ [] ∧ ∀ s, ∃ s', Takes (step s) p s') (hfront : bs <+: ps.flatten)
    (h : Steps step s bs t) : ∃ n, bs = (ps.take n).flatten := by
  induction ps generalizing s bs with
  | nil => exact ⟨0, List.prefix_nil.1 hfront⟩
  | cons p ps ih =>
    obtain ⟨hne, htakes⟩ := hps p List.mem_cons_self
    obtain ⟨s', htake⟩ := htakes s
    rw [List.flatten_cons] at hfront
    rcases List.prefix_or_prefix_of_prefix hfront (List.prefix_append p _) with hpart | ⟨rest, rfl⟩
    · rcases h.eq_of_prefix htake hpart with rfl | rfl
      · exact ⟨0, rfl⟩
      · exact ⟨1, List.flatten_singleton.symm⟩
    · have hrest : rest <+: ps.flatten := (List.prefix_append_right_inj p).1 hfront
      have hothers : ∀ q ∈ ps, q ≠ [] ∧ ∀ s, ∃ s', Takes (step s) q s' :=
        fun q hq ↦ hps q (List.mem_cons_of_mem p hq)
      obtain ⟨n, rfl⟩ := ih hothers hrest (h.tail htake hne)
      exact ⟨n + 1, rfl⟩

end Reader

open Reader

private theorem take_pieceOf (bs : Bytes) (n : Nat) :
    (pieceOf bs).take n = [] ∨ (pieceOf bs).take n = pieceOf bs := by
  cases n with
  | zero => exact .inl List.take_zero
  | succ n =>
    refine .inr (List.take_of_length_le ?_)
    unfold pieceOf
    split
    · exact Nat.zero_le _
    · exact Nat.le_add_left 1 n

namespace LeafType

private theorem pieces_absent (t : LeafType) (number : Nat) : t.Pieces number t.absent [] := by
  cases t with
  | plain s => cases s <;> rfl
  | optional s => rfl

private theorem writes_of_pieces {t : LeafType} {number : Nat} {v : t.Value} {ps : List Bytes}
    (h : t.Pieces number v ps) : t.Writes number v ps.flatten := by
  rw [show ps = pieceOf (t.write number v) from h, flatten_pieceOf]
  exact t.writes_write number v

end LeafType

namespace FieldType

/-- What may be left of a field when bytes break off behind one of its pieces. -/
def Beginning : (t : FieldType) → (whole begun : t.Value) → Prop
  | leaf t, whole, begun => begun = t.absent ∨ begun = whole
  | repeated .text, whole, begun => begun <+: whole
  | repeated _, whole, begun => begun = [] ∨ begun = whole
  | dict _, whole, begun => ∀ k v, begun.get? k = some v → whole.get? k = some v
  | message _, whole, begun => begun = none ∨ begun = whole

variable {inner : (m : Schema LeafType) → m.Value → Bytes → Prop} {number : Nat}

private theorem pieces_absent (t : FieldType) (number : Nat) :
    t.Pieces inner number t.absent [] := by
  cases t with
  | leaf t => exact t.pieces_absent number
  | repeated s => cases s <;> rfl
  | dict s => exact ⟨[], .refl _, rfl⟩
  | message m => rfl

private theorem writes_of_pieces {t : FieldType} {v : t.Value} {ps : List Bytes}
    (h : t.Pieces (fun m v bs ↦ bs = m.encode v) number v ps) : t.Writes number v ps.flatten := by
  cases t with
  | leaf t => exact LeafType.writes_of_pieces h
  | repeated s =>
    show ps.flatten = (repeated s).write number v
    cases s with
    | text =>
      rw [show ps = v.map (writeScalarField .text number) from h]
      exact (List.flatMap_def ..).symm
    | int32 | uint64 | bool | double =>
      rw [show ps = pieceOf _ from h, flatten_pieceOf]
  | dict s =>
    obtain ⟨es, hperm, rfl⟩ := h
    exact ⟨es, hperm, (List.flatMap_def ..).symm⟩
  | message m =>
    show ps.flatten = (message m).write number v
    cases v with
    | none =>
      rw [show ps = [] from h]
      rfl
    | some v =>
      obtain ⟨_, rfl, rfl⟩ := h
      exact List.flatten_singleton

/-- The first pieces of a field are those of what is left of it. -/
theorem exists_beginning {t : FieldType} {v : t.Value} {ps : List Bytes}
    (h : t.Pieces inner number v ps) (n : Nat) :
    ∃ begun, t.Beginning v begun ∧ t.Pieces inner number begun (ps.take n) := by
  cases t with
  | leaf t =>
    obtain rfl : ps = pieceOf (t.write number v) := h
    rcases take_pieceOf (t.write number v) n with htake | htake
    · exact ⟨t.absent, .inl rfl, htake ▸ t.pieces_absent number⟩
    · exact ⟨v, .inr rfl, htake⟩
  | repeated s =>
    cases s with
    | text =>
      obtain rfl : ps = v.map (writeScalarField .text number) := h
      exact ⟨v.take n, List.take_prefix n v, List.map_take.symm⟩
    | int32 | uint64 | bool | double =>
      obtain rfl : ps = pieceOf ((repeated _).write number v) := h
      rcases take_pieceOf ((repeated _).write number v) n with htake | htake
      · exact ⟨[], .inl rfl, htake⟩
      · exact ⟨v, .inr rfl, htake⟩
  | dict s =>
    obtain ⟨es, hperm, rfl⟩ := h
    exact ⟨v.only ((es.take n).map (·.1)), fun k x ↦ Dict.get?_of_only, es.take n,
      Dict.take_perm_only hperm n, List.map_take.symm⟩
  | message m =>
    cases v with
    | none =>
      obtain rfl : ps = [] := h
      exact ⟨none, .inl rfl, List.take_nil⟩
    | some v =>
      obtain ⟨bs, hbs, rfl⟩ := h
      cases n with
      | zero => exact ⟨none, .inl rfl, rfl⟩
      | succ n => exact ⟨some v, .inr rfl, bs, hbs, List.take_of_length_le (Nat.le_add_left 1 n)⟩

/-- Each piece of a field is read over any value as one field. -/
theorem oneField_of_mem_pieces {t : FieldType} {depth : Nat}
    (hinner : ∀ m, t = message m → ∀ old new bs, bs.length < UInt64.size → inner m new bs →
      Steps (m.mergeNext depth) old bs (Record.zipFields LeafType.overlay m.fields old new))
    {v : t.Value} {ps : List Bytes} (h : t.Pieces inner number v ps) {p : Bytes} (hp : p ∈ ps)
    (hlen : p.length < UInt64.size) (old : t.Value) :
    ∃ new, OneField (fun k v ↦ t.merge k.wire (depth + 1) v) [number] old p new := by
  have hpiece {bs : Bytes} (hmem : p ∈ pieceOf bs) : bs ≠ [] ∧ p = bs := by
    unfold pieceOf at hmem
    split at hmem
    · exact absurd hmem List.not_mem_nil
    · next hne => exact ⟨hne, List.mem_singleton.1 hmem⟩
  have hpacked {s : Scalar} (hs : s ≠ .text) (v old : List s.Value)
      (hmem : p ∈ pieceOf (if v.isEmpty then [] else writeBlockField number (v.flatMap s.write))) :
      OneField (fun k v ↦ (repeated s).merge k.wire (depth + 1) v) [number] old p (old ++ v) := by
    obtain ⟨hne, rfl⟩ := hpiece hmem
    have hv : ¬ v.isEmpty = true := fun hv ↦ hne (if_pos hv)
    rw [if_neg hv] at hlen ⊢
    exact oneField_packed hs number (depth + 1) old v hlen
  cases t with
  | leaf t =>
    obtain rfl : ps = pieceOf (t.write number v) := h
    obtain ⟨hne, rfl⟩ := hpiece hp
    exact ⟨_, t.oneField_write number old v hne hlen⟩
  | repeated s =>
    -- Texts are written one by one; values of every other kind make up one packed piece.
    cases s with
    | text =>
      obtain rfl : ps = v.map (writeScalarField .text number) := h
      obtain ⟨text, -, rfl⟩ := List.mem_map.1 hp
      exact ⟨_, oneField_text number (depth + 1) old hlen⟩
    | int32 => exact ⟨_, hpacked (s := .int32) nofun v old (h ▸ hp)⟩
    | uint64 => exact ⟨_, hpacked (s := .uint64) nofun v old (h ▸ hp)⟩
    | bool => exact ⟨_, hpacked (s := .bool) nofun v old (h ▸ hp)⟩
    | double => exact ⟨_, hpacked (s := .double) nofun v old (h ▸ hp)⟩
  | dict s =>
    obtain ⟨es, -, rfl⟩ := h
    obtain ⟨e, -, rfl⟩ := List.mem_map.1 hp
    exact ⟨_, oneField_entry s number depth old hlen⟩
  | message m =>
    cases v with
    | none =>
      obtain rfl : ps = [] := h
      exact absurd hp List.not_mem_nil
    | some v =>
      obtain ⟨bs, hbs, rfl⟩ := h
      obtain rfl : p = writeBlockField number bs := List.mem_singleton.1 hp
      exact ⟨_, oneField_message number old hlen
        (hinner m rfl (old.getD m.absent) v bs (length_lt_of_append hlen).2 hbs)⟩

private theorem negZero_not_mem_absent (t : FieldType) : .negZero ∉ t.doubles t.absent := by
  cases t with
  | leaf t =>
    cases t with
    | plain s => cases s <;> decide
    | optional s => exact List.not_mem_nil
  | repeated s => exact List.not_mem_nil
  | dict s => exact List.not_mem_nil
  | message m => exact List.not_mem_nil

private theorem Beginning.negZero_not_mem {t : FieldType} {whole begun : t.Value}
    (h : t.Beginning whole begun) (hneg : .negZero ∉ t.doubles whole) :
    .negZero ∉ t.doubles begun := by
  have hor (h : begun = t.absent ∨ begun = whole) : .negZero ∉ t.doubles begun := by
    rcases h with rfl | rfl
    · exact t.negZero_not_mem_absent
    · exact hneg
  cases t with
  | leaf t => exact hor h
  | repeated s =>
    cases s with
    | text =>
      intro hmem
      obtain ⟨x, hx, hmem⟩ := List.mem_flatMap.1 hmem
      exact hneg (List.mem_flatMap.2 ⟨x, h.subset hx, hmem⟩)
    | int32 | uint64 | bool | double => exact hor h
  | dict s =>
    intro hmem
    obtain ⟨x, hx, hmem⟩ := List.mem_flatMap.1 hmem
    obtain ⟨k, hk⟩ := Dict.mem_values_iff.1 hx
    exact hneg (List.mem_flatMap.2 ⟨x, Dict.mem_values_iff.2 ⟨k, h k x hk⟩, hmem⟩)
  | message m => exact hor h

end FieldType

namespace Record

variable {τ : Type} [FieldSort τ]

/-- What may be left of a record when bytes break off behind one of its pieces: a field of which a
beginning is left, with whole fields before it and absent ones behind it. -/
def Beginning (beginning : (t : τ) → (whole begun : FieldSort.Value t) → Prop) :
    (fs : List (FieldDecl τ)) → (whole begun : Record fs) → Prop
  | [], _, _ => True
  | f :: fs, (v, r), (v', r') =>
    (beginning f.type v v' ∧ r' = absent fs) ∨ (v' = v ∧ Beginning beginning fs r r')

variable {pieces : (t : τ) → (number : Nat) → FieldSort.Value t → List Bytes → Prop}

private theorem writes_of_pieces
    {writes : (t : τ) → (number : Nat) → FieldSort.Value t → Bytes → Prop}
    (h : ∀ {t number v ps}, pieces t number v ps → writes t number v ps.flatten)
    {fs : List (FieldDecl τ)} {r : Record fs} {ps : List Bytes} (hr : Pieces pieces fs r ps) :
    Writes writes fs r ps.flatten := by
  induction fs generalizing ps with
  | nil =>
    rw [show ps = [] from hr]
    rfl
  | cons f fs ih =>
    obtain ⟨v, r⟩ := r
    obtain ⟨first, others, rfl, hfirst, hothers⟩ := hr
    exact ⟨first.flatten, others.flatten, List.flatten_append, h hfirst, ih hothers⟩

private theorem pieces_absent (h : ∀ t number, pieces t number (FieldSort.absent t) [])
    (fs : List (FieldDecl τ)) : Pieces pieces fs (absent fs) [] := by
  induction fs with
  | nil => rfl
  | cons f fs ih => exact ⟨[], [], rfl, h f.type f.number, ih⟩

/-- The first pieces of a record are those of what is left of it, if those of its fields are. -/
theorem exists_beginning {beginning : (t : τ) → (whole begun : FieldSort.Value t) → Prop}
    (habsent : ∀ t number, pieces t number (FieldSort.absent t) [])
    (hfield : ∀ {t number v ps}, pieces t number v ps → ∀ n,
      ∃ begun, beginning t v begun ∧ pieces t number begun (ps.take n))
    {fs : List (FieldDecl τ)} {r : Record fs} {ps : List Bytes} (hr : Pieces pieces fs r ps)
    (n : Nat) :
    ∃ begun, Beginning beginning fs r begun ∧ Pieces pieces fs begun (ps.take n) := by
  induction fs generalizing ps n with
  | nil =>
    obtain rfl : ps = [] := hr
    exact ⟨(), trivial, List.take_nil⟩
  | cons f fs ih =>
    obtain ⟨v, r⟩ := r
    obtain ⟨first, others, rfl, hfirst, hothers⟩ := hr
    rw [List.take_append]
    by_cases hn : n ≤ first.length
    · obtain ⟨begun, hbegun, hpieces⟩ := hfield hfirst n
      refine ⟨(begun, absent fs), .inl ⟨hbegun, rfl⟩, first.take n, [], ?_, hpieces,
        pieces_absent habsent fs⟩
      rw [Nat.sub_eq_zero_of_le hn, List.take_zero]
    · obtain ⟨begun, hbegun, hpieces⟩ := ih hothers (n - first.length)
      refine ⟨(v, begun), .inr ⟨rfl, hbegun⟩, first, others.take (n - first.length), ?_, hfirst,
        hpieces⟩
      rw [List.take_of_length_le (Nat.le_of_not_le hn)]

/-- Each piece of a record is read over any record as one field, if those of its fields are. -/
theorem oneField_of_mem_pieces {message : String} {depth : Nat} {fs : List (FieldDecl τ)}
    (hnumbers : (fs.map (·.number)).Nodup)
    (hfield : ∀ f ∈ fs, ∀ v ps, pieces f.type f.number v ps → ∀ p ∈ ps, p.length < UInt64.size →
      ∀ old, ∃ new, OneField (fun k v ↦ FieldSort.merge f.type k.wire depth v) [f.number] old p new)
    {r : Record fs} {ps : List Bytes} (h : Pieces pieces fs r ps) {p : Bytes} (hp : p ∈ ps)
    (hlen : p.length < UInt64.size) (old : Record fs) :
    ∃ new, OneField (fun k r ↦ mergeField message k depth fs r) (fs.map (·.number)) old p new := by
  induction fs generalizing ps with
  | nil =>
    obtain rfl : ps = [] := h
    exact absurd hp List.not_mem_nil
  | cons f fs ih =>
    obtain ⟨v, r⟩ := r
    obtain ⟨w, old⟩ := old
    obtain ⟨first, others, rfl, hfirst, hothers⟩ := h
    rw [List.map_cons, List.nodup_cons] at hnumbers
    rcases List.mem_append.1 hp with hp | hp
    · obtain ⟨new, hone⟩ := hfield f List.mem_cons_self v first hfirst p hp hlen w
      refine ⟨(new, old), hone.lift (fun v ↦ (v, old)) ?_ fun k v v' bs hk htake ↦
        takes_head hk htake old⟩
      exact fun n hn ↦ List.mem_singleton.1 hn ▸ List.mem_cons_self
    · obtain ⟨new, hone⟩ := ih hnumbers.2 (fun g hg ↦ hfield g (List.mem_cons_of_mem f hg)) hothers
        hp old
      exact ⟨(w, new), hone.lift (fun r ↦ (w, r)) (fun n hn ↦ List.mem_cons_of_mem _ hn)
        fun k r r' bs hk htake ↦ takes_tail hnumbers.1 hk htake w⟩

variable {α : Type} {bad : α} {found : (t : τ) → FieldSort.Value t → List α}

private theorem not_mem_absent (h : ∀ t, bad ∉ found t (FieldSort.absent t))
    (fs : List (FieldDecl τ)) :
    bad ∉ collect found fs (absent fs) := by
  induction fs with
  | nil => exact List.not_mem_nil
  | cons f fs ih =>
    rw [absent, collect, List.mem_append, not_or]
    exact ⟨h f.type, ih⟩

private theorem Beginning.not_mem
    {beginning : (t : τ) → (whole begun : FieldSort.Value t) → Prop}
    (habsent : ∀ t, bad ∉ found t (FieldSort.absent t))
    (hfield : ∀ {t whole begun}, beginning t whole begun → bad ∉ found t whole →
      bad ∉ found t begun)
    {fs : List (FieldDecl τ)} {whole begun : Record fs} (h : Beginning beginning fs whole begun)
    (hwhole : bad ∉ collect found fs whole) : bad ∉ collect found fs begun := by
  induction fs with
  | nil => exact List.not_mem_nil
  | cons f fs ih =>
    obtain ⟨v, r⟩ := whole
    obtain ⟨v', r'⟩ := begun
    rw [collect, List.mem_append, not_or] at hwhole ⊢
    rcases h with ⟨hbegun, rfl⟩ | ⟨rfl, hothers⟩
    · exact ⟨hfield hbegun hwhole.1, not_mem_absent habsent fs⟩
    · exact ⟨hwhole.1, ih hothers hwhole.2⟩

end Record

namespace Schema

variable {m : Schema FieldType}

/-- The pieces in which a message is written. -/
def Pieces (m : Schema FieldType) (v : m.Value) (ps : List Bytes) : Prop :=
  Record.Pieces (FieldType.Pieces fun inner v bs ↦ bs = inner.encode v) m.fields v ps

/-- What may be left of a message when its bytes break off behind a piece. -/
def Beginning (m : Schema FieldType) (whole begun : m.Value) : Prop :=
  Record.Beginning FieldType.Beginning m.fields whole begun

/-- A message is written in some pieces one after the other. -/
theorem writes_iff_pieces {v : m.Value} {bs : Bytes} :
    m.Writes v bs ↔ ∃ ps, m.Pieces v ps ∧ ps.flatten = bs := by
  constructor
  · intro h
    refine Record.pieces_of_writes _ (fun _ _ _ _ hfield ↦ ?_) h
    exact FieldType.pieces_of_writes (fun inner v bs ↦ bs = inner.encode v) (fun _ _ ↦ rfl) hfield
  · rintro ⟨ps, hps, rfl⟩
    show Record.Writes FieldType.Writes m.fields v ps.flatten
    exact Record.writes_of_pieces (fun hfield ↦ FieldType.writes_of_pieces hfield) hps

/-- The first pieces of a message are those of what is left of it. -/
theorem exists_beginning {v : m.Value} {ps : List Bytes} (h : m.Pieces v ps) (n : Nat) :
    ∃ begun, m.Beginning v begun ∧ m.Pieces begun (ps.take n) :=
  Record.exists_beginning FieldType.pieces_absent FieldType.exists_beginning h n

/-- Each piece of a message is taken in one step, whatever has been read before. -/
theorem takes_of_mem_pieces (hm : m.WellNumbered) {v : m.Value} {ps : List Bytes}
    (h : m.Pieces v ps) {p : Bytes} (hp : p ∈ ps) (hlen : p.length < UInt64.size) :
    p ≠ [] ∧ ∀ old, ∃ new, Takes (m.mergeNext maxDepth old) p new := by
  have hone : ∀ old, ∃ new, OneField
      (fun k r ↦ Record.mergeField m.name k (98 + 2) m.fields r) (m.fields.map (·.number)) old p
      new := by
    refine Record.oneField_of_mem_pieces hm.numbered.nodup ?_ h hp hlen
    intro f hf v ps hps p hp hlen old
    refine FieldType.oneField_of_mem_pieces ?_ hps hp hlen old
    rintro inner ht old new _ hbs rfl
    have hinner : f.type.Numbered := hm.nested f hf
    rw [ht] at hinner
    exact steps_encode_leaves hinner _ old new hbs
  refine ⟨?_, fun old ↦ ?_⟩
  · obtain ⟨new, hnew⟩ := hone m.absent
    exact hnew.ne_nil
  · obtain ⟨new, hnew⟩ := hone old
    exact ⟨new, hnew.takes hm.numbered.bounds⟩

private theorem length_take_flatten_le (ps : List Bytes) (n : Nat) :
    (ps.take n).flatten.length ≤ ps.flatten.length := by
  have hall : (ps.take n).flatten ++ (ps.drop n).flatten = ps.flatten := by
    rw [← List.flatten_append, List.take_append_drop]
  rw [← hall, List.length_append]
  exact Nat.le_add_right _ _

/-- The first pieces of a message are read as what is left of it. -/
theorem exists_decode_take (hm : m.WellNumbered) {v : m.Value} {ps : List Bytes}
    (h : m.Pieces v ps) (hlen : ps.flatten.length < UInt64.size) (n : Nat) :
    ∃ begun, m.Beginning v begun ∧ m.Pieces begun (ps.take n) ∧
      m.decode (ps.take n).flatten = .ok (m.positiveZero begun) := by
  obtain ⟨begun, hbegun, hpieces⟩ := exists_beginning h n
  have hfits := Nat.lt_of_le_of_lt (length_take_flatten_le ps n) hlen
  exact ⟨begun, hbegun, hpieces, decode_of_writes hm hfits (writes_iff_pieces.2 ⟨_, hpieces, rfl⟩)⟩

/-- Bytes of a message that break off are read only if they break off between two pieces. -/
theorem exists_take_of_decode (hm : m.WellNumbered) {v u : m.Value} {ps : List Bytes}
    (h : m.Pieces v ps) (hlen : ps.flatten.length < UInt64.size) {front : Bytes}
    (hfront : front <+: ps.flatten) (hdecode : m.decode front = .ok u) :
    ∃ n, front = (ps.take n).flatten := by
  refine exists_take_of_steps (fun p hp ↦ ?_) hfront (decode_eq_ok_iff.1 hdecode)
  have hfits := Nat.lt_of_le_of_lt (List.sublist_flatten_of_mem hp).length_le hlen
  exact takes_of_mem_pieces hm h hp hfits

end Schema

end Wire

namespace Message

open Wire

/-- A message is written in pieces, and its bytes may break off anywhere. They are read exactly if
they break off between two pieces, and then as what is left of the message: whole fields, a
beginning of the one that breaks off, and none of those behind it. There may be no more bytes than a
number of 64 bits can count. -/
theorem decode_cut_off {m : Schema FieldType} (hm : m ∈ all) (v : m.Value) :
    m.Writes v (m.encode v) ∧
    (∀ bs, m.Writes v bs ↔ ∃ ps, m.Pieces v ps ∧ ps.flatten = bs) ∧
    ∀ ps, m.Pieces v ps → ps.flatten.length < UInt64.size →
      (∀ front, front <+: ps.flatten →
        ((∃ u, m.decode front = .ok u) ↔ ∃ n, front = (ps.take n).flatten)) ∧
      ∀ n, ∃ begun, m.Beginning v begun ∧ m.Pieces begun (ps.take n) ∧
        m.decode (ps.take n).flatten = .ok (m.positiveZero begun) ∧
        (.negZero ∉ m.doubles v → m.decode (ps.take n).flatten = .ok begun) := by
  have hnumbers := wellNumbered_of_mem_all m hm
  refine ⟨m.writes_encode v, fun bs ↦ Schema.writes_iff_pieces, fun ps hps hlen ↦ ⟨?_, ?_⟩⟩
  · intro front hfront
    constructor
    · rintro ⟨u, hdecode⟩
      exact Schema.exists_take_of_decode hnumbers hps hlen hfront hdecode
    · rintro ⟨n, rfl⟩
      obtain ⟨begun, -, -, hdecode⟩ := Schema.exists_decode_take hnumbers hps hlen n
      exact ⟨_, hdecode⟩
  · intro n
    obtain ⟨begun, hbegun, hpieces, hdecode⟩ := Schema.exists_decode_take hnumbers hps hlen n
    refine ⟨begun, hbegun, hpieces, hdecode, fun hneg ↦ ?_⟩
    have hleft : .negZero ∉ m.doubles begun :=
      Record.Beginning.not_mem FieldType.negZero_not_mem_absent
        FieldType.Beginning.negZero_not_mem hbegun hneg
    rw [hdecode, m.positiveZero_eq_self hleft]

/-- A status and a score: behind the status the bytes may break off, within the score they may
not. -/
theorem decode_cut_off_behindStatus :
    (∃ begun, ResponseType.multiSimilarity.schema.Beginning
        (some (Status.record ⟨5, none⟩), ⟨[("a", ⟨2⟩)], by decide⟩, ()) begun ∧
      ResponseType.multiSimilarity.schema.decode [10, 2, 8, 5] = .ok begun) ∧
    ¬ ∃ u, ResponseType.multiSimilarity.schema.decode [10, 2, 8, 5, 18, 12, 10, 1, 97] = .ok u := by
  let v : ResponseType.multiSimilarity.schema.Value :=
    (some (Status.record ⟨5, none⟩), ⟨[("a", ⟨2⟩)], by decide⟩, ())
  let ps : List Bytes := [[10, 2, 8, 5], [18, 12, 10, 1, 97, 17, 2, 0, 0, 0, 0, 0, 0, 0]]
  have hstatus : [8, 5] = statusSchema.encode (Status.record ⟨5, none⟩) := by decide +kernel
  have hps : ResponseType.multiSimilarity.schema.Pieces v ps := by
    refine ⟨[[10, 2, 8, 5]], [[18, 12, 10, 1, 97, 17, 2, 0, 0, 0, 0, 0, 0, 0]], rfl,
      ⟨[8, 5], hstatus, ?_⟩, _, [], (List.append_nil _).symm, ⟨[("a", ⟨2⟩)], .refl _, ?_⟩, rfl⟩
    · decide +kernel
    · decide +kernel
  obtain ⟨hcut, hread⟩ :=
    (decode_cut_off (response_mem_all .multiSimilarity) v).2.2 ps hps (by decide)
  constructor
  · obtain ⟨begun, hbegun, -, -, hdecode⟩ := hread 1
    exact ⟨begun, hbegun, hdecode (by decide)⟩
  · rw [hcut _ ⟨[17, 2, 0, 0, 0, 0, 0, 0, 0], rfl⟩]
    rintro ⟨_ | _ | n, hn⟩
    · exact absurd hn (by decide)
    · exact absurd hn (by decide)
    · rw [List.take_of_length_le (Nat.le_add_left 2 n)] at hn
      exact absurd hn (by decide)

end Message

end CentroidRpc
