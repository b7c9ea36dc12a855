import CentroidRpc.Wire.FieldType

/-!
# What is written of a message, and how long it is

The entries of a dictionary may be written in any order; apart from this there is one way to write
a message (`Schema.Writes`). Each way takes as many bytes as the size of the message says.
-/

namespace CentroidRpc.Wire

namespace Record

variable {τ : Type} [FieldSort τ]

/-- Bytes in which the fields of a record are written one after the other. -/
def Writes (writes : (t : τ) → (number : Nat) → FieldSort.Value t → Bytes → Prop) :
    (fs : List (FieldDecl τ)) → Record fs → Bytes → Prop
  | [], _, bs => bs = []
  | f :: fs, (v, r), bs =>
    ∃ cs ds, bs = cs ++ ds ∧ writes f.type f.number v cs ∧ Writes writes fs r ds

/-- The pieces that a record is written in are those of its fields. -/
def Pieces (pieces : (t : τ) → (number : Nat) → FieldSort.Value t → List Bytes → Prop) :
    (fs : List (FieldDecl τ)) → Record fs → List Bytes → Prop
  | [], _, ps => ps = []
  | f :: fs, (v, r), ps =>
    ∃ first others, ps = first ++ others ∧ pieces f.type f.number v first ∧
      Pieces pieces fs r others

variable {writes : (t : τ) → (number : Nat) → FieldSort.Value t → Bytes → Prop}

/-- What is written of a record falls into pieces if what is written of each field does. -/
theorem pieces_of_writes
    (pieces : (t : τ) → (number : Nat) → FieldSort.Value t → List Bytes → Prop)
    (h : ∀ t number v bs, writes t number v bs → ∃ ps, pieces t number v ps ∧ ps.flatten = bs)
    {fs : List (FieldDecl τ)} {r : Record fs} {bs : Bytes} (hr : Writes writes fs r bs) :
    ∃ ps, Pieces pieces fs r ps ∧ ps.flatten = bs := by
  induction fs generalizing bs with
  | nil => exact ⟨[], rfl, (show bs = [] from hr).symm⟩
  | cons f fs ih =>
    obtain ⟨v, r⟩ := r
    obtain ⟨cs, ds, rfl, hf, hfs⟩ := hr
    obtain ⟨first, hfirst, rfl⟩ := h _ _ _ _ hf
    obtain ⟨others, hothers, rfl⟩ := ih hfs
    exact ⟨first ++ others, ⟨first, others, rfl, hfirst, hothers⟩, List.flatten_append⟩

/-- The bytes of a record are its fields one after the other, if the bytes of a field are. -/
theorem writes_write (h : ∀ t number v, writes t number v (FieldSort.write t number v))
    (fs : List (FieldDecl τ)) (r : Record fs) : Writes writes fs r (write fs r) := by
  induction fs with
  | nil => rfl
  | cons f fs ih =>
    obtain ⟨v, r⟩ := r
    exact ⟨_, _, rfl, h f.type f.number v, ih r⟩

/-- A record takes as many bytes as its size says, if each of its fields does. -/
theorem length_of_writes
    (h : ∀ t number v bs, writes t number v bs → bs.length = FieldSort.size t number v)
    {fs : List (FieldDecl τ)} {r : Record fs} {bs : Bytes} (hr : Writes writes fs r bs) :
    bs.length = size fs r := by
  induction fs generalizing bs with
  | nil =>
    rw [show bs = [] from hr]
    rfl
  | cons f fs ih =>
    obtain ⟨v, r⟩ := r
    obtain ⟨cs, ds, rfl, hf, hfs⟩ := hr
    rw [List.length_append, size, h _ _ _ _ hf, ih hfs]

end Record

/-- What is written of a field that has at most one piece. -/
def pieceOf (bs : Bytes) : List Bytes := if bs = [] then [] else [bs]

/-- A piece is all that is written. -/
theorem flatten_pieceOf (bs : Bytes) : (pieceOf bs).flatten = bs := by
  unfold pieceOf
  split
  · next h => rw [h, List.flatten_nil]
  · rw [List.flatten_singleton]

private theorem log2_key {number low : Nat} (h0 : 0 < number) (hlow : low < 8) :
    (number * 8 + low).log2 = number.log2 + 3 := by
  have step : ∀ m, 2 ≤ m → m.log2 = (m / 2).log2 + 1 := fun m hm ↦ by
    rw [Nat.log2_def, if_pos hm]
  have hdiv : (number * 8 + low) / 2 / 2 / 2 = number := by omega
  rw [step (number * 8 + low) (by omega), step ((number * 8 + low) / 2) (by omega),
    step ((number * 8 + low) / 2 / 2) (by omega), hdiv]

private theorem length_writeKey (number : Nat) (w : WireType) :
    (writeKey number w).length = keySize number := by
  rw [writeKey, length_writeVarint, keySize, varintSize, varintSize]
  by_cases h0 : number = 0
  · subst h0
    cases w <;> decide
  · have hw : w.number < 8 := by cases w <;> decide
    have hpos : 0 < number := Nat.pos_of_ne_zero h0
    rw [log2_key hpos hw, ← Nat.add_zero (number * 8), log2_key hpos (by omega)]

private theorem length_writeScalarField (s : Scalar) (number : Nat) (v : s.Value) :
    (writeScalarField s number v).length = scalarFieldSize s number v := by
  rw [writeScalarField, List.length_append, length_writeKey, Scalar.length_write, scalarFieldSize]

private theorem length_writeBlockField (number : Nat) (bs : Bytes) :
    (writeBlockField number bs).length = blockFieldSize number bs.length := by
  rw [writeBlockField, List.length_append, List.length_append, length_writeKey,
    length_writeVarint, blockFieldSize]

private theorem length_flatMap_eq_total {α : Type} {f : α → Bytes} {size : α → Nat}
    (h : ∀ a, (f a).length = size a) (l : List α) :
    (l.flatMap f).length = FieldType.total size l := by
  induction l with
  | nil => rfl
  | cons a l ih => rw [List.flatMap_cons, List.length_append, FieldType.total, h, ih]

private theorem LeafType.length_write (t : LeafType) (number : Nat) (v : t.Value) :
    (t.write number v).length = t.size number v := by
  cases t with
  | plain s =>
    show (if s.isZero v then [] else writeScalarField s number v).length =
      if s.isZero v then 0 else scalarFieldSize s number v
    by_cases h : s.isZero v
    · rw [if_pos h, if_pos h, List.length_nil]
    · rw [if_neg h, if_neg h, length_writeScalarField]
  | optional s =>
    cases v with
    | none => rfl
    | some v => exact length_writeScalarField s number v

/-- Bytes in which a leaf is written. -/
def LeafType.Writes (t : LeafType) (number : Nat) (v : t.Value) (bs : Bytes) : Prop :=
  bs = t.write number v

/-- What `write` has is the way to write a leaf. -/
theorem LeafType.writes_write (t : LeafType) (number : Nat) (v : t.Value) :
    t.Writes number v (t.write number v) := rfl

/-- The pieces of a leaf. -/
def LeafType.Pieces (t : LeafType) (number : Nat) (v : t.Value) (ps : List Bytes) : Prop :=
  ps = pieceOf (t.write number v)

/-- What is written of a leaf is a piece. -/
theorem LeafType.pieces_of_writes {t : LeafType} {number : Nat} {v : t.Value} {bs : Bytes}
    (h : t.Writes number v bs) : ∃ ps, t.Pieces number v ps ∧ ps.flatten = bs :=
  ⟨_, rfl, h ▸ flatten_pieceOf _⟩

/-- What `encode` has is the way to write a message of leaves. -/
theorem Schema.writes_encode_leaves (m : Schema LeafType) (v : m.Value) :
    Record.Writes LeafType.Writes m.fields v (m.encode v) :=
  Record.writes_write LeafType.writes_write m.fields v

/-- A message of leaves takes as many bytes as its size says. -/
theorem Schema.length_encode_leaves (m : Schema LeafType) (v : m.Value) :
    (m.encode v).length = m.size v := by
  refine Record.length_of_writes ?_ (m.writes_encode_leaves v)
  rintro t number v bs rfl
  exact t.length_write number v

namespace FieldType

private theorem length_writeEntry (s : Scalar) (number : Nat) (e : String × s.Value) :
    (writeEntry s number e).length = entrySize s number e := by
  rw [writeEntry, length_writeBlockField, List.length_append, LeafType.length_write,
    LeafType.length_write, entrySize]

/-- Bytes in which a field is written. The entries of a dictionary may come in any order. -/
def Writes : (t : FieldType) → (number : Nat) → t.Value → Bytes → Prop
  | dict s, number, v, bs =>
    ∃ es : List (String × s.Value), es.Perm v.entries ∧ bs = es.flatMap (writeEntry s number)
  | leaf t, number, v, bs => t.Writes number v bs
  | repeated s, number, v, bs => bs = (repeated s).write number v
  | message m, number, v, bs => bs = (message m).write number v

/-- What `write` has is a way to write a field. -/
theorem writes_write (t : FieldType) (number : Nat) (v : t.Value) :
    t.Writes number v (t.write number v) := by
  cases t with
  | dict s => exact ⟨v.entries, .refl _, rfl⟩
  | leaf t => rfl
  | repeated s => rfl
  | message m => rfl

/-- The pieces of a field, where messages in it are written in a way of their own. -/
def Pieces (inner : (m : Schema LeafType) → m.Value → Bytes → Prop) :
    (t : FieldType) → (number : Nat) → t.Value → List Bytes → Prop
  | leaf t, number, v, ps => t.Pieces number v ps
  | repeated .text, number, v, ps => ps = v.map (writeScalarField .text number)
  | repeated s, number, v, ps => ps = pieceOf ((repeated s).write number v)
  | dict s, number, v, ps =>
    ∃ es : List (String × s.Value), es.Perm v.entries ∧ ps = es.map (writeEntry s number)
  | message _, _, none, ps => ps = []
  | message m, number, some v, ps => ∃ bs, inner m v bs ∧ ps = [writeBlockField number bs]

/-- What is written of a field falls into its pieces. -/
theorem pieces_of_writes (inner : (m : Schema LeafType) → m.Value → Bytes → Prop)
    (hinner : ∀ m v, inner m v (m.encode v)) {t : FieldType} {number : Nat} {v : t.Value}
    {bs : Bytes} (h : t.Writes number v bs) :
    ∃ ps, t.Pieces inner number v ps ∧ ps.flatten = bs := by
  cases t with
  | leaf t => exact LeafType.pieces_of_writes h
  | repeated s =>
    obtain rfl : bs = (repeated s).write number v := h
    cases s with
    | text => exact ⟨_, rfl, (List.flatMap_def ..).symm⟩
    | int32 | uint64 | bool | double => exact ⟨_, rfl, flatten_pieceOf _⟩
  | dict s =>
    obtain ⟨es, hperm, rfl⟩ := h
    exact ⟨_, ⟨es, hperm, rfl⟩, (List.flatMap_def ..).symm⟩
  | message m =>
    obtain rfl : bs = (message m).write number v := h
    cases v with
    | none => exact ⟨[], rfl, rfl⟩
    | some v => exact ⟨_, ⟨m.encode v, hinner m v, rfl⟩, List.flatten_singleton⟩

private theorem length_packed (s : Scalar) (number : Nat) (v : List s.Value) :
    (if v.isEmpty then [] else writeBlockField number (v.flatMap s.write)).length =
      if v.isEmpty then 0 else blockFieldSize number (total s.size v) := by
  by_cases h : v.isEmpty
  · rw [if_pos h, if_pos h, List.length_nil]
  · rw [if_neg h, if_neg h, length_writeBlockField, length_flatMap_eq_total s.length_write]

/-- However a field is written, it takes as many bytes as its size says. -/
theorem length_of_writes (t : FieldType) (number : Nat) (v : t.Value) (bs : Bytes)
    (h : t.Writes number v bs) : bs.length = t.size number v := by
  cases t with
  | leaf t =>
    rw [show bs = t.write number v from h]
    exact t.length_write number v
  | repeated s =>
    rw [show bs = (repeated s).write number v from h]
    cases s with
    | text => exact length_flatMap_eq_total (length_writeScalarField .text number) v
    | int32 => exact length_packed .int32 number v
    | uint64 => exact length_packed .uint64 number v
    | bool => exact length_packed .bool number v
    | double => exact length_packed .double number v
  | dict s =>
    obtain ⟨es, hperm, rfl⟩ := h
    rw [(hperm.flatMap_right _).length_eq]
    exact length_flatMap_eq_total (length_writeEntry s number) v.entries
  | message m =>
    rw [show bs = (message m).write number v from h]
    cases v with
    | none => rfl
    | some v =>
      show (writeBlockField number (m.encode v)).length = blockFieldSize number (m.size v)
      rw [length_writeBlockField, m.length_encode_leaves]

end FieldType

namespace Schema

variable (m : Schema FieldType)

/-- Bytes in which a message is written. The entries of a dictionary may come in any order. -/
def Writes (v : m.Value) (bs : Bytes) : Prop := Record.Writes FieldType.Writes m.fields v bs

/-- What `encode` has is a way to write a message. -/
theorem writes_encode (v : m.Value) : m.Writes v (m.encode v) :=
  Record.writes_write FieldType.writes_write m.fields v

/-- However a message is written, it takes as many bytes as its size says. -/
theorem length_of_writes {v : m.Value} {bs : Bytes} (h : m.Writes v bs) : bs.length = m.size v :=
  Record.length_of_writes FieldType.length_of_writes h

end Schema

end CentroidRpc.Wire
