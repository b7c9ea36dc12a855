import CentroidRpc.Proofs.Wire.Merging
import CentroidRpc.Proofs.Wire.Undeclared

/-!
# What newer senders write

A newer sender may write fields that a message does not declare, among the pieces of the message and
among those of a message in it (`Schema.WritesNewer`). A message is read piece by piece, and what is
not declared is passed over, so it is read as if the sender were not newer
(`Schema.decode_of_writesNewer`).
-/

namespace CentroidRpc.Wire

/-- Pieces one after the other, with any number of extra ones between them, before and behind. -/
inductive Interspersed (extra : Bytes → Prop) : List Bytes → Bytes → Prop where
  | nil : Interspersed extra [] []
  | piece (p : Bytes) {ps : List Bytes} {bs : Bytes} (more : Interspersed extra ps bs) :
      Interspersed extra (p :: ps) (p ++ bs)
  | extra {e : Bytes} (h : extra e) {ps : List Bytes} {bs : Bytes}
      (more : Interspersed extra ps bs) : Interspersed extra ps (e ++ bs)

private theorem interspersed_flatten (extra : Bytes → Prop) (ps : List Bytes) :
    Interspersed extra ps ps.flatten := by
  induction ps with
  | nil => exact .nil
  | cons p ps ih => exact .piece p ih

private theorem Interspersed.length_le {extra : Bytes → Prop} {ps : List Bytes} {bs : Bytes}
    (h : Interspersed extra ps bs) : ps.flatten.length ≤ bs.length := by
  induction h with
  | nil => exact Nat.le_refl _
  | piece p more ih =>
    rw [List.flatten_cons, List.length_append, List.length_append]
    exact Nat.add_le_add_left ih _
  | extra h more ih =>
    rw [List.length_append]
    exact Nat.le_add_left_of_le ih

/-- Extra pieces that are passed over do not change what is read. -/
theorem Reader.Chain.steps {σ : Type} {merge : Key → σ → Reader σ} {numbers : List Nat} {s s' : σ}
    {ps : List Bytes} (h : Chain merge numbers s ps s')
    (hnumbers : ∀ n ∈ numbers, 0 < n ∧ n * 8 < UInt32.size) {extra : Bytes → Prop}
    (hextra : ∀ e, extra e → e ≠ [] ∧ ∀ s, Takes (do merge (← key) s) e s) {bs : Bytes}
    (hbs : Interspersed extra ps bs) : Steps (fun s ↦ do merge (← key) s) s bs s' := by
  induction hbs generalizing s with
  | nil =>
    cases h
    exact .done _
  | piece p more ih =>
    cases h with
    | next fields others => exact (fields.steps hnumbers).append (ih others)
  | extra he more ih =>
    obtain ⟨hne, htake⟩ := hextra _ he
    exact .next hne (htake s) (ih h)

open Reader

namespace Schema

section Fields

variable {τ : Type} [FieldSort τ]
  {pieces : (t : τ) → (number : Nat) → FieldSort.Value t → List Bytes → Prop}

/-- Bytes in which a message is written whose fields fall into pieces, with fields among them that
it does not declare and in which at most `levels` groups lie in each other. -/
def Newer (pieces : (t : τ) → (number : Nat) → FieldSort.Value t → List Bytes → Prop)
    (levels : Nat) (m : Schema τ) (v : m.Value) (bs : Bytes) : Prop :=
  ∃ ps, Record.Pieces pieces m.fields v ps ∧ Interspersed (m.Undeclared levels) ps bs

/-- A message that is read over an old one is laid over it, whatever stands among its pieces. -/
theorem steps_of_newer
    {overlay : (t : τ) → FieldSort.Value t → FieldSort.Value t → FieldSort.Value t} {m : Schema τ}
    (hm : m.Numbered) {levels depth : Nat} (hdepth : levels ≤ depth)
    (hfield : ∀ f ∈ m.fields, ∀ old new ps, ps.flatten.length < UInt64.size →
      pieces f.type f.number new ps →
      Chain (fun k v ↦ FieldSort.merge f.type k.wire (depth + 1) v) [f.number] old ps
        (overlay f.type old new))
    (old new : m.Value) {bs : Bytes} (hlen : bs.length < UInt64.size)
    (h : m.Newer pieces levels new bs) :
    Steps (m.mergeNext (depth + 1)) old bs (Record.zipFields overlay m.fields old new) := by
  obtain ⟨ps, hps, hbs⟩ := h
  have hpieces : ps.flatten.length < UInt64.size := Nat.lt_of_le_of_lt hbs.length_le hlen
  refine (Record.chain_of_pieces hm.nodup hfield old new hpieces hps).steps hm.bounds ?_ hbs
  exact fun e he ↦ ⟨he.ne_nil, he.takes hdepth⟩

end Fields

/-- A message of leaves that is read over an old one is laid over it, whatever stands among its
pieces. -/
theorem steps_of_newer_leaves {m : Schema LeafType} (hm : m.Numbered) {levels depth : Nat}
    (hdepth : levels ≤ depth) (old new : m.Value) {bs : Bytes} (hlen : bs.length < UInt64.size)
    (h : m.Newer LeafType.Pieces levels new bs) :
    Steps (m.mergeNext (depth + 1)) old bs
      (Record.zipFields LeafType.overlay m.fields old new) := by
  refine steps_of_newer hm hdepth ?_ old new hlen h
  rintro f - old new _ hps rfl
  rw [flatten_pieceOf] at hps
  exact chain_pieceOf (f.type.fields_write f.number old new hps)

variable {m : Schema FieldType}

/-- Bytes that a newer sender writes of a message: fields that are not declared may stand among its
pieces, and among those of a message in it. At most `levels` groups lie in each other. -/
def WritesNewer (m : Schema FieldType) (levels : Nat) (v : m.Value) (bs : Bytes) : Prop :=
  m.Newer (FieldType.Pieces fun inner v bs ↦ inner.Newer LeafType.Pieces levels v bs) levels v bs

/-- A newer sender need not write anything new. -/
theorem writesNewer_of_writes {v : m.Value} {bs : Bytes} (h : m.Writes v bs) (levels : Nat) :
    m.WritesNewer levels v bs := by
  have hinner : ∀ (inner : Schema LeafType) (v : inner.Value),
      inner.Newer LeafType.Pieces levels v (inner.encode v) := by
    intro inner v
    obtain ⟨ps, hps, hbs⟩ := Record.pieces_of_writes LeafType.Pieces
      (fun _ _ _ _ hwrites ↦ LeafType.pieces_of_writes hwrites) (inner.writes_encode_leaves v)
    exact ⟨ps, hps, hbs ▸ interspersed_flatten _ ps⟩
  obtain ⟨ps, hps, rfl⟩ := Record.pieces_of_writes _
    (fun _ _ _ _ hwrites ↦ FieldType.pieces_of_writes _ hinner hwrites) h
  exact ⟨ps, hps, interspersed_flatten _ ps⟩

/-- What a newer sender writes is read over an old value as if the sender were not newer. -/
theorem steps_of_writesNewer (hm : m.WellNumbered) {levels depth : Nat} (hdepth : levels ≤ depth)
    (old new : m.Value) {bs : Bytes} (hlen : bs.length < UInt64.size)
    (h : m.WritesNewer levels new bs) :
    Steps (m.mergeNext (depth + 2)) old bs (m.overlay old new) := by
  refine steps_of_newer hm.numbered (Nat.le_succ_of_le hdepth) ?_ old new hlen h
  intro f hf old new ps hps hpieces
  refine FieldType.chain_of_pieces ?_ f.number old new hps hpieces
  intro inner ht old new bs hbs hnewer
  have hinner : f.type.Numbered := hm.nested f hf
  rw [ht] at hinner
  exact steps_of_newer_leaves hinner hdepth old new hbs hnewer

/-- What a newer sender writes is read back but for the signs of zeros. -/
theorem decode_of_writesNewer (hm : m.WellNumbered) {levels : Nat} (hlevels : levels ≤ 98)
    {v : m.Value} {bs : Bytes} (hlen : bs.length < UInt64.size) (h : m.WritesNewer levels v bs) :
    m.decode bs = .ok (m.positiveZero v) := by
  have hsteps := steps_of_writesNewer hm hlevels m.absent v hlen h
  rw [m.absent_overlay] at hsteps
  exact decode_eq_ok_iff.2 hsteps

end Schema

end CentroidRpc.Wire
