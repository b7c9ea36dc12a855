import CentroidRpc.Proofs.Wire.Exact
import CentroidRpc.Proofs.Wire.Spelling

/-!
# Fields that are not declared

A well-formed field that a message does not declare is passed over from its key to its last byte
(`Schema.Undeclared.takes`), whatever lies in it: numbers in any spelling, blocks of any bytes, and
groups in groups as long as they do not lie deeper than the reader goes.
-/

namespace CentroidRpc.Wire

/-- Bytes that stand for a key. -/
structure SpellsKey (k : Key) (bs : Bytes) : Prop where
  positive : 0 < k.number
  bounded : k.number * 8 + k.wire.number < UInt32.size
  spells : Spells (k.number * 8 + k.wire.number) bs

/-- A small key is spelt by its one byte. -/
theorem spellsKey_byte {k : Key} {b : UInt8}
    (h : 0 < k.number ∧ b < 128 ∧ b.toNat = k.number * 8 + k.wire.number) : SpellsKey k [b] := by
  obtain ⟨hpositive, hsmall, hvalue⟩ := h
  have hbyte : b.toNat < 128 := UInt8.lt_iff_toNat_lt.1 hsmall
  refine ⟨hpositive, ?_, hvalue ▸ spells_byte hsmall⟩
  rw [← hvalue, UInt32.size]
  omega

/-- A key of 32 bits is spelt by what is written of it. -/
theorem spellsKey_writeKey {number : Nat} (h0 : 0 < number) (h : number * 8 < UInt32.size)
    (w : WireType) : SpellsKey ⟨number, w⟩ (writeKey number w) := by
  have hw := Reader.wireNumber_lt w
  have hsize : number * 8 + w.number < UInt32.size := by
    simp only [UInt32.size] at h ⊢
    omega
  exact ⟨h0, hsize, spells_writeVarint (Nat.lt_trans hsize (by decide))⟩

/-- Bytes that follow a key, where at most `levels` groups lie in each other. A group is fields, and
the key that ends it. -/
inductive Payload : (levels : Nat) → Key → Bytes → Prop where
  | varint {levels number n : Nat} {bs : Bytes} (h : Spells n bs) :
      Payload levels ⟨number, .varint⟩ bs
  | sixtyFourBit {levels number : Nat} {bs : Bytes} (h : bs.length = 8) :
      Payload levels ⟨number, .sixtyFourBit⟩ bs
  | thirtyTwoBit {levels number : Nat} {bs : Bytes} (h : bs.length = 4) :
      Payload levels ⟨number, .thirtyTwoBit⟩ bs
  | lengthDelimited {levels number : Nat} {front bs : Bytes} (h : Spells bs.length front) :
      Payload levels ⟨number, .lengthDelimited⟩ (front ++ bs)
  | groupEnd {levels number : Nat} {bs : Bytes} (h : SpellsKey ⟨number, .endGroup⟩ bs) :
      Payload (levels + 1) ⟨number, .startGroup⟩ bs
  | groupField {levels number : Nat} {k : Key} {front field rest : Bytes} (hkey : SpellsKey k front)
      (hfield : Payload levels k field) (more : Payload (levels + 1) ⟨number, .startGroup⟩ rest) :
      Payload (levels + 1) ⟨number, .startGroup⟩ (front ++ (field ++ rest))

/-- No field begins with the end of a group. -/
theorem Payload.wire_ne {levels : Nat} {k : Key} {bs : Bytes} (h : Payload levels k bs) :
    k.wire ≠ .endGroup := by
  cases h <;> nofun

namespace Reader

variable {α : Type} {bs : Bytes}

/-- A key is taken however it is spelt. -/
theorem takes_key_of_spells {k : Key} (h : SpellsKey k bs) : Takes key bs k :=
  takes_key_of_takes h.positive h.bounded h.spells.takes

private theorem Takes.discard {r : Reader α} {a : α} (h : Takes r bs a) :
    Takes (discard r) bs () := by
  rw [discard_eq_bind]
  exact h.map fun _ ↦ ()

private theorem takes_take (bs : Bytes) : Takes (take bs.length) bs bs := take_append bs

/-- Bytes with their number before them, however it is spelt, are taken. -/
theorem takes_block {front : Bytes} (h : Spells bs.length front) :
    Takes block (front ++ bs) bs :=
  h.takes.bind (takes_take bs)

variable {skip : Key → Reader Unit} {number : Nat}

/-- A group ends with its key. -/
theorem takes_group_end (h : SpellsKey ⟨number, .endGroup⟩ bs) :
    Takes (group skip number) bs () := by
  intro rest
  rw [group, remaining_bind, groupIn, bind_apply, takes_key_of_spells h rest]
  simp only [Except.bind, if_true, pure_apply]

/-- In a group a field may stand before others. -/
theorem takes_group_field (hskip : ∀ k, Exact (skip k)) {k : Key} {front field others : Bytes}
    (hkey : SpellsKey k front) (hwire : k.wire ≠ .endGroup) (hfield : Takes (skip k) field ())
    (more : Takes (group skip number) others ()) :
    Takes (group skip number) (front ++ (field ++ others)) () := by
  intro rest
  -- The other fields alone are read with fewer turns than there are for all of them.
  have hothers := more rest
  rw [group, remaining_bind] at hothers
  obtain ⟨taken, htaken, hread⟩ := groupIn_eq_ok hskip hothers
  obtain rfl : others = taken := List.append_cancel_right htaken
  have hlength : others.length < (front ++ (field ++ others) ++ rest).length := by
    have hfront : 0 < front.length :=
      List.length_pos_iff.2 (needy_key.ne_nil (takes_key_of_spells hkey))
    simp only [List.length_append]
    omega
  rw [group, remaining_bind, groupIn, bind_apply, List.append_assoc, takes_key_of_spells hkey]
  show (if k.wire = .endGroup then _ else _ : Reader Unit) _ = _
  rw [if_neg hwire, bind_apply, List.append_assoc, hfield]
  rw [List.append_assoc, List.append_assoc] at hlength
  exact hread rest _ hlength

end Reader

open Reader

/-- What follows a key is passed over to its end if the reader goes deeper than the groups in it. -/
theorem Payload.takes {levels depth : Nat} {k : Key} {bs : Bytes} (h : Payload levels k bs)
    (hdepth : levels ≤ depth) : Takes (skipField (depth + 1) k) bs () := by
  induction h generalizing depth with
  | varint h => exact h.takes.discard
  | sixtyFourBit h => exact (h ▸ takes_take _).discard
  | thirtyTwoBit h => exact (h ▸ takes_take _).discard
  | lengthDelimited h => exact (takes_block h).discard
  | groupEnd h => exact takes_group_end h
  | groupField hkey hfield more ih ihmore =>
    cases depth with
    | zero => exact absurd hdepth (Nat.not_succ_le_zero _)
    | succ depth =>
      exact takes_group_field (exact_skipField (depth + 1)) hkey hfield.wire_ne
        (ih (Nat.le_of_succ_le_succ hdepth)) (ihmore hdepth)

variable {τ : Type}

/-- Bytes of a field that a message does not declare, where at most `levels` groups lie in each
other. -/
def Schema.Undeclared (m : Schema τ) (levels : Nat) (bs : Bytes) : Prop :=
  ∃ k front payload, bs = front ++ payload ∧ k.number ∉ m.fields.map (·.number) ∧
    SpellsKey k front ∧ Payload levels k payload

/-- A field that is not declared is not nothing. -/
theorem Schema.Undeclared.ne_nil {m : Schema τ} {levels : Nat} {bs : Bytes}
    (h : m.Undeclared levels bs) : bs ≠ [] := by
  obtain ⟨k, front, payload, rfl, -, hkey, -⟩ := h
  exact List.append_ne_nil_of_left_ne_nil (needy_key.ne_nil (takes_key_of_spells hkey)) payload

variable [FieldSort τ]

/-- A field with a number that is not declared is passed over, and the record stays as it is. -/
theorem Record.takes_mergeField (message : String) {k : Key} {depth : Nat}
    {fs : List (FieldDecl τ)} (hk : k.number ∉ fs.map (·.number)) {bs : Bytes}
    (h : Takes (skipField depth k) bs ()) (r : Record fs) :
    Takes (mergeField message k depth fs r) bs r := by
  induction fs with
  | nil => exact h.map fun _ ↦ r
  | cons f fs ih =>
    obtain ⟨v, r⟩ := r
    rw [List.map_cons, List.mem_cons, not_or] at hk
    rw [mergeField, if_neg (Ne.symm hk.1)]
    exact (ih hk.2 r).map fun r ↦ (v, r)

/-- A field that is not declared is taken, and the message stays as it is. -/
theorem Schema.Undeclared.takes {m : Schema τ} {levels depth : Nat} {bs : Bytes}
    (h : m.Undeclared levels bs) (hdepth : levels ≤ depth) (r : m.Value) :
    Takes (m.mergeNext (depth + 1) r) bs r := by
  obtain ⟨k, front, payload, rfl, hk, hkey, hpayload⟩ := h
  exact (takes_key_of_spells hkey).bind
    (Record.takes_mergeField m.name hk (hpayload.takes hdepth) r)

end CentroidRpc.Wire
