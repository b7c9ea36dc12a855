import CentroidRpc.Proofs.Wire.Exact
import CentroidRpc.Proofs.Wire.Undeclared
import Mathlib.Data.List.Forall2

/-!
# Packed values

Values of a repeated field may come packed, one after the other in a part of stated length, or each
with a key of its own. Either way they are appended to those before them. A part that ends inside of
its last element is refused, whatever comes after it (`Reader.delimited_unfinished`).
-/

namespace CentroidRpc.Wire

namespace Reader

variable {α σ : Type} {step : σ → Reader σ} {s s' : σ}

private theorem elementsIn_succ {limit : Nat} {bs : Bytes} (h : limit < bs.length) (turns : Nat)
    (s : σ) :
    elementsIn limit step (turns + 1) s bs =
      (step s bs).bind fun p ↦ elementsIn limit step turns p.1 p.2 := by
  rw [elementsIn, remaining_bind, if_neg (Nat.not_le_of_lt h), bind_apply]

private theorem elementsIn_of_le {limit : Nat} {bs : Bytes} (h : bs.length ≤ limit) (turns : Nat)
    (s : σ) :
    elementsIn limit step turns s bs = .ok (s, bs) := by
  cases turns with
  | zero => rfl
  | succ turns =>
    rw [elementsIn, remaining_bind, if_pos h]
    rfl

/-- A fault behind elements is the fault of them all. -/
theorem Steps.elements_error {bs rest : Bytes} (h : Steps step s bs s') (hne : rest ≠ [])
    {fault : Fault} (hfail : step s' rest = .error fault) :
    Reader.elements 0 step s (bs ++ rest) = .error fault := by
  have hpos : 0 < rest.length := List.length_pos_iff.2 hne
  have hlength : (bs ++ rest).length = bs.length + rest.length := List.length_append
  obtain ⟨left, hleft, hread⟩ :=
    h.elementsIn_append (Nat.zero_le rest.length) (bs ++ rest).length (by omega)
  obtain ⟨turns, rfl⟩ : ∃ turns, left = turns + 1 := ⟨left - 1, by omega⟩
  rw [Reader.elements, remaining_bind, hread, elementsIn_succ hpos, hfail]
  rfl

/-- A part of stated length ends inside of its last element: what comes after the part is taken too,
and the part is refused. If the element cannot be taken even so, this is the fault. -/
theorem delimited_unfinished {front bs inside rest : Bytes} (hsteps : Steps step s bs s')
    (hlength : Takes varint front (bs ++ inside).length) (hne : inside ≠ [])
    (hpast : ∀ s'' left, step s' (inside ++ rest) = .ok (s'', left) → left.length < rest.length) :
    delimited step s (front ++ (bs ++ (inside ++ rest))) =
      .error (match step s' (inside ++ rest) with
        | .ok _ => .ofCause .overrun
        | .error fault => fault) := by
  have hpos : 0 < inside.length := List.length_pos_iff.2 hne
  have hall : (bs ++ (inside ++ rest)).length = bs.length + (inside.length + rest.length) := by
    rw [List.length_append, List.length_append]
  have hpart : (bs ++ inside).length = bs.length + inside.length := List.length_append
  have htoo : rest.length < (inside ++ rest).length := by
    rw [List.length_append]
    omega
  obtain ⟨left, hleft, hread⟩ := hsteps.elementsIn_append (Nat.le_of_lt htoo)
    (bs ++ (inside ++ rest)).length (by omega)
  obtain ⟨turns, rfl⟩ : ∃ turns, left = turns + 1 := ⟨left - 1, by omega⟩
  have hlimit : (bs ++ (inside ++ rest)).length - (bs ++ inside).length = rest.length := by omega
  rw [delimited, bind_apply, hlength]
  simp only [Except.bind]
  rw [remaining_bind, if_neg (by omega), hlimit, bind_apply, Reader.elements, remaining_bind, hread,
    elementsIn_succ htoo]
  cases hlast : step s' (inside ++ rest) with
  | error fault => rfl
  | ok p =>
    have hshort := hpast p.1 p.2 hlast
    simp only [Except.bind]
    rw [elementsIn_of_le (Nat.le_of_lt hshort)]
    simp only [remaining_bind]
    rw [if_neg (Nat.ne_of_lt hshort)]
    rfl

end Reader

open Reader

private theorem length_lt_of_readGroups? {inside rest left : Bytes} {room n : Nat}
    (hinside : ∀ b ∈ inside, 128 ≤ b) (h : readGroups? room (inside ++ rest) = some (n, left)) :
    left.length < rest.length := by
  induction inside generalizing room n with
  | nil =>
    obtain ⟨taken, htaken, hread⟩ := readGroups?_eq_some h
    rw [List.nil_append] at htaken
    have hne : taken ≠ [] := by
      rintro rfl
      have hnothing := hread []
      cases room <;> cases hnothing
    have hpos : 0 < taken.length := List.length_pos_iff.2 hne
    rw [htaken, List.length_append]
    omega
  | cons b inside ih =>
    cases room with
    | zero => cases h
    | succ room =>
      have hb : 128 ≤ b := hinside b List.mem_cons_self
      rw [List.cons_append, readGroups?, if_neg (UInt8.not_lt.2 hb)] at h
      obtain ⟨⟨high, tail⟩, htail, hvalue⟩ := Option.map_eq_some_iff.1 h
      obtain ⟨-, rfl⟩ := Prod.mk.inj hvalue
      exact ih (fun c hc ↦ hinside c (List.mem_cons_of_mem b hc)) htail

/-- A number is not finished by bytes that have their highest bit set. -/
theorem varint_unfinished {inside rest left : Bytes} {n : Nat} (hinside : ∀ b ∈ inside, 128 ≤ b)
    (h : varint (inside ++ rest) = .ok (n, left)) : left.length < rest.length := by
  cases hread : readVarint? (inside ++ rest) with
  | none =>
    simp only [varint, hread] at h
    cases h
  | some p =>
    simp only [varint, hread] at h
    obtain rfl := Except.ok.inj h
    exact length_lt_of_readGroups? hinside hread

/-- A text is taken however its length is spelt. -/
theorem Scalar.takes_text {id : String} {length : Bytes} (h : Spells id.utf8ByteSize length) :
    Takes Scalar.text.read (length ++ id.toUTF8.data.toList) id := by
  have hlength : Spells id.toUTF8.data.toList.length length := by
    rwa [Scalar.length_toUTF8]
  have hblock : Takes Scalar.text.read (length ++ id.toUTF8.data.toList ++ []) id := by
    refine (takes_block hlength).bind ?_
    rw [Scalar.fromUTF8?_toUTF8]
    exact takes_pure id
  rwa [List.append_nil] at hblock

namespace FieldType

variable {s : Scalar} {values : List s.Value} {ps : List Bytes}

/-- Values that stand one after the other are appended one after the other. -/
theorem steps_values (h : List.Forall₂ (fun v p ↦ Takes s.read p v) values ps)
    (old : List s.Value) :
    Steps (fun vs ↦ do return vs ++ [← s.read]) old ps.flatten (old ++ values) := by
  induction h generalizing old with
  | nil =>
    rw [List.append_nil]
    exact .done old
  | @cons v p values ps hv _ ih =>
    have hmore := ih (old ++ [v])
    rw [List.append_assoc, List.singleton_append] at hmore
    exact .next (s.needy_read.ne_nil hv) (hv.map fun v ↦ old ++ [v]) hmore

/-- How a packed part is read. -/
theorem merge_packed (hs : s ≠ .text) (depth : Nat) (old : List s.Value) :
    (repeated s).merge .lengthDelimited depth old =
      Reader.delimited (fun vs ↦ do return vs ++ [← s.read]) old :=
  if_pos ⟨hs, rfl⟩

/-- The values of a packed part are appended, be there any or none. -/
theorem takes_packed (hs : s ≠ .text) (h : List.Forall₂ (fun v p ↦ Takes s.read p v) values ps)
    {front : Bytes} (hlength : Takes varint front ps.flatten.length) (depth : Nat)
    (old : List s.Value) :
    Takes ((repeated s).merge .lengthDelimited depth old) (front ++ ps.flatten)
      (old ++ values) := by
  rw [merge_packed hs]
  exact (steps_values h old).delimited_of_takes hlength

/-- A value with a key of its own is appended. -/
theorem takes_unpacked {v : s.Value} {bs : Bytes} (h : Takes s.read bs v) (depth : Nat)
    (old : List s.Value) :
    Takes ((repeated s).merge s.wire depth old) bs (old ++ [v]) := by
  have hmerge : (repeated s).merge s.wire depth old = (do return old ++ [← s.readAs s.wire]) := by
    refine if_neg ?_
    rintro ⟨hs, hwire⟩
    cases s with
    | text => exact hs rfl
    | _ => cases hwire
  rw [hmerge]
  exact ((takes_expect s.wire).bind h).map fun v ↦ old ++ [v]

/-- A packed part that ends inside of its last value is refused. -/
theorem packed_unfinished (hs : s ≠ .text)
    (h : List.Forall₂ (fun v p ↦ Takes s.read p v) values ps) {front inside rest : Bytes}
    (hlength : Takes varint front (ps.flatten ++ inside).length) (hne : inside ≠ [])
    (hpast : ∀ v left, s.read (inside ++ rest) = .ok (v, left) → left.length < rest.length)
    (depth : Nat) (old : List s.Value) :
    (repeated s).merge .lengthDelimited depth old (front ++ (ps.flatten ++ (inside ++ rest))) =
      .error (match s.read (inside ++ rest) with
        | .ok _ => .ofCause .overrun
        | .error fault => fault) := by
  have hlast (new : List s.Value) (left : Bytes)
      (hread : (do return old ++ values ++ [← s.read] : Reader (List s.Value)) (inside ++ rest) =
        .ok (new, left)) : left.length < rest.length := by
    obtain ⟨v, left', hv, hpure⟩ := bind_eq_ok.1 hread
    cases hpure
    exact hpast v left hv
  rw [merge_packed hs, delimited_unfinished (steps_values h old) hlength hne hlast, bind_apply]
  cases s.read (inside ++ rest) <;> rfl

end FieldType

end CentroidRpc.Wire
