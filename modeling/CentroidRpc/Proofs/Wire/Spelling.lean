import CentroidRpc.Proofs.Wire.Takes

/-!
# Numbers in more bytes than they need

A number of variable length may be written with more groups than it has: those above it are zero.
Every such way is read as the number (`Spells.takes`).
-/

namespace CentroidRpc.Wire

/-- The number that groups of seven bits stand for, the lowest group first. -/
def ofGroups : Bytes → Nat
  | [] => 0
  | b :: rest => b.toNat % 128 + 128 * ofGroups rest

/-- Bytes that stand for a number of 64 bits: at most ten, of which all but the last have their
highest bit set. -/
structure Spells (n : Nat) (bs : Bytes) : Prop where
  bounded : n < UInt64.size
  value : ofGroups bs = n
  length : bs.length ≤ 10
  ended : ∃ front last, bs = front ++ [last] ∧ (∀ b ∈ front, 128 ≤ b) ∧ last < 128

/-- A small number is spelt by its one byte. -/
theorem spells_byte {b : UInt8} (h : b < 128) : Spells b.toNat [b] := by
  have hsmall : b.toNat < 128 := UInt8.lt_iff_toNat_lt.1 h
  refine ⟨Nat.lt_trans hsmall (by decide), ?_, Nat.le_add_left 1 9, [], b, rfl, nofun, h⟩
  show b.toNat % 128 + 128 * 0 = b.toNat
  omega

private theorem ofGroups_writeVarint (n : Nat) : ofGroups (writeVarint n) = n := by
  induction n using Nat.strongRecOn with
  | _ n ih =>
    rw [writeVarint]
    split
    · simp only [ofGroups, UInt8.toNat_ofNat']
      omega
    · rw [ofGroups, ih (n / 128) (by omega), UInt8.toNat_ofNat']
      omega

private theorem exists_writeVarint_eq (n : Nat) :
    ∃ front last, writeVarint n = front ++ [last] ∧ (∀ b ∈ front, 128 ≤ b) ∧ last < 128 := by
  induction n using Nat.strongRecOn with
  | _ n ih =>
    rw [writeVarint]
    split
    · refine ⟨[], UInt8.ofNat n, rfl, List.forall_mem_nil _, ?_⟩
      rw [UInt8.lt_iff_toNat_lt, UInt8.toNat_ofNat']
      show n % 256 < 128
      omega
    · obtain ⟨front, last, hwrite, hfront, hlast⟩ := ih (n / 128) (by omega)
      have hall : UInt8.ofNat (n % 128 + 128) :: writeVarint (n / 128) =
          UInt8.ofNat (n % 128 + 128) :: front ++ [last] := by rw [hwrite, List.cons_append]
      refine ⟨_, last, hall, List.forall_mem_cons.2 ⟨?_, hfront⟩, hlast⟩
      rw [UInt8.le_iff_toNat_le, UInt8.toNat_ofNat']
      show 128 ≤ (n % 128 + 128) % 256
      omega

/-- A number of 64 bits is spelt by what is written of it. -/
theorem spells_writeVarint {n : Nat} (h : n < UInt64.size) : Spells n (writeVarint n) := by
  refine ⟨h, ofGroups_writeVarint n, ?_, exists_writeVarint_eq n⟩
  rw [length_writeVarint, varintSize]
  have hlog : n.log2 < 64 := by
    by_cases h0 : n = 0
    · subst h0
      decide
    · exact (Nat.log2_lt h0).2 h
  omega

private theorem readGroups?_eq_ofGroups {front : Bytes} {last : UInt8}
    (hfront : ∀ b ∈ front, 128 ≤ b) (hlast : last < 128) {room : Nat} (hroom : front.length ≤ room)
    (hvalue : ofGroups (front ++ [last]) < capacity room) (rest : Bytes) :
    readGroups? (room + 1) (front ++ [last] ++ rest) =
      some (ofGroups (front ++ [last]), rest) := by
  -- Each group that is not the last one takes one place of the room.
  induction front generalizing room with
  | nil =>
    have hsmall : last.toNat < 128 := UInt8.lt_iff_toNat_lt.1 hlast
    have hgroups : ofGroups ([] ++ [last]) = last.toNat := by
      simp only [List.nil_append, ofGroups]
      omega
    rw [hgroups] at hvalue ⊢
    have hfits : ¬ (room = 0 && 1 < last) = true := by
      simp only [Bool.and_eq_true, decide_eq_true_eq, not_and, UInt8.lt_iff_toNat_lt]
      rintro rfl
      simp only [capacity] at hvalue
      exact Nat.not_lt.2 (Nat.le_of_lt_succ hvalue)
    show readGroups? (room + 1) (last :: rest) = _
    rw [readGroups?, if_pos hlast, if_neg hfits]
  | cons b front ih =>
    cases room with
    | zero => exact absurd hroom (Nat.not_succ_le_zero _)
    | succ room =>
      have hb : 128 ≤ b := hfront b List.mem_cons_self
      have hgroup : b.toNat % 128 = b.toNat - 128 := by
        have hlow : 128 ≤ b.toNat := UInt8.le_iff_toNat_le.1 hb
        have hhigh := b.toNat_lt
        omega
      have hrest : ofGroups (front ++ [last]) < capacity room := by
        rw [List.cons_append, ofGroups, capacity] at hvalue
        omega
      have hread := ih (fun c hc ↦ hfront c (List.mem_cons_of_mem b hc))
        (Nat.le_of_succ_le_succ hroom) hrest
      rw [List.cons_append, List.cons_append, readGroups?, if_neg (UInt8.not_lt.2 hb), hread,
        ofGroups, hgroup]
      rfl

/-- A number is read however it is spelt. -/
theorem Spells.takes {n : Nat} {bs : Bytes} (h : Spells n bs) :
    Reader.Takes Reader.varint bs n := by
  obtain ⟨front, last, rfl, hfront, hlast⟩ := h.ended
  intro rest
  have hroom : front.length ≤ 9 := by
    have hlength := h.length
    rw [List.length_append, List.length_singleton] at hlength
    omega
  have hvalue : ofGroups (front ++ [last]) < capacity 9 := h.value.symm ▸ h.bounded
  have hread : readVarint? (front ++ [last] ++ rest) = some (n, rest) := by
    rw [← h.value]
    exact readGroups?_eq_ofGroups hfront hlast hroom hvalue rest
  simp only [Reader.varint, hread]

end CentroidRpc.Wire
