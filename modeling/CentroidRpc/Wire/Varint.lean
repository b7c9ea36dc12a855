/-!
# Numbers of variable length

A number is written in groups of seven bits, the lowest group first, and every byte but the last
has its highest bit set. A reader accepts up to ten bytes whose value fits in 64 bits, and it
reads back what is written (`readVarint?_writeVarint`).
-/

namespace CentroidRpc.Wire

/-- A sequence of bytes. -/
abbrev Bytes := List UInt8

/-- The groups of seven bits of a number, from the lowest one up. -/
def writeVarint (n : Nat) : Bytes :=
  if n < 128 then [UInt8.ofNat n]
  else UInt8.ofNat (n % 128 + 128) :: writeVarint (n / 128)
termination_by n
decreasing_by omega

/-- How many groups of seven bits a number has. -/
def varintSize (n : Nat) : Nat := n.log2 / 7 + 1

/-- Reads a number of at most `room` groups, with the bytes after it. The tenth group of ten has
room for one bit. -/
def readGroups? : Nat → Bytes → Option (Nat × Bytes)
  | 0, _ => none
  | _ + 1, [] => none
  | room + 1, b :: rest =>
    if b < 128 then if room = 0 && 1 < b then none else some (b.toNat, rest)
    else (readGroups? room rest).map fun r ↦ (b.toNat - 128 + 128 * r.1, r.2)

/-- Reads a number of 64 bits, with the bytes after it. -/
def readVarint? (bs : Bytes) : Option (Nat × Bytes) := readGroups? 10 bs

/-- At least one byte is written. -/
theorem writeVarint_ne_nil (n : Nat) : writeVarint n ≠ [] := by
  rw [writeVarint]
  split <;> simp

private theorem log2_eq_add_seven {n : Nat} (h : 128 ≤ n) : n.log2 = (n / 128).log2 + 7 := by
  have step : ∀ m, 2 ≤ m → m.log2 = (m / 2).log2 + 1 := fun m hm ↦ by
    rw [Nat.log2_def, if_pos hm]
  rw [step n (by omega), step (n / 2) (by omega), step (n / 2 / 2) (by omega),
    step (n / 2 / 2 / 2) (by omega), step (n / 2 / 2 / 2 / 2) (by omega),
    step (n / 2 / 2 / 2 / 2 / 2) (by omega), step (n / 2 / 2 / 2 / 2 / 2 / 2) (by omega)]
  simp only [Nat.div_div_eq_div_mul]

/-- As many bytes are written as there are groups. -/
theorem length_writeVarint (n : Nat) : (writeVarint n).length = varintSize n := by
  induction n using Nat.strongRecOn with
  | _ n ih =>
    rw [writeVarint, varintSize]
    split
    · next h =>
      have hlog : n.log2 < 7 := by
        by_cases h0 : n = 0
        · subst h0
          decide
        · exact (Nat.log2_lt h0).2 h
      rw [List.length_singleton]
      omega
    · next h =>
      rw [List.length_cons, ih _ (by omega), varintSize, log2_eq_add_seven (Nat.le_of_not_lt h)]
      omega

/-- How many numbers have room in `room` groups of seven bits and one bit above them. -/
def capacity : (room : Nat) → Nat
  | 0 => 2
  | room + 1 => 128 * capacity room

private theorem readGroups?_writeVarint (room n : Nat) (rest : Bytes) (h : n < capacity room) :
    readGroups? (room + 1) (writeVarint n ++ rest) = some (n, rest) := by
  induction room generalizing n with
  | zero =>
    have hn : n < 2 := h
    have hb : (UInt8.ofNat n).toNat = n := by simp; omega
    have h1 : UInt8.ofNat n < 128 := by rw [UInt8.lt_iff_toNat_lt, hb]; simp; omega
    have h2 : ¬ 1 < UInt8.ofNat n := by rw [UInt8.lt_iff_toNat_lt, hb]; simp; omega
    rw [writeVarint, if_pos (by omega), List.singleton_append, readGroups?, if_pos h1, hb]
    simp [h2]
  | succ room ih =>
    rw [writeVarint]
    split
    · have hb : (UInt8.ofNat n).toNat = n := by simp; omega
      have h1 : UInt8.ofNat n < 128 := by rw [UInt8.lt_iff_toNat_lt, hb]; simp; omega
      rw [List.singleton_append, readGroups?, if_pos h1, hb]
      simp
    · have hb : (UInt8.ofNat (n % 128 + 128)).toNat = n % 128 + 128 := by simp; omega
      have h1 : ¬ UInt8.ofNat (n % 128 + 128) < 128 := by
        rw [UInt8.lt_iff_toNat_lt, hb]; simp
      rw [List.cons_append, readGroups?, if_neg h1, ih (n / 128) (by rw [capacity] at h; omega),
        hb]
      simp only [Option.map_some, Option.some.injEq, Prod.mk.injEq, and_true]
      omega

/-- What is written of a number of 64 bits is read back, and the bytes after it are left. -/
theorem readVarint?_writeVarint {n : Nat} (h : n < UInt64.size) (rest : Bytes) :
    readVarint? (writeVarint n ++ rest) = some (n, rest) :=
  readGroups?_writeVarint 9 n rest h

end CentroidRpc.Wire
