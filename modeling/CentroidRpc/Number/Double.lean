/-!
# Doubles by their bits

A double is kept as its 64 bits, so that two of them are equal exactly when they are written the
same on the wire: both zeros and all the values that are no number are told apart.
-/

namespace CentroidRpc

/-- A binary number of 64 bits, as those bits: sign, exponent and fraction, from the highest bit
down. -/
structure Double where
  bits : UInt64
  deriving DecidableEq, Inhabited

namespace Double

/-- Positive zero. -/
def zero : Double := ⟨0⟩

/-- Negative zero. -/
def negZero : Double := ⟨0x8000000000000000⟩

/-- Whether a double is one of the two zeros. -/
def isZero (x : Double) : Bool := x = zero || x = negZero

/-- The double that a machine number is. -/
def ofFloat (x : Float) : Double := ⟨x.toBits⟩

/-- Whether the sign bit is set. -/
def isNegative (x : Double) : Bool := negZero.bits ≤ x.bits

/-- What one step of the exponent weighs among the bits. A fraction with an exponent has one more
bit of this weight. -/
def leadingBit : Nat := 0x10000000000000

/-- The exponent as it is kept. -/
def exponent (x : Double) : Nat := x.bits.toNat / leadingBit % 2048

/-- The bits below the exponent. -/
def fraction (x : Double) : Nat := x.bits.toNat % leadingBit

/-- The size of a finite double as a quotient of two whole numbers. -/
def magnitude (x : Double) : Nat × Nat :=
  if x.exponent = 0 then (x.fraction, 1 <<< 1074)
  else if x.exponent < 1075 then (leadingBit + x.fraction, 1 <<< (1075 - x.exponent))
  else ((leadingBit + x.fraction) <<< (x.exponent - 1075), 1)

/-- A zero is one of the two bit patterns without exponent and fraction. -/
theorem isZero_iff {x : Double} : x.isZero = true ↔ x = zero ∨ x = negZero := by
  simp [isZero]

end Double

end CentroidRpc
