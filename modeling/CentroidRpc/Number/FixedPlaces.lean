import CentroidRpc.Number.Double

/-!
# A fixed number of decimal places

The exact value of a double is rounded to a given number of decimal places; a value half-way
between two neighbours goes to the one whose last digit is even (`roundDiv`).
-/

namespace CentroidRpc

/-- A quotient rounded to the nearest whole number, a half to the even neighbour. -/
def roundDiv (num den : Nat) : Nat :=
  let q := num / den
  let r := num % den
  if 2 * r < den then q
  else if den < 2 * r then q + 1
  else if q % 2 = 0 then q else q + 1

/-- The decimal digits of a number, with zeros before them up to a width. -/
def paddedDigits (width n : Nat) : String :=
  let digits := Nat.toDigits 10 n
  String.ofList (List.replicate (width - digits.length) '0' ++ digits)

namespace Double

/-- The text of a double with a fixed number of places; neither zero has a sign. -/
def toFixed (places : Nat) (x : Double) : String :=
  let sign := if x.isNegative && !x.isZero then "-" else ""
  if x.exponent = 2047 then if x.fraction = 0 then sign ++ "inf" else "NaN"
  else
    let scale := Nat.pow 10 places
    let n := roundDiv (x.magnitude.1 * scale) x.magnitude.2
    sign ++ toString (n / scale) ++ "." ++ paddedDigits places (n % scale)

end Double

end CentroidRpc
