/-!
# Sets of characters given by ranges

A property of characters is kept as closed ranges of code points in increasing order. The sets of
this library have the extent of version 17.0 of Unicode.
-/

namespace CentroidRpc

/-- A set of characters: the first and last code point of each of its closed ranges, in increasing
order. -/
structure CharSet where
  ranges : List (Nat × Nat)

namespace CharSet

/-- Whether a character lies in one of the ranges. -/
def contains (s : CharSet) (c : Char) : Bool :=
  s.ranges.any fun r ↦ r.1 ≤ c.toNat && c.toNat ≤ r.2

end CharSet

end CentroidRpc
