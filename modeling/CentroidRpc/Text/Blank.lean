import CentroidRpc.Text.CharSet

/-!
# White space

Characters with the Unicode property `White_Space`, and texts without it at their ends.
-/

namespace CentroidRpc

/-- Characters with the property `White_Space`. -/
def CharSet.blank : CharSet := ⟨[
  (0x9, 0xd), (0x20, 0x20), (0x85, 0x85), (0xa0, 0xa0), (0x1680, 0x1680), (0x2000, 0x200a),
  (0x2028, 0x2029), (0x202f, 0x202f), (0x205f, 0x205f), (0x3000, 0x3000)]⟩

/-- A list of characters without the blanks it starts with and those it ends with. -/
def trimBlanks (cs : List Char) : List Char :=
  ((cs.dropWhile CharSet.blank.contains).reverse.dropWhile CharSet.blank.contains).reverse

/-- A text without blanks at either end. -/
def trimmed (s : String) : String := String.ofList (trimBlanks s.toList)

end CentroidRpc
