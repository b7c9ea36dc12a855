import CentroidRpc.Text.Alphanumeric
import CentroidRpc.Text.Lowercase

/-!
# Words of a text

A word is a longest run of letters and numbers, in lower case. So texts are split for their vectors
by the in-memory service of `SPEC_FULL.md` §10.5 (`vectorize`).
-/

namespace CentroidRpc

/-- The longest runs of characters in a class, when `run`, nearest first, has just been read. -/
def runsFrom (p : Char → Bool) (run : List Char) : List Char → List (List Char)
  | [] => if run.isEmpty then [] else [run.reverse]
  | c :: rest =>
    if p c then runsFrom p (c :: run) rest
    else if run.isEmpty then runsFrom p [] rest
    else run.reverse :: runsFrom p [] rest

/-- The words of a text in lower case, in the order and as often as they occur. -/
def wordsOf (text : String) : List String :=
  (runsFrom CharSet.alphanumeric.contains [] text.toList).map fun w ↦ String.ofList (lowercase w)

end CentroidRpc
