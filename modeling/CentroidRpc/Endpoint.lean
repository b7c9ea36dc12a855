/-!
# Addresses

An address names an authority, which is dialled, and may go on with a path, a query and a fragment.
The authority ends at the first character that starts one of those. What may stand in each part is
up to the library for paths and addresses that `SPEC_FULL.md` §10.1 names (`http`).
-/

namespace CentroidRpc

/-- An address that can be dialled: user, host and port, and what stands behind them up to the
fragment. -/
structure Endpoint where
  authority : String
  target : String
  deriving DecidableEq, Repr

namespace Endpoint

/-- The most bytes that an address may have. -/
def maxBytes : Nat := 65534

/-- The most colons between two marks that end a part of an authority. -/
def maxColons : Nat := 8

/-- Whether a character stands for itself in an authority, and is not one of its marks. -/
def isAuthorityChar (c : Char) : Bool :=
  c.isAlphanum || "!$&'()*+,-.;=_~".contains c

/-- Whether a character may stand in a path. -/
def isPathChar (c : Char) : Bool :=
  let n := c.toNat
  n = 0x21 || (0x24 ≤ n && n ≤ 0x3b) || n = 0x3d || (0x40 ≤ n && n ≤ 0x5f) ||
    (0x61 ≤ n && n ≤ 0x7a) || n = 0x7c || n = 0x7e || c = '"' || n = 0x7b || n = 0x7d || 0x80 ≤ n

/-- Whether a character may stand in a query. -/
def isQueryChar (c : Char) : Bool :=
  let n := c.toNat
  n = 0x21 || (0x24 ≤ n && n ≤ 0x3b) || n = 0x3d || (0x3f ≤ n && n ≤ 0x7e) || 0x80 ≤ n

/-- Whether a character ends the authority. -/
def endsAuthority (c : Char) : Bool := c = '/' || c = '?' || c = '#'

/-- What has been seen of an authority. Colons and the percent sign are those since the last closing
bracket or at sign; `atEnd` says whether the last character was an at sign. -/
structure Scan where
  colons : Nat := 0
  opened : Bool := false
  closed : Bool := false
  percent : Bool := false
  atEnd : Bool := false
  deriving DecidableEq, Repr

namespace Scan

/-- Looks at one more character of an authority. -/
def next (s : Scan) (c : Char) : Option Scan :=
  let s := { s with atEnd := false }
  match c with
  | ':' => if maxColons ≤ s.colons then none else some { s with colons := s.colons + 1 }
  | '[' => if s.percent || s.opened then none else some { s with opened := true }
  | ']' =>
    if !s.opened || s.closed then none
    else some { s with closed := true, colons := 0, percent := false }
  | '@' => some { s with colons := 0, percent := false, atEnd := true }
  | '%' => some { s with percent := true }
  | c => if isAuthorityChar c then some s else none

/-- Whether an authority may end here. -/
def accepts (s : Scan) : Bool :=
  s.opened == s.closed && s.colons ≤ 1 && !s.atEnd && !s.percent

end Scan

/-- Whether a list of characters is an authority. -/
def isAuthority (cs : List Char) : Bool :=
  !cs.isEmpty && (cs.foldlM Scan.next {}).any Scan.accepts

/-- Whether what stands behind an authority is a path with an optional query. -/
def isTarget (cs : List Char) : Bool :=
  let path := cs.takeWhile (· ≠ '?')
  let query := (cs.dropWhile (· ≠ '?')).drop 1
  path.all isPathChar && query.all isQueryChar

/-- The mark before an authority. -/
def scheme : List Char := "http://".toList

/-- The address that a text is. -/
def parse? (uri : String) : Option Endpoint :=
  if maxBytes < uri.utf8ByteSize then none
  else if !scheme.isPrefixOf uri.toList then none
  else
    let cs := uri.toList.drop scheme.length
    let authority := cs.takeWhile (!endsAuthority ·)
    let target := (cs.dropWhile (!endsAuthority ·)).takeWhile (· ≠ '#')
    if isAuthority authority && isTarget target then
      some ⟨String.ofList authority, String.ofList target⟩
    else none

end Endpoint

end CentroidRpc
