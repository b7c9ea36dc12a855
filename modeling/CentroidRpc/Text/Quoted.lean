import CentroidRpc.Text.Unprintable

/-!
# Quoted texts

A quoted text stands between double quotes. The quote, the backslash and the usual control
characters have short escapes; every other character that does not show on its own is written by
the hexadecimal digits of its code point.
-/

namespace CentroidRpc

/-- The escape of a character by its code point. -/
def codePointEscape (c : Char) : List Char :=
  ['\\', 'u', '\x7b'] ++ Nat.toDigits 16 c.toNat ++ ['\x7d']

/-- What stands for a character between quotes. -/
def quoteChar (c : Char) : List Char :=
  match c with
  | '\x00' => ['\\', '0']
  | '\t' => ['\\', 't']
  | '\n' => ['\\', 'n']
  | '\r' => ['\\', 'r']
  | '"' => ['\\', '"']
  | '\\' => ['\\', '\\']
  | c => if CharSet.unprintable.contains c then codePointEscape c else [c]

/-- A text between double quotes, with escapes. -/
def quoted (s : String) : String :=
  String.ofList ('"' :: s.toList.flatMap quoteChar ++ ['"'])

end CentroidRpc
