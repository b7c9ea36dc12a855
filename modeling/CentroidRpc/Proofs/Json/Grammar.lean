import Mathlib.Data.Rat.Defs
import CentroidRpc.Proofs.Environment

/-!
# Texts of JSON

What a text says in JSON (`Json.Says`): it is cut into marks, texts, numbers and words, and these
have to follow one another as the grammar has it. The members of an object are kept in order, also
those whose name is used twice. A text says at most one thing (`Json.Says.unique`), and a member
that is a text stands between two quotes (`Json.Says.mem_of_member`).
-/

namespace CentroidRpc

namespace Json

/-- Values that are not made of others. -/
inductive Atom where
  | null
  | boolean (b : Bool)
  | number (q : ℚ)
  | text (s : String)
  deriving DecidableEq

end Json

/-- Values that are said in JSON. -/
inductive Json where
  | atom (a : Json.Atom)
  | list (vs : List Json)
  | object (members : List (String × Json))

namespace Json

/-- A value that is a text. -/
abbrev text (s : String) : Json := .atom (.text s)

/-- A value that is a number. -/
abbrev number (q : ℚ) : Json := .atom (.number q)

/-- What a text of JSON is made of. -/
inductive Token where
  | openObject
  | closeObject
  | openList
  | closeList
  | colon
  | comma
  | atom (a : Atom)

/-! ### Numbers -/

/-- The number with some digits, of which there is at least one. -/
def digitsOf? (cs : List Char) : Option ℕ := if cs.isEmpty then none else readDigits? 0 cs

/-- The number before the point, which starts with a zero only if it is zero. -/
def wholeOf? (cs : List Char) : Option ℕ :=
  if cs.head? = some '0' ∧ cs ≠ ['0'] then none else digitsOf? cs

/-- The number behind the point, which may be left out together with the point. -/
def fractionOf? : List Char → Option ℚ
  | [] => some 0
  | '.' :: cs => (digitsOf? cs).map fun n ↦ (n : ℚ) / 10 ^ cs.length
  | _ => none

/-- A number with a sign or without one. -/
def signedOf? : List Char → Option ℤ
  | '-' :: cs => (digitsOf? cs).map fun n ↦ -(n : ℤ)
  | '+' :: cs => (digitsOf? cs).map fun n ↦ (n : ℤ)
  | cs => (digitsOf? cs).map fun n ↦ (n : ℤ)

/-- The power of ten that a number is multiplied with, which may be left out. -/
def exponentOf? : List Char → Option ℤ
  | [] => some 0
  | 'e' :: cs | 'E' :: cs => signedOf? cs
  | _ => none

/-- The number without a sign that is written in some characters. -/
def magnitudeOf? (cs : List Char) : Option ℚ := do
  let rest := cs.dropWhile (·.isDigit)
  let whole ← wholeOf? (cs.takeWhile (·.isDigit))
  let fraction ← fractionOf? (rest.takeWhile fun c ↦ c ≠ 'e' ∧ c ≠ 'E')
  let exponent ← exponentOf? (rest.dropWhile fun c ↦ c ≠ 'e' ∧ c ≠ 'E')
  return (whole + fraction) * 10 ^ exponent

/-- The number that is written in some characters. -/
def numberOf? : List Char → Option ℚ
  | '-' :: cs => (magnitudeOf? cs).map (-·)
  | cs => magnitudeOf? cs

/-- What stands between the marks without quotes. -/
def wordOf? (cs : List Char) : Option Atom :=
  if cs = "null".toList then some .null
  else if cs = "true".toList then some (.boolean true)
  else if cs = "false".toList then some (.boolean false)
  else (numberOf? cs).map .number

/-! ### Escapes -/

/-- Whether a character stands for itself between quotes. -/
def standsForItself (c : Char) : Bool := 0x20 ≤ c.toNat && c != '"' && c != '\\'

/-- Whether a text stands for itself between quotes. -/
def Plain (cs : List Char) : Prop := ∀ c ∈ cs, standsForItself c = true

instance (cs : List Char) : Decidable (Plain cs) :=
  decidable_of_iff (cs.all standsForItself = true) List.all_eq_true

/-- The character that is written by a backslash and another character. -/
def shortEscapeOf? : Char → Option Char
  | '"' => some '"'
  | '\\' => some '\\'
  | '/' => some '/'
  | 'b' => some '\x08'
  | 'f' => some '\x0c'
  | 'n' => some '\n'
  | 'r' => some '\r'
  | 't' => some '\t'
  | _ => none

/-- The value of a hexadecimal digit. -/
def hexDigitOf? (c : Char) : Option ℕ :=
  if c.isDigit then some (c.toNat - '0'.toNat)
  else if 'a'.toNat ≤ c.toNat ∧ c.toNat ≤ 'f'.toNat then some (c.toNat - 'a'.toNat + 10)
  else if 'A'.toNat ≤ c.toNat ∧ c.toNat ≤ 'F'.toNat then some (c.toNat - 'A'.toNat + 10)
  else none

/-- The number with four hexadecimal digits. -/
def codeUnitOf? (a b c d : Char) : Option ℕ := do
  let a ← hexDigitOf? a
  let b ← hexDigitOf? b
  let c ← hexDigitOf? c
  let d ← hexDigitOf? d
  return ((a * 16 + b) * 16 + c) * 16 + d

/-- The character whose code point is a number, unless it is one half of a pair. -/
def charOf? (n : ℕ) : Option Char := if h : n.isValidChar then some (Char.ofNatAux n h) else none

/-- The character that is written by two numbers, the first and the second half of a pair. -/
def pairOf? (high low : ℕ) : Option Char :=
  if 0xD800 ≤ high ∧ high < 0xDC00 ∧ 0xDC00 ≤ low ∧ low < 0xE000 then
    charOf? (0x10000 + (high - 0xD800) * 0x400 + (low - 0xDC00))
  else none

/-- What is said by what stands between two quotes. -/
def unescape? : List Char → Option (List Char)
  | [] => some []
  | '\\' :: 'u' :: a :: b :: c :: d :: rest => do
    let unit ← codeUnitOf? a b c d
    match charOf? unit with
    | some char => (unescape? rest).map (char :: ·)
    | none =>
      match rest with
      | '\\' :: 'u' :: a :: b :: c :: d :: rest => do
        let char ← (codeUnitOf? a b c d).bind (pairOf? unit)
        (unescape? rest).map (char :: ·)
      | _ => none
  | '\\' :: c :: rest => do
    let char ← shortEscapeOf? c
    (unescape? rest).map (char :: ·)
  | c :: rest => if standsForItself c then (unescape? rest).map (c :: ·) else none

/-! ### Tokens -/

/-- What a character stands for on its own between texts, numbers and words: a mark, or nothing if
it is blank. -/
def separatorOf? : Char → Option (List Token)
  | ' ' | '\t' | '\n' | '\r' => some []
  | '\x7b' => some [.openObject]
  | '\x7d' => some [.closeObject]
  | '[' => some [.openList]
  | ']' => some [.closeList]
  | ':' => some [.colon]
  | ',' => some [.comma]
  | _ => none

/-- Where in a text one is who reads it from the left. -/
inductive Place where
  /-- Between texts, behind a part of a number or of a word. -/
  | between (word : List Char)
  /-- Behind a quote and the beginning of a text. -/
  | within (read : List Char)
  /-- The same, and the last character is a backslash. -/
  | escaped (read : List Char)

namespace Place

/-- The number or the word that ends here, if there is one. -/
def endWord (word : List Char) : Option (List Token) :=
  if word.isEmpty then some [] else (wordOf? word).map fun a ↦ [.atom a]

/-- Reads one more character. -/
def step : Place → Char → Option (List Token × Place)
  | between word, c =>
    match separatorOf? c with
    | some marks => (endWord word).map fun ts ↦ (ts ++ marks, between [])
    | none =>
      if c ≠ '"' then some ([], between (word ++ [c]))
      else if word.isEmpty then some ([], within [])
      else none
  | within read, c =>
    if c = '"' then (unescape? read).map fun cs ↦ ([.atom (.text (String.ofList cs))], between [])
    else if c = '\\' then some ([], escaped (read ++ [c]))
    else some ([], within (read ++ [c]))
  | escaped read, c => some ([], within (read ++ [c]))

/-- How many characters there are since the last quote, if it opens a text. -/
def pending : Place → ℕ
  | between _ => 0
  | within read | escaped read => read.length

end Place

/-- Cuts what follows a place into tokens. -/
def scan : Place → List Char → Option (List Token)
  | .between word, [] => Place.endWord word
  | .within _, [] | .escaped _, [] => none
  | p, c :: cs => (p.step c).bind fun (ts, p') ↦ (scan p' cs).map (ts ++ ·)

/-- The tokens of a text. -/
def tokensOf? (s : String) : Option (List Token) := scan (.between []) s.toList

/-! ### Grammar -/

/-- A value, or what stands between the brackets of one. -/
inductive Part where
  | value (v : Json)
  | items (vs : List Json)
  | members (ms : List (String × Json))

/-- Tokens begin with those of a part, and others come behind it. The items of a list and the
members of an object end with the bracket that closes it. -/
inductive Begins : Part → List Token → List Token → Prop where
  /-- A number, a text or a word. -/
  | atom {a rest} : Begins (.value (.atom a)) (.atom a :: rest) rest
  /-- A list without items. -/
  | emptyList {rest} : Begins (.value (.list [])) (.openList :: .closeList :: rest) rest
  /-- A list. -/
  | list {vs ts rest} (items : Begins (.items vs) ts rest) :
      Begins (.value (.list vs)) (.openList :: ts) rest
  /-- An object without members. -/
  | emptyObject {rest} : Begins (.value (.object [])) (.openObject :: .closeObject :: rest) rest
  /-- An object. -/
  | object {ms ts rest} (members : Begins (.members ms) ts rest) :
      Begins (.value (.object ms)) (.openObject :: ts) rest
  /-- A single item. -/
  | lastItem {v ts rest} (value : Begins (.value v) ts (.closeList :: rest)) :
      Begins (.items [v]) ts rest
  /-- An item and others behind a comma. -/
  | item {v vs ts ts' rest} (value : Begins (.value v) ts (.comma :: ts'))
      (items : Begins (.items vs) ts' rest) : Begins (.items (v :: vs)) ts rest
  /-- A single member. -/
  | lastMember {name v ts rest} (value : Begins (.value v) ts (.closeObject :: rest)) :
      Begins (.members [(name, v)]) (.atom (.text name) :: .colon :: ts) rest
  /-- A member and others behind a comma. -/
  | member {name v ms ts ts' rest} (value : Begins (.value v) ts (.comma :: ts'))
      (members : Begins (.members ms) ts' rest) :
      Begins (.members ((name, v) :: ms)) (.atom (.text name) :: .colon :: ts) rest

/-- What a text says in JSON. -/
def Says (s : String) (v : Json) : Prop := ∃ ts, tokensOf? s = some ts ∧ Begins (.value v) ts []

/-! ### Values -/

/-- What kind of part tokens may begin with. -/
def Part.kind : Part → Fin 3
  | value _ => 0
  | items _ => 1
  | members _ => 2

private theorem Begins.items_ne_close {vs : List Json} {ts rest : List Token} :
    ¬ Begins (.items vs) (.closeList :: ts) rest := by
  intro h
  cases h with
  | lastItem value | item value => cases value

/-- Tokens begin with at most one part of a kind. An item or a member is the last one or not by what
comes behind its value. -/
theorem Begins.unique {part part' : Part} {ts rest rest' : List Token} (h : Begins part ts rest)
    (h' : Begins part' ts rest') (hkind : part'.kind = part.kind) :
    part' = part ∧ rest' = rest := by
  -- The kind of part and the next token leave one constructor for the second reading.
  induction h generalizing part' rest' with
  | atom => cases h' <;> first | exact ⟨rfl, rfl⟩ | cases hkind
  | emptyList =>
    cases h' with
    | emptyList => exact ⟨rfl, rfl⟩
    | list items => exact absurd items Begins.items_ne_close
    | lastItem | item => cases hkind
  | list items ih =>
    cases h' with
    | emptyList => exact absurd items Begins.items_ne_close
    | list items' =>
      obtain ⟨⟨⟩, rfl⟩ := ih items' rfl
      exact ⟨rfl, rfl⟩
    | lastItem | item => cases hkind
  | emptyObject =>
    cases h' with
    | emptyObject => exact ⟨rfl, rfl⟩
    | object members => cases members
    | lastItem | item => cases hkind
  | object members ih =>
    cases h' with
    | emptyObject => cases members
    | object members' =>
      obtain ⟨⟨⟩, rfl⟩ := ih members' rfl
      exact ⟨rfl, rfl⟩
    | lastItem | item => cases hkind
  | lastItem value ih =>
    cases h' with
    | lastItem value' =>
      obtain ⟨⟨⟩, ⟨⟩⟩ := ih value' rfl
      exact ⟨rfl, rfl⟩
    | item value' => cases (ih value' rfl).2
    | _ => cases hkind
  | item value items ihv ihvs =>
    cases h' with
    | lastItem value' => cases (ihv value' rfl).2
    | item value' items' =>
      obtain ⟨⟨⟩, ⟨⟩⟩ := ihv value' rfl
      obtain ⟨⟨⟩, rfl⟩ := ihvs items' rfl
      exact ⟨rfl, rfl⟩
    | _ => cases hkind
  | lastMember value ih =>
    cases h' with
    | lastMember value' =>
      obtain ⟨⟨⟩, ⟨⟩⟩ := ih value' rfl
      exact ⟨rfl, rfl⟩
    | member value' => cases (ih value' rfl).2
    | _ => cases hkind
  | member value members ihv ihms =>
    cases h' with
    | lastMember value' => cases (ihv value' rfl).2
    | member value' members' =>
      obtain ⟨⟨⟩, ⟨⟩⟩ := ihv value' rfl
      obtain ⟨⟨⟩, rfl⟩ := ihms members' rfl
      exact ⟨rfl, rfl⟩
    | _ => cases hkind

/-- A text says at most one thing. -/
theorem Says.unique {s : String} {v v' : Json} (h : Says s v) (h' : Says s v') : v' = v := by
  obtain ⟨ts, htokens, hbegins⟩ := h
  obtain ⟨ts', htokens', hbegins'⟩ := h'
  cases htokens.symm.trans htokens'
  cases (hbegins.unique hbegins' rfl).1
  rfl

/-- The members of a part. -/
def Part.membersOf : Part → List (String × Json)
  | value (.object ms) | members ms => ms
  | _ => []

private theorem Begins.suffix {part : Part} {ts rest : List Token} (h : Begins part ts rest) :
    rest <:+ ts := by
  induction h with
  | atom => exact List.suffix_cons ..
  | emptyList | emptyObject => exact ⟨[_, _], rfl⟩
  | list _ ih | object _ ih => exact ih.trans (List.suffix_cons ..)
  | lastItem _ ih => exact (List.suffix_cons ..).trans ih
  | item _ _ ihv ihvs => exact (ihvs.trans (List.suffix_cons ..)).trans ihv
  | lastMember _ ih => exact ((List.suffix_cons ..).trans ih).trans ⟨[_, _], rfl⟩
  | member _ _ ihv ihms =>
    exact ((ihms.trans (List.suffix_cons ..)).trans ihv).trans ⟨[_, _], rfl⟩

/-- A member that is a text is one of the tokens. -/
theorem Begins.mem_of_member {part : Part} {ts rest : List Token} (h : Begins part ts rest)
    {name s : String} (hmem : (name, .text s) ∈ part.membersOf) : .atom (.text s) ∈ ts := by
  induction h with
  | object _ ih => exact List.mem_cons_of_mem _ (ih hmem)
  | lastMember value =>
    cases List.mem_singleton.1 hmem
    cases value
    simp
  | member value members _ ihms =>
    rcases List.mem_cons.1 hmem with hfirst | hmem
    · cases hfirst
      cases value
      simp
    · have htoken := value.suffix.subset (List.mem_cons_of_mem _ (ihms hmem))
      exact List.mem_cons_of_mem _ (List.mem_cons_of_mem _ htoken)
  | _ => cases hmem

/-- A member of an object that is a text stands between two quotes. -/
theorem Says.mem_of_member {s : String} {ms : List (String × Json)} (h : Says s (.object ms))
    {name t : String} (hmem : (name, .text t) ∈ ms) :
    ∃ ts, tokensOf? s = some ts ∧ .atom (.text t) ∈ ts := by
  obtain ⟨ts, htokens, hbegins⟩ := h
  exact ⟨ts, htokens, hbegins.mem_of_member hmem⟩

end Json

end CentroidRpc
