/-!
# Languages of texts

A language is sent by its number. A number that names no language is kept as it is where it
arrives, so that nothing is lost on the way. Source: `relevanced.proto`, `Language`.
-/

namespace CentroidRpc

/-- The languages a text can be in. -/
inductive Language where
  | english
  | german
  | french
  | spanish
  | italian
  deriving DecidableEq, Repr

namespace Language

/-- The language of a text whose language is not given (`SPEC_FULL.md` §4.2, Defaulting). -/
def standard : Language := english

/-- Every language, in order of number. -/
def all : List Language := [english, german, french, spanish, italian]

/-- The number of a language. -/
def number : Language → Int32
  | english => 0
  | german => 1
  | french => 2
  | spanish => 3
  | italian => 4

/-- The short name of a language. -/
def name : Language → String
  | english => "EN"
  | german => "DE"
  | french => "FR"
  | spanish => "ES"
  | italian => "IT"

/-- The language with a number. -/
def ofNumber? (n : Int32) : Option Language := all.find? (·.number == n)

/-- The language with a name, which is matched exactly. -/
def ofName? (s : String) : Option Language := all.find? (·.name == s)

/-- Every language is found by its number. -/
theorem ofNumber?_number (l : Language) : ofNumber? l.number = some l := by
  cases l <;> decide

/-- Every language is found by its name. -/
theorem ofName?_name (l : Language) : ofName? l.name = some l := by
  cases l <;> decide

end Language

end CentroidRpc
