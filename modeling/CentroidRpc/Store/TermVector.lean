import CentroidRpc.Dict
import CentroidRpc.Text.Words

/-!
# Term vectors

A text is a vector of weights by word: how often each word occurs, scaled to length one. Vectors are
written over any kind of number with the operations of `Weight`, so that they can be run on machine
numbers and be reasoned about on real ones. Machine numbers add up to something else in another
order, and the order in which the entries of a new vector are met for its length is not fixed: it is
a parameter (`EntryOrder`), and by key where none is given. Products, of which only queries make
use, go by key. Source: the vectors of the in-memory service of `SPEC_FULL.md` §10.5.
-/

namespace CentroidRpc

/-- Numbers that vectors are made of: the sum of nothing, the weight of one occurrence of a word,
and the operations that a length takes. -/
class Weight (α : Type) extends Add α, Mul α, Div α where
  zero : α
  one : α
  sqrt : α → α
  isPositive : α → Bool

instance : Weight Float where
  zero := 0
  one := 1
  sqrt := Float.sqrt
  isPositive x := 0 < x

/-- Weights by word; every other word weighs nothing. -/
abbrev TermVector (α : Type) := Dict α

/-- An order in which the entries of each vector are met, all of them once. -/
structure EntryOrder (α : Type) where
  through : TermVector α → List (String × α)
  perm (v : TermVector α) : (through v).Perm v.entries

/-- The order of the words. -/
def EntryOrder.byKey {α : Type} : EntryOrder α := ⟨Dict.entries, fun v ↦ .refl v.entries⟩

namespace TermVector

variable {α : Type} [Weight α]

/-- The weight of a word. -/
def weight (v : TermVector α) (word : String) : α := (v.get? word).getD Weight.zero

/-- The vector with more weight on a word. -/
def addAt (v : TermVector α) (word : String) (w : α) : TermVector α :=
  v.insert word (v.weight word + w)

/-- The sum of two vectors. -/
def add (v w : TermVector α) : TermVector α :=
  w.entries.foldl (fun sum e ↦ sum.addAt e.1 e.2) v

/-- The sum of numbers, from the first one on. -/
def total (l : List α) : α := l.foldl (· + ·) Weight.zero

/-- The length of a vector, whose entries are met in some order. -/
def norm (v : TermVector α) (order : EntryOrder α := .byKey) : α :=
  Weight.sqrt (total (((order.through v).map (·.2)).map fun w ↦ w * w))

/-- The vector scaled to length one; one without length stays as it is. Source: `normalize`. -/
def normalized (v : TermVector α) (order : EntryOrder α := .byKey) : TermVector α :=
  let length := v.norm order
  if Weight.isPositive length then v.map (· / length) else v

/-- How often each word occurs. -/
def counts (words : List String) : TermVector α :=
  words.foldl (fun v word ↦ v.addAt word Weight.one) .empty

/-- The vector of a text. Source: `vectorize`. -/
def ofText (text : String) (order : EntryOrder α := .byKey) : TermVector α :=
  (counts (wordsOf text)).normalized order

/-- The product of two vectors, word by word in the order of the first one. Source: `cosine`. -/
def dot (v w : TermVector α) : α :=
  total (v.entries.filterMap fun e ↦ (w.get? e.1).map fun weight ↦ e.2 * weight)

end TermVector

end CentroidRpc
