import CentroidRpc.Wire.Fault
import CentroidRpc.Wire.Varint

/-!
# Reading bytes from the front

A reader takes bytes from the front of a sequence and leaves the rest, or it finds a fault. The
combinators here read parts of stated length (`delimited`) and pass over fields that a message does
not declare (`skipField`).
-/

namespace CentroidRpc.Wire

/-- Takes a value from the front of the bytes that are left. -/
abbrev Reader (α : Type) := StateT Bytes (Except Fault) α

/-- The key in front of a field: its number and how its value is delimited. -/
structure Key where
  number : Nat
  wire : WireType
  deriving DecidableEq, Repr

namespace Reader

variable {α σ : Type}

/-- Stops with a fault. -/
def fail (c : Cause) : Reader α := fun _ ↦ .error (.ofCause c)

/-- Places the faults of a reader inside of a field. -/
def within (message field : String) (r : Reader α) : Reader α := fun bs ↦
  (r bs).mapError (Fault.within message field)

/-- Number of bytes left. -/
def remaining : Reader Nat := fun bs ↦ .ok (bs.length, bs)

/-- Takes a number of variable length. -/
def varint : Reader Nat := fun bs ↦
  match readVarint? bs with
  | some r => .ok r
  | none => .error (.ofCause .badVarint)

/-- Takes a given number of bytes. -/
def take (n : Nat) : Reader Bytes := fun bs ↦
  if bs.length < n then .error (.ofCause .underflow) else .ok (bs.take n, bs.drop n)

/-- Takes bytes whose number stands before them. -/
def block : Reader Bytes := do take (← varint)

/-- Refuses a field whose wire type is not the one it should have. -/
def expect (expected actual : WireType) : Reader Unit :=
  if actual = expected then pure () else fail (.wrongWireType actual expected)

/-- Takes the key of a field. -/
def key : Reader Key := do
  let n ← varint
  if UInt32.size ≤ n then fail (.badKey n)
  else
    match WireType.ofNumber? (n % 8) with
    | none => fail (.badWireType (n % 8))
    | some w => if n / 8 = 0 then fail .zeroField else pure ⟨n / 8, w⟩

/-- Takes elements until at most `limit` bytes are left. Each element takes a byte or more, so as
many turns are enough as there are bytes. -/
def elementsIn (limit : Nat) (step : σ → Reader σ) : (turns : Nat) → σ → Reader σ
  | 0, s => pure s
  | turns + 1, s => do
    if (← remaining) ≤ limit then pure s else elementsIn limit step turns (← step s)

/-- Takes elements until at most `limit` bytes are left. -/
def elements (limit : Nat) (step : σ → Reader σ) (s : σ) : Reader σ := do
  elementsIn limit step (← remaining) s

/-- Takes elements from a part whose length stands before it. An element may not run past the end
of the part. -/
def delimited (step : σ → Reader σ) (s : σ) : Reader σ := do
  let len ← varint
  let left ← remaining
  if left < len then fail .underflow
  else
    let s ← elements (left - len) step s
    if (← remaining) = left - len then pure s else fail .overrun

/-- Takes fields up to the end of a group, passing over each one with `skip`. Each field takes a
byte or more. -/
def groupIn (skip : Key → Reader Unit) (number : Nat) : (turns : Nat) → Reader Unit
  | 0 => fail .badVarint
  | turns + 1 => do
    let k ← key
    if k.wire = .endGroup then if k.number = number then pure () else fail .strayGroupEnd
    else
      skip k
      groupIn skip number turns

/-- Takes fields up to the end of the group with a number. -/
def group (skip : Key → Reader Unit) (number : Nat) : Reader Unit := do
  groupIn skip number ((← remaining) + 1)

/-- Passes over a field that is not declared. `depth` more levels may lie in each other. -/
def skipField : (depth : Nat) → Key → Reader Unit
  | 0, _ => fail .tooDeep
  | depth + 1, k =>
    match k.wire with
    | .varint => discard varint
    | .sixtyFourBit => discard (take 8)
    | .thirtyTwoBit => discard (take 4)
    | .lengthDelimited => discard block
    | .startGroup => group (skipField depth) k.number
    | .endGroup => fail .strayGroupEnd

/-- A value that is given takes nothing. -/
@[simp] theorem pure_apply (a : α) (bs : Bytes) : (pure a : Reader α) bs = .ok (a, bs) := rfl

/-- Of two readers the second one goes on where the first one stopped. -/
@[simp] theorem bind_apply {β : Type} (r : Reader α) (f : α → Reader β) (bs : Bytes) :
    (r >>= f) bs = (r bs).bind fun p ↦ f p.1 p.2 := by
  change StateT.bind r f bs = _
  unfold StateT.bind
  cases r bs <;> rfl

/-- What is written of a number of 64 bits is taken as that number. -/
theorem varint_writeVarint {n : Nat} (h : n < UInt64.size) (rest : Bytes) :
    varint (writeVarint n ++ rest) = .ok (n, rest) := by
  simp only [varint, readVarint?_writeVarint h]

/-- Bytes are taken as they are. -/
theorem take_append (bs rest : Bytes) : take bs.length (bs ++ rest) = .ok (bs, rest) := by
  simp [take]

/-- Bytes with their number before them are taken as they are. -/
theorem block_append {bs : Bytes} (h : bs.length < UInt64.size) (rest : Bytes) :
    block (writeVarint bs.length ++ (bs ++ rest)) = .ok (bs, rest) := by
  simp only [block, bind_apply, varint_writeVarint h, Except.bind, take_append]

end Reader

end CentroidRpc.Wire
