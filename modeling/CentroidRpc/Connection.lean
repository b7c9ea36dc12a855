import CentroidRpc.CallError
import CentroidRpc.Config
import CentroidRpc.Endpoint

/-!
# Connections

A connection is opened once it has been dialled, and closed by its owner or when it is lost. Only
an open connection gives access to the other side. It never comes back by itself. (`SPEC_FULL.md`
§4.1, Connection Manager.)
-/

namespace CentroidRpc

/-- A connection, with access to the other side by a `σ` while it is open: the three states of
`SPEC_FULL.md` §3, Connection. -/
inductive Connection (σ : Type) where
  | unopened
  | opened (stub : σ)
  | closed
  deriving DecidableEq, Repr

/-- Why a connection could not be opened (`SPEC_FULL.md` §7, `ClientConnectError`). -/
inductive ConnectError where
  /-- What was to be dialled is no address. -/
  | invalidUrl (uri : String)
  /-- Nobody answered at the address. -/
  | connectionFailed (uri : String)
  deriving DecidableEq, Repr

namespace ConnectError

/-- The name of the kind of an error. -/
def kindName : ConnectError → String
  | invalidUrl _ => "InvalidUrl"
  | connectionFailed _ => "ConnectionFailed"

/-- The wording of an error. -/
def text : ConnectError → String
  | invalidUrl uri => "Invalid URL '" ++ uri ++ "': transport error"
  | connectionFailed uri => "Failed to connect to '" ++ uri ++ "': transport error"

/-- The same error as one of a call: nobody is there to answer. -/
def toCallError (e : ConnectError) : CallError := .transport (.plain .unavailable e.text)

end ConnectError

/-- What is found at an address, and what dialling it does to the other side. -/
abbrev Dialling (σ ω : Type) := Endpoint → ω → Option σ × ω

namespace Connection

variable {σ ω : Type}

/-- The name of the state of a connection. -/
def stateName : Connection σ → String
  | unopened => "Unopened"
  | opened _ => "Open"
  | closed => "Closed"

/-- Whether a connection is open. -/
def isOpen : Connection σ → Bool
  | opened _ => true
  | unopened | closed => false

/-- Access to the other side. -/
def stub : Connection σ → Except CallError σ
  | opened stub => .ok stub
  | unopened | closed => .error .notConnected

/-- The connection after the other side has gone away. -/
def lose : Connection σ → Connection σ
  | opened _ => closed
  | c => c

/-- The connection after its owner has closed it, which only an open one can be. -/
def close : Connection σ → Except CallError (Connection σ)
  | opened _ => .ok closed
  | unopened | closed => .error .notConnected

/-- The connection after a call over it has come to its end. -/
def after (c : Connection σ) {α : Type} : Except RpcStatus α → Connection σ
  | .ok _ => c
  | .error s => if s.isLoss then c.lose else c

/-- The connection after an attempt to open it, and the other side. An open one stays as it is, and
nothing is dialled; what cannot be opened is left to its owner (`SPEC_FULL.md` §4.1, `open`). -/
def dial (c : Connection σ) (uri : String) (d : Dialling σ ω) (world : ω) :
    Except ConnectError (Connection σ) × ω :=
  if c.isOpen then (.ok c, world)
  else
    match Endpoint.parse? uri with
    | none => (.error (.invalidUrl uri), world)
    | some endpoint =>
      match d endpoint world with
      | (none, world) => (.error (.connectionFailed uri), world)
      | (some stub, world) => (.ok (.opened stub), world)

end Connection

end CentroidRpc
