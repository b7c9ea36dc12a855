import CentroidRpc.Connection
import CentroidRpc.Outcome

/-!
# Clients

A client has a configuration and a connection. A call has two ends: at its start it takes access to
the other side or fails (`Client.start`), and when its reply arrives it yields an answer or an error
and may close the connection (`Client.finish`). Other calls may start and end in between. The two
ends are the steps of a call in `SPEC_FULL.md` §4.4.
-/

namespace CentroidRpc

open Wire

/-- One end of the calls to a service (`SPEC_FULL.md` §4.4, `RelevancedClient`). -/
structure Client (σ : Type) where
  config : Config
  connection : Connection σ
  deriving DecidableEq, Repr

/-- How a remote call comes back: with the bytes of a response, or without them. -/
abbrev Reply := Except RpcStatus Bytes

/-- What comes back of a reply: the bytes of a response only if they are not too many. -/
def Reply.received : Reply → Reply
  | .error s => .error s
  | .ok bs =>
    match RpcStatus.tooLong? bs.length with
    | some s => .error s
    | none => .ok bs

namespace Request

/-- The response that a reply to a request brings. Bytes that are no response are an internal
error. -/
def response (r : Request) (reply : Reply) :
    Except RpcStatus (Response r.operation.response) :=
  match reply with
  | .error s => .error s
  | .ok bs =>
    match r.operation.response.schema.decode bs with
    | .error fault => .error (.plain .internal fault.text)
    | .ok record => .ok (.ofRecord record)

/-- What the caller is told when a call has come to its end (`SPEC_FULL.md` §4.4, steps 4 and 5). -/
def conclude (r : Request) :
    Except RpcStatus (Response r.operation.response) → Except CallError (r.Answer Double)
  | .error s => .error (.transport s)
  | .ok response => (response.outcome r.subjects).map r.operation.response.project

end Request

namespace Client

variable {σ ω : Type}

/-- A client whose connection has not been opened. -/
def ofConfig (config : Config) : Client σ := ⟨config, .unopened⟩

/-- A client with access to a service from the start (`SPEC_FULL.md` §4.1, `from_service`). -/
def ofStub (stub : σ) : Client σ := ⟨.standard, .opened stub⟩

/-- Starts a call: takes access to the other side (`SPEC_FULL.md` §4.4, step 1). -/
def start (c : Client σ) : Except CallError σ := c.connection.stub

/-- Ends a call: what its caller is told, and the client afterwards. -/
def finish (c : Client σ) (r : Request) (reply : Reply) :
    Except CallError (r.Answer Double) × Client σ :=
  let response := r.response reply
  (r.conclude response, { c with connection := c.connection.after response })

/-- Opens the connection. If that fails, the client stays as it is (`SPEC_FULL.md` §4.1, `open`). -/
def dialIn (c : Client σ) (d : Dialling σ ω) (world : ω) : Except ConnectError (Client σ) × ω :=
  let (result, world) := c.connection.dial c.config.uri d world
  (result.map fun connection ↦ { c with connection }, world)

/-- Opens the connection, where `answer` says what is found at an address. -/
def dial (c : Client σ) (answer : Endpoint → Option σ) : Except ConnectError (Client σ) :=
  (c.dialIn (fun endpoint world ↦ (answer endpoint, world)) ()).1

/-- Closes the connection (`SPEC_FULL.md` §4.1, `disconnect`). -/
def disconnect (c : Client σ) : Except CallError (Client σ) :=
  c.connection.close.map fun connection ↦ { c with connection }

end Client

end CentroidRpc
