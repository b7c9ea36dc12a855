import CentroidRpc.Session

/-!
# Services

A service takes the bytes of a request for one of its operations. It replies with the bytes of a
response, or with the status of a call that failed. Source: the service trait that is generated for
`relevanced.proto`, `Relevanced`.
-/

namespace CentroidRpc

open Wire

/-- What a service does with the bytes of a request, where `ω` is what it remembers. -/
abbrev Service (ω : Type) := Operation → Bytes → ω → Reply × ω

namespace Service

variable {ω : Type}

/-- The reply to a request for an operation that a service does not know. -/
def notImplemented : Reply := .error (.plain .unimplemented "Not yet implemented")

/-- The other side when it is a service in the same place: every request reaches it that is not too
long, and its reply is there at once. -/
def exchange (service : Service ω) : Exchange Unit ω := fun _ r world ↦
  match RpcStatus.tooLong? r.encode.length with
  | some status => (⟨false, .error status, 0⟩, world)
  | none =>
    let (reply, world) := service r.operation r.encode world
    (⟨true, reply.received, 0⟩, world)

/-- The service that knows no operation. Source: `UnimplementedRelevanced`. -/
def unimplemented : Service ω := fun _ _ world ↦ (notImplemented, world)

/-- The service that knows one operation: it answers every wish for a centroid with the same status
code. Source: `FutureStatusRelevanced`. -/
def refusing (code : Int32) : Service ω := fun op bs world ↦
  match op with
  | .createCentroid =>
    match Operation.createCentroid.request.decode bs with
    | .error fault => (.error (.plain .internal fault.text), world)
    | .ok (id, _) =>
      let response : Response .createCentroid := ⟨some ⟨code, some "quota exceeded"⟩, (id, ())⟩
      (.ok (ResponseType.createCentroid.schema.encode response.record), world)
  | _ => (notImplemented, world)

end Service

end CentroidRpc
