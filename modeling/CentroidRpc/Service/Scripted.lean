import CentroidRpc.Session

/-!
# Replies written down beforehand

What comes back for a request can be fixed in advance: the bytes of a response with a status after
them, a status alone, or a failure on this side.
-/

namespace CentroidRpc

open Wire

/-- What comes back for a request. -/
inductive ScriptedReply where
  /-- The bytes of a response, and then a status. -/
  | response (bytes : Bytes) (code : RpcCode) (text : String)
  /-- A status alone. -/
  | status (code : RpcCode) (text : String)
  /-- Nothing: the connection was not ready to take the request. -/
  | notReady (reason : String)
  /-- Nothing: the connection failed with the request on its way. -/
  | broken (reason : String)

namespace ScriptedReply

/-- What a reply to a request is when it arrives. A response that is too long or cannot be read
counts more than the status after it, and a success without a response is an error. -/
def reply (r : Request) : ScriptedReply → Reply
  | response bytes .ok _ => Reply.received (.ok bytes)
  | response bytes code text =>
    match Reply.received (.ok bytes) with
    | .error s => .error s
    | .ok bytes =>
      match r.operation.response.schema.decode bytes with
      | .error _ => .ok bytes
      | .ok _ => .error (.plain code text)
  | status .ok _ => .error (.plain .internal "Missing response message.")
  | status code text => .error (.plain code text)
  | notReady reason => .error (.plain .unavailable ("client was not ready: " ++ reason))
  | broken reason => .error ⟨.unknown, reason, some reason⟩

/-- What becomes of a request with a scripted reply. A connection that is not ready says so at
once. -/
def passage (s : ScriptedReply) (delay : Nat) (r : Request) : Passage :=
  match s with
  | notReady _ => ⟨false, s.reply r, 0⟩
  | _ => ⟨true, s.reply r, delay⟩

/-- The other side that gives a scripted reply. -/
def exchange (s : ScriptedReply) (delay : Nat) : Exchange Unit Unit :=
  fun _ r world ↦ (s.passage delay r, world)

end ScriptedReply

end CentroidRpc
