import CentroidRpc.Failure
import CentroidRpc.RpcStatus

/-!
# Errors of a call

Every call that does not succeed ends in one error: there was no connection, the remote call did not
come to an end, the service reported a failure, or it answered with a code that has no meaning here.
These are the errors of `SPEC_FULL.md` §7.
-/

namespace CentroidRpc

/-- Why a call did not succeed (`SPEC_FULL.md` §7, `RelevancedError`). -/
inductive CallError where
  /-- The connection was not open when the call was made. -/
  | notConnected
  /-- The remote call failed. -/
  | transport (status : RpcStatus)
  /-- The service reported a failure, for the ids that the request names, with more to say. -/
  | reported (failure : Failure) (ids : List String) (detail : Option String)
  /-- The service answered with a code that is no status code. -/
  | unrecognised (code : Int32) (message : Option String)
  deriving DecidableEq, Repr

namespace CallError

/-- The name of the kind of an error (`SPEC_FULL.md` §7, `kind`). -/
def kindName : CallError → String
  | notConnected => "NotConnected"
  | transport _ => "Transport"
  | reported f _ _ => f.kindName
  | unrecognised _ _ => "Unknown"

/-- The failure that the service reported. -/
def failure? : CallError → Option Failure
  | reported f _ _ => some f
  | _ => none

/-- The ids that an error speaks of. -/
def ids : CallError → List String
  | reported _ ids _ => ids
  | _ => []

/-- What is said about a code without meaning. -/
def unrecognisedMessage (message : Option String) : String := message.getD "no message"

/-- The wording of a failure: the service's own words after it, or else the ids it is about. -/
def reportedText (f : Failure) (ids : List String) (detail : Option String) : String :=
  match detail.filter (!·.isEmpty), ids with
  | some detail, _ => f.text ++ ": " ++ detail
  | none, [] => f.text
  | none, ids => f.text ++ ": " ++ ", ".intercalate ids

/-- The wording of an error. -/
def text : CallError → String
  | notConnected => "Not connected to a relevanced server"
  | transport s => "Transport failure: '" ++ s.text ++ "'"
  | reported f ids detail => reportedText f ids detail
  | unrecognised code message =>
    "Unrecognised status code " ++ toString code ++ ": " ++ unrecognisedMessage message

end CallError

end CentroidRpc
