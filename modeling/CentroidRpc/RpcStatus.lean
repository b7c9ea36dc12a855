import CentroidRpc.Text.Quoted

/-!
# How a remote call ends below the service

A status says that a remote call could not be completed: the connection failed, the answer could
not be read, or the other side does not know the operation. Such statuses, and the limit to what is
read, are those of the runtime that `SPEC_FULL.md` §10.1 names (`tonic`).
-/

namespace CentroidRpc

/-- Codes of a remote call. -/
inductive RpcCode where
  | ok
  | cancelled
  | unknown
  | invalidArgument
  | deadlineExceeded
  | notFound
  | alreadyExists
  | permissionDenied
  | resourceExhausted
  | failedPrecondition
  | aborted
  | outOfRange
  | unimplemented
  | internal
  | unavailable
  | dataLoss
  | unauthenticated
  deriving DecidableEq, Repr

namespace RpcCode

/-- Every code, in order of number. -/
def all : List RpcCode :=
  [ok, cancelled, unknown, invalidArgument, deadlineExceeded, notFound, alreadyExists,
    permissionDenied, resourceExhausted, failedPrecondition, aborted, outOfRange, unimplemented,
    internal, unavailable, dataLoss, unauthenticated]

/-- The number of a code. -/
def number (c : RpcCode) : Nat := all.idxOf c

/-- The code with a number; a number without a code stands for the unknown one. -/
def ofNumber (n : Int) : RpcCode :=
  (all.find? fun c ↦ (c.number : Int) = n).getD unknown

/-- The wording of a code. -/
def description : RpcCode → String
  | ok => "The operation completed successfully"
  | cancelled => "The operation was cancelled"
  | unknown => "Unknown error"
  | invalidArgument => "Client specified an invalid argument"
  | deadlineExceeded => "Deadline expired before operation could complete"
  | notFound => "Some requested entity was not found"
  | alreadyExists => "Some entity that we attempted to create already exists"
  | permissionDenied => "The caller does not have permission to execute the specified operation"
  | resourceExhausted => "Some resource has been exhausted"
  | failedPrecondition => "The system is not in a state required for the operation's execution"
  | aborted => "The operation was aborted"
  | outOfRange => "Operation was attempted past the valid range"
  | unimplemented => "Operation is not implemented or not supported"
  | internal => "Internal error"
  | unavailable => "The service is currently unavailable"
  | dataLoss => "Unrecoverable data loss or corruption"
  | unauthenticated => "The request does not have valid authentication credentials"

/-- Every code is found by its number. -/
theorem ofNumber_number (c : RpcCode) : ofNumber c.number = c := by
  cases c <;> decide

end RpcCode

/-- How a remote call ended. The `source` is what happened on this side, if the status did not come
from the other one. -/
structure RpcStatus where
  code : RpcCode
  message : String
  source : Option String
  deriving DecidableEq, Repr

namespace RpcStatus

/-- A status that does not stem from something that happened on this side. -/
def plain (code : RpcCode) (message : String) : RpcStatus := ⟨code, message, none⟩

/-- Whether the connection is gone: nobody is there to answer, or the call failed on this side
(`SPEC_FULL.md` §4.1). -/
def isLoss (s : RpcStatus) : Bool := s.code = .unavailable || s.source.isSome

/-- The wording of a status. -/
def text (s : RpcStatus) : String :=
  "code: '" ++ s.code.description ++ "'" ++
    (if s.message.isEmpty then "" else ", message: " ++ quoted s.message) ++
    match s.source with
    | none => ""
    | some source => ", source: " ++ quoted source

/-- How many bytes a message may have that is to be read. -/
def maxMessageSize : Nat := 4194304

/-- The status of a call with a message that is too long to be sent or to be read. -/
def tooLong? (length : Nat) : Option RpcStatus :=
  if UInt32.size ≤ length then
    some (.plain .resourceExhausted
      ("Cannot return body with more than 4GB of data but got " ++ toString length ++ " bytes"))
  else if maxMessageSize < length then
    some (.plain .outOfRange
      ("Error, decoded message length too large: found " ++ toString length ++
        " bytes, the limit is: " ++ toString maxMessageSize ++ " bytes"))
  else none

/-- A message is not too long if it has as many bytes as it may have. -/
theorem tooLong?_eq_none_iff {length : Nat} : tooLong? length = none ↔ length ≤ maxMessageSize := by
  unfold tooLong?
  split
  · next h =>
    have hmore : maxMessageSize < UInt32.size := by decide
    exact iff_of_false nofun (Nat.not_le.2 (Nat.lt_of_lt_of_le hmore h))
  · split
    · next h => exact iff_of_false nofun (Nat.not_le.2 h)
    · next h => exact iff_of_true rfl (Nat.not_lt.1 h)

/-- The connection is not gone when a message is too long. -/
theorem isLoss_of_tooLong? {length : Nat} {s : RpcStatus} (h : tooLong? length = some s) :
    s.isLoss = false := by
  unfold tooLong? at h
  split at h
  · cases h
    rfl
  · split at h
    · cases h
      rfl
    · cases h

end RpcStatus

end CentroidRpc
