/-!
# How the service says that a call failed

A response carries the number of a status code: zero for success, or one of seven failures. A
failure speaks of the centroids or of the documents that a request names, or of neither. Source:
`relevanced.proto`, `StatusCode`.
-/

namespace CentroidRpc

/-- Reasons that the service gives for a failed call. -/
inductive Failure where
  | centroidDoesNotExist
  | centroidAlreadyExists
  | documentDoesNotExist
  | documentAlreadyExists
  | documentAlreadyInCentroid
  | documentNotInCentroid
  | unknownException
  deriving DecidableEq, Repr

namespace Failure

/-- Every failure, in order of number. -/
def all : List Failure :=
  [centroidDoesNotExist, centroidAlreadyExists, documentDoesNotExist, documentAlreadyExists,
    documentAlreadyInCentroid, documentNotInCentroid, unknownException]

/-- The number of a failure in a status. -/
def number : Failure → Int32
  | centroidDoesNotExist => 1
  | centroidAlreadyExists => 2
  | documentDoesNotExist => 3
  | documentAlreadyExists => 4
  | documentAlreadyInCentroid => 5
  | documentNotInCentroid => 6
  | unknownException => 7

/-- The name of the code of a failure. -/
def codeName : Failure → String
  | centroidDoesNotExist => "CENTROID_DOES_NOT_EXIST"
  | centroidAlreadyExists => "CENTROID_ALREADY_EXISTS"
  | documentDoesNotExist => "DOCUMENT_DOES_NOT_EXIST"
  | documentAlreadyExists => "DOCUMENT_ALREADY_EXISTS"
  | documentAlreadyInCentroid => "DOCUMENT_ALREADY_IN_CENTROID"
  | documentNotInCentroid => "DOCUMENT_NOT_IN_CENTROID"
  | unknownException => "UNKNOWN_EXCEPTION"

/-- The name of the error that a failure becomes. -/
def kindName : Failure → String
  | centroidDoesNotExist => "CentroidDoesNotExist"
  | centroidAlreadyExists => "CentroidAlreadyExists"
  | documentDoesNotExist => "DocumentDoesNotExist"
  | documentAlreadyExists => "DocumentAlreadyExists"
  | documentAlreadyInCentroid => "DocumentAlreadyInCentroid"
  | documentNotInCentroid => "DocumentNotInCentroid"
  | unknownException => "UnknownException"

/-- The wording of a failure: the fixed table of `SPEC_FULL.md` §4.3. -/
def text : Failure → String
  | centroidDoesNotExist => "Centroid does not exist"
  | centroidAlreadyExists => "Centroid already exists"
  | documentDoesNotExist => "Document does not exist"
  | documentAlreadyExists => "Document already exists"
  | documentAlreadyInCentroid => "Document already in centroid"
  | documentNotInCentroid => "Document not in centroid"
  | unknownException => "Unknown exception"

/-- The failure with a number. -/
def ofNumber? (n : Int32) : Option Failure := all.find? (·.number == n)

/-- Every failure is found by its number. -/
theorem ofNumber?_number (f : Failure) : ofNumber? f.number = some f := by
  cases f <;> decide

end Failure

/-- Status codes of a response. -/
inductive StatusCode where
  | ok
  | failed (f : Failure)
  deriving DecidableEq, Repr

namespace StatusCode

/-- Every status code, in order of number. -/
def all : List StatusCode := ok :: Failure.all.map failed

/-- The number of a status code. -/
def number : StatusCode → Int32
  | ok => 0
  | failed f => f.number

/-- The name of a status code. -/
def name : StatusCode → String
  | ok => "OK"
  | failed f => f.codeName

/-- The status code with a number. -/
def ofNumber? (n : Int32) : Option StatusCode := all.find? (·.number == n)

/-- The status code with a name, which is matched exactly. -/
def ofName? (s : String) : Option StatusCode := all.find? (·.name == s)

/-- Every status code is found by its number. -/
theorem ofNumber?_number (c : StatusCode) : ofNumber? c.number = some c := by
  rcases c with _ | f
  · decide
  · cases f <;> decide

/-- Every status code is found by its name. -/
theorem ofName?_name (c : StatusCode) : ofName? c.name = some c := by
  rcases c with _ | f
  · decide
  · cases f <;> decide

end StatusCode

/-- A number that names nothing in an enumeration. -/
structure UnknownNumber where
  number : Int32

/-- The wording of an unknown number. -/
def UnknownNumber.text (u : UnknownNumber) : String :=
  "unknown enumeration value " ++ toString u.number

end CentroidRpc
