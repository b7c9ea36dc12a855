import CentroidRpc.Text.Blank

/-!
# Where the service is, and how it is reached

A configuration has a standard value for everything. The environment may name another host, which
counts if it is not blank, and another port, which must be the decimal form of a number of 16 bits
(`readPort?`). Blanks around both are passed over. (`SPEC_FULL.md` §10.3, Configuration.)
-/

namespace CentroidRpc

/-- Where the service is, and how it is reached (`SPEC_FULL.md` §10.3, `ClientConfig`). A connection
may take `connectTimeout` milliseconds to come about, and a request `requestTimeout` if there is a
limit; without delay, small packets are sent at once. -/
structure Config where
  host : String
  port : UInt16
  connectTimeout : UInt64
  requestTimeout : Option UInt64
  noDelay : Bool
  deriving DecidableEq, Repr

/-- Why a configuration cannot be had from the environment. -/
inductive ConfigError where
  | invalidPort (value : String)
  deriving DecidableEq, Repr

/-- The name of the variable with the host. -/
def hostVariable : String := "RELEVANCED_HOST"

/-- The name of the variable with the port. -/
def portVariable : String := "RELEVANCED_PORT"

namespace ConfigError

/-- The name of the kind of an error. -/
def kindName : ConfigError → String
  | invalidPort _ => "InvalidPort"

/-- The wording of an error. -/
def text : ConfigError → String
  | invalidPort value => "Invalid port '" ++ value ++ "' in " ++ portVariable

end ConfigError

/-- The value of a sequence of decimal digits after a number that has been read. -/
def readDigits? : (sofar : Nat) → List Char → Option Nat
  | n, [] => some n
  | n, c :: rest => if c.isDigit then readDigits? (n * 10 + (c.toNat - '0'.toNat)) rest else none

/-- The port that a row of digits stands for. -/
def portOf? (digits : List Char) : Option UInt16 :=
  if digits.isEmpty then none
  else
    match readDigits? 0 digits with
    | none => none
    | some n => if n < UInt16.size then some (UInt16.ofNat n) else none

/-- The port that a text without blanks around it stands for: an optional plus, and digits. -/
def readPort? (cs : List Char) : Option UInt16 :=
  portOf? <| match cs with
    | '+' :: digits => digits
    | digits => digits

namespace Config

/-- A service on this machine. -/
def standard : Config := ⟨"localhost", 8097, 5000, none, true⟩

instance : Inhabited Config := ⟨standard⟩

/-- The standard configuration for a service somewhere else. -/
def forHost (host : String) (port : UInt16) : Config := { standard with host, port }

/-- The host that an environment names, if it is not blank. -/
def hostIn (value : Option String) : String :=
  match value.map trimmed with
  | none | some "" => standard.host
  | some host => host

/-- The configuration that the two variables give (`SPEC_FULL.md` §10.3, `from_env`). -/
def ofEnvironment (lookup : String → Option String) : Except ConfigError Config :=
  let host := hostIn (lookup hostVariable)
  match lookup portVariable with
  | none => .ok { standard with host }
  | some value =>
    match readPort? (trimBlanks value.toList) with
    | none => .error (.invalidPort value)
    | some port => .ok { standard with host, port }

/-- The configuration with another limit for connecting. -/
def withConnectTimeout (c : Config) (t : UInt64) : Config := { c with connectTimeout := t }

/-- The configuration with a limit for requests. -/
def withRequestTimeout (c : Config) (t : UInt64) : Config := { c with requestTimeout := some t }

/-- The configuration with small packets sent at once, or not. -/
def withNoDelay (c : Config) (b : Bool) : Config := { c with noDelay := b }

/-- The address to dial, with the host as it is (`SPEC_FULL.md` §10.3, `endpoint_uri`). -/
def uri (c : Config) : String := "http://" ++ c.host ++ ":" ++ toString c.port

end Config

end CentroidRpc
