import QueryAdvisor.Number.Power
import QueryAdvisor.Plan.Payload
import QueryAdvisor.Text.Blank
import QueryAdvisor.Text.Letter
import QueryAdvisor.Text.Pieces

/-!
# Connection strings

A database is named by a connection string: parameters written as
`key=value`, where a value may stand between quotes and a backslash keeps the
next character, or an address that starts with `postgres://`. A string that
cannot be read, or names no host, is refused before anything is sent.
-/

namespace QueryAdvisor.Connection

/-- Why a connection string is refused. -/
inductive Refusal where
  | malformed
  | noHost
deriving DecidableEq, Repr

def Refusal.message : Refusal → String
  | .malformed => "invalid connection string"
  | .noHost => "invalid configuration"

/-- A value up to the next white space; the rest is what follows it. -/
def simpleValue : List Char → List Char × List Char
  | [] => ([], [])
  | '\\' :: c :: rest =>
      let (value, rest) := simpleValue rest
      (c :: value, rest)
  | ['\\'] => ([], [])
  | c :: rest =>
      if Text.isBlank c then ([], c :: rest)
      else
        let (value, rest) := simpleValue rest
        (c :: value, rest)

/-- A value up to the closing quote, which is consumed. -/
def quotedValue : List Char → Option (List Char × List Char)
  | [] => none
  | '\'' :: rest => some ([], rest)
  | '\\' :: c :: rest => (quotedValue rest).map fun (value, rest) => (c :: value, rest)
  | c :: rest => (quotedValue rest).map fun (value, rest) => (c :: value, rest)

/-- A value and what follows it. -/
def value? : List Char → Option (List Char × List Char)
  | '\'' :: rest => quotedValue rest
  | s =>
      let (value, rest) := simpleValue s
      if value.isEmpty then none else some (value, rest)

/-- The parameters of a string, up to where no key follows. Every parameter has
at least a key, so `bound` is the length of the string. -/
def parameters : (bound : Nat) → List Char → Option (List (String × List Char))
  | 0, _ => some []
  | bound + 1, s =>
      let s := Text.trimFront s
      let isKey := fun c => !(Text.isBlank c || c == '=')
      let key := s.takeWhile isKey
      if key.isEmpty then some []
      else
        match Text.trimFront (s.dropWhile isKey) with
        | '=' :: rest => do
            let (value, rest) ← value? (Text.trimFront rest)
            let more ← parameters bound rest
            pure ((String.ofList key, value) :: more)
        | _ => none

/-- A number below a bound, with an optional plus sign. -/
def isNumberBelow (bound : Nat) (s : List Char) : Bool :=
  let digits := match s with
    | '+' :: rest => rest
    | _ => s
  match Text.natural? digits with
  | some n => n < bound
  | none => false

/-- A number of 64 bits with an optional sign. -/
def isInteger (s : List Char) : Bool :=
  match s with
  | '-' :: rest =>
      match Text.natural? rest with
      | some n => n ≤ twoTo 63
      | none => false
  | _ => isNumberBelow (twoTo 63) s

/-- Four numbers up to 255 with points between them, or groups of hexadecimal
digits with colons between them. -/
def isAddress (s : List Char) : Bool :=
  let parts := (String.ofList s).splitOn "."
  (parts.length == 4 && parts.all fun p =>
      p.length ≤ 3 && (p.length ≤ 1 || p.toList.head? != some '0') && isNumberBelow 256 p.toList
        && p.toList.head? != some '+')
    || (s.contains ':' && s.all fun c => Text.isHexDigit c || c == ':' || c == '.')

/-- Whether a parameter is known and its value fits it. -/
def isParameter (key : String) (value : List Char) : Bool :=
  if ["user", "password", "dbname", "options", "application_name", "host"].contains key then true
  else if key = "port" then (Text.pieces ',' value).all fun p => p.isEmpty || isNumberBelow 65536 p
  else if key = "hostaddr" then (Text.pieces ',' value).all isAddress
  else if ["connect_timeout", "tcp_user_timeout", "keepalives_idle",
      "keepalives_interval"].contains key then isInteger value
  else if key = "keepalives" then isNumberBelow (twoTo 64) value
  else if key = "keepalives_retries" then isNumberBelow (twoTo 32) value
  else if key = "sslmode" || key = "channel_binding" then
    ["disable", "prefer", "require"].contains (String.ofList value)
  else if key = "sslnegotiation" then ["postgres", "direct"].contains (String.ofList value)
  else if key = "target_session_attrs" then
    ["any", "read-write", "read-only"].contains (String.ofList value)
  else if key = "load_balance_hosts" then ["disable", "random"].contains (String.ofList value)
  else false

/-- The part of an address behind its scheme. -/
def afterScheme? (s : String) : Option (List Char) :=
  ["postgres://", "postgresql://"].findSome? fun scheme =>
    if scheme.toList.isPrefixOf s.toList then some (s.toList.drop scheme.length) else none

/-- Whether the part of an address behind its scheme names a host: what stands
in front of the path, behind any user. -/
def addressHasHost (s : List Char) : Bool :=
  let authority := s.takeWhile fun c => !(c == '/' || c == '?')
  let host := (authority.reverse.takeWhile (· != '@')).reverse
  !(host.takeWhile (· != ':')).isEmpty

/-- Refuses a connection string that cannot be used. -/
def check (s : String) : Except Refusal Unit :=
  match afterScheme? s with
  | some rest => if addressHasHost rest then .ok () else .error .noHost
  | none =>
      match parameters (s.toList.length + 1) s.toList with
      | none => .error .malformed
      | some parameters =>
          if parameters.all fun p => isParameter p.1 p.2 then
            if parameters.any fun p => p.1 = "host" || p.1 = "hostaddr" then .ok ()
            else .error .noHost
          else .error .malformed

end QueryAdvisor.Connection

namespace QueryAdvisor

/-- Asks a database for the plan of a query. No database is within reach of this
library, so what is left to report once the connection string is in order is
that the server did not answer. -/
def askDatabase (connection _query : String) : Except PlanError Tree :=
  let reason := match Connection.check connection with
    | .error refusal => refusal.message
    | .ok () => "error connecting to server"
  .error (.connection ("Failed to connect to PostgreSQL: " ++ reason))

end QueryAdvisor
