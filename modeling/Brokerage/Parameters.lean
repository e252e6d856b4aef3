import Brokerage.Error
import Brokerage.Json.Skip

/-!
User parameters. They arrive as a text that may be absent or blank. Whether the text is well formed
is decided by the grammar of JSON alone; merging parses it into a map, which also needs its
numbers to fit, its surrogates to be paired and its nesting to be bounded.
-/

set_option autoImplicit false

namespace Brokerage.Parameters

/-- The text to be looked at, unless there is nothing to look at. -/
def content? (payload : Option String) : Option String :=
  payload.filter fun raw ↦ !Text.isBlank raw

/-- Absent, blank or well-formed JSON of any kind. -/
def isWellFormed (payload : Option String) : Bool :=
  match content? payload with
  | none => true
  | some raw => (Json.check raw).isOk

/-- Refuses a malformed payload. -/
def ensureWellFormed (payload : Option String) : Except BrokerError Unit :=
  match content? payload with
  | none => .ok ()
  | some raw =>
    match Json.check raw with
    | .ok _ => .ok ()
    | .error e => .error (.invalidParameters (e.message Json.Malformation.message))

/-- What a value that is not a map of parameters is called. -/
def kindName : Json → String
  | .null => "null"
  | .bool _ => "a boolean"
  | .integer _ | .real _ => "a number"
  | .string _ => "a string"
  | .list _ => "an array"
  | .object _ => "an object"

/-- The map of a payload. Absent, blank and null payloads are empty maps. -/
def parse (payload : Option String) : Except BrokerError Members :=
  match content? payload with
  | none => .ok []
  | some raw =>
    match Json.parse raw with
    | .error e => .error (.invalidParameters (e.message Json.Malformation.message))
    | .ok .null => .ok []
    | .ok (.object members) => .ok members
    | .ok other =>
      .error (.invalidParameters s!"parameters must be a JSON object, got {kindName other}")

end Brokerage.Parameters
