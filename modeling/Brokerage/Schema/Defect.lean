import Brokerage.Schema.Address
import Brokerage.Schema.Violation

/-!
What can be wrong with a value that should be a schema: it fails its metaschema or one of its
keywords has no use for its value, its version is unheard of, or one of its references leads
nowhere.
-/

set_option autoImplicit false

namespace Brokerage.Schema

inductive Defect where
  | violation (v : Violation)
  | unknownVersion (address : String)
  | malformedReference (reference reason : String)
  | unresolvable (reference : String) (base : Address) (clash : Address.Clash)
  | absent (address reason : String)
  | noSuchPath (path : String)
  | noSuchPlace (place path : String)
  | unreadablePath (path : String)
  | noSuchAnchor (name : String)
  | noAnchor (name : String)

/-- A text between single quotes. -/
def quote (text : String) : String :=
  "'" ++ text ++ "'"

def Defect.message : Defect → String
  | .violation v => v.message
  | .unknownVersion address =>
    "Unknown meta-schema: " ++ quote address ++
      ". Custom meta-schemas must be registered in the registry before use"
  | .malformedReference reference reason =>
    "Invalid URI reference " ++ quote reference ++ ": " ++ reason
  | .unresolvable reference base clash =>
    "Failed to resolve " ++ quote reference ++ " against " ++ quote base.text ++ ": " ++
      clash.message
  | .absent address reason =>
    "Resource " ++ quote address ++ " is not present in a registry and retrieving it failed: " ++
      reason
  | .noSuchPath path => "Pointer " ++ quote path ++ " does not exist"
  | .noSuchPlace place path =>
    "Failed to parse array index " ++ quote place ++ " in pointer " ++ quote path
  | .unreadablePath path =>
    "Invalid percent encoding in pointer " ++ quote path ++
      ": the decoded bytes do not represent valid UTF-8"
  | .noSuchAnchor name => "Anchor " ++ quote name ++ " does not exist"
  | .noAnchor name => "Anchor " ++ quote name ++ " is invalid"

/-- A reference completed from a base. -/
def Address.follow (base : Address) (reference : String) : Except Defect Address :=
  if reference.startsWith "#" && base.text.endsWith reference then .ok base
  else
    match Address.ofText reference with
    | .error reason => .error (.malformedReference reference reason)
    | .ok a =>
      match base.complete a with
      | .ok whole => .ok whole
      | .error clash => .error (.unresolvable reference base clash)

/-- The base of documents that give themselves no address. -/
def Address.root : Address :=
  { scheme := some "json-schema", authority := some "", path := "/" }

/-- The address of a document that gives itself the given one. -/
def Address.ofDocument (text : String) : Except Defect Address :=
  match Address.ofText text with
  | .error reason => .error (.malformedReference text reason)
  | .ok a =>
    if a.scheme.isSome then .ok a.normal
    else
      match Address.root.complete a with
      | .ok whole => .ok whole
      | .error clash => .error (.unresolvable text Address.root clash)

end Brokerage.Schema
