import Brokerage.Json.Printer

/-!
The ways in which a value fails a schema, each with its wording. Values are quoted as compact JSON.
-/

set_option autoImplicit false

namespace Brokerage.Schema

inductive Violation where
  | forbiddenByFalse (found : Json)
  | notOfType (found : Json) (types : List String)
  | missingProperty (name : String)
  | notAmong (found : Json) (options : List Json)
  | notConstant (expected : Json)
  | belowMinimum (found limit : Json)
  | aboveMaximum (found limit : Json)
  | notAboveMinimum (found limit : Json)
  | notBelowMaximum (found limit : Json)
  | notMultiple (found : Json) (unit : Double)
  | tooShort (found : Json) (limit : Nat)
  | tooLong (found : Json) (limit : Nat)
  | noMatch (found : Json) (pattern : String)
  | tooFewItems (found : Json) (limit : Nat)
  | tooManyItems (found : Json) (limit : Nat)
  | repeatedItems (found : Json)
  | additionalItems (found : List Json)
  | noneContained (found : Json)
  | tooFewProperties (found : Json) (limit : Nat)
  | tooManyProperties (found : Json) (limit : Nat)
  | additionalProperties (names : List String)
  | unevaluatedItems (found : List Json)
  | unevaluatedProperties (names : List String)
  | noAlternative (found : Json) (keyword : String)
  | severalAlternatives (found : Json)
  | forbidden (schema found : Json)
  | notOfFormat (found : Json) (format : String)
  | notEncoded (found : Json) (encoding : String)
  | notOfMediaType (found : Json) (mediaType : String)
  | noText (reason : String)
  | unsettled (reason : String)
  | noType
  deriving DecidableEq

namespace Violation

def counted (n : Nat) (one many : String) : String :=
  if n = 1 then s!"{n} {one}" else s!"{n} {many}"

/-- Up to three options in full, and of more the first two. -/
def optionList (options : List Json) : String :=
  match options with
  | [] => ""
  | [a] => a.text
  | [a, b] => a.text ++ " or " ++ b.text
  | [a, b, c] => a.text ++ ", " ++ b.text ++ " or " ++ c.text
  | a :: b :: rest => a.text ++ ", " ++ b.text ++ s!" or {rest.length} other candidates"

def marked (text : String) : String := "'" ++ text ++ "'"

/-- A list of things that were not expected. -/
def unexpected (things : List String) : String :=
  let verb := if things.length = 1 then "was" else "were"
  "(" ++ ", ".intercalate things ++ s!" {verb} unexpected)"

def typeList (types : List String) : String :=
  ", ".intercalate (types.map fun name ↦ "\"" ++ name ++ "\"")

def message : Violation → String
  | .forbiddenByFalse found => s!"False schema does not allow {found.text}"
  | .notOfType found types =>
    let unit := if types.length = 1 then "type" else "types"
    s!"{found.text} is not of {unit} {typeList types}"
  | .missingProperty name => s!"{(Json.string name).text} is a required property"
  | .notAmong found options => s!"{found.text} is not one of {optionList options}"
  | .notConstant expected => s!"{expected.text} was expected"
  | .belowMinimum found limit => s!"{found.text} is less than the minimum of {limit.text}"
  | .aboveMaximum found limit => s!"{found.text} is greater than the maximum of {limit.text}"
  | .notAboveMinimum found limit =>
    s!"{found.text} is less than or equal to the minimum of {limit.text}"
  | .notBelowMaximum found limit =>
    s!"{found.text} is greater than or equal to the maximum of {limit.text}"
  | .notMultiple found unit => s!"{found.text} is not a multiple of {unit.plainText}"
  | .tooShort found limit =>
    found.text ++ " is shorter than " ++ counted limit "character" "characters"
  | .tooLong found limit =>
    found.text ++ " is longer than " ++ counted limit "character" "characters"
  | .noMatch found pattern => found.text ++ " does not match \"" ++ pattern ++ "\""
  | .tooFewItems found limit => found.text ++ " has less than " ++ counted limit "item" "items"
  | .tooManyItems found limit => found.text ++ " has more than " ++ counted limit "item" "items"
  | .repeatedItems found => s!"{found.text} has non-unique elements"
  | .additionalItems found =>
    "Additional items are not allowed " ++ unexpected (found.map Json.text)
  | .noneContained found => s!"None of {found.text} are valid under the given schema"
  | .tooFewProperties found limit =>
    found.text ++ " has less than " ++ counted limit "property" "properties"
  | .tooManyProperties found limit =>
    found.text ++ " has more than " ++ counted limit "property" "properties"
  | .additionalProperties names =>
    "Additional properties are not allowed " ++ unexpected (names.map marked)
  | .unevaluatedItems found =>
    "Unevaluated items are not allowed " ++ unexpected (found.map fun item ↦ marked item.text)
  | .unevaluatedProperties names =>
    "Unevaluated properties are not allowed " ++ unexpected (names.map marked)
  | .noAlternative found keyword =>
    s!"{found.text} is not valid under any of the schemas listed in the '{keyword}' keyword"
  | .severalAlternatives found =>
    s!"{found.text} is valid under more than one of the schemas listed in the 'oneOf' keyword"
  | .forbidden schema found => s!"{schema.text} is not allowed for {found.text}"
  | .notOfFormat found format => found.text ++ " is not a \"" ++ format ++ "\""
  | .notEncoded found encoding =>
    found.text ++ " is not compliant with \"" ++ encoding ++ "\" content encoding"
  | .notOfMediaType found mediaType =>
    found.text ++ " is not compliant with \"" ++ mediaType ++ "\" media type"
  | .noText reason => reason
  | .unsettled reason => "Error executing regex: " ++ reason
  | .noType => "Unexpected type"

end Violation

end Brokerage.Schema
