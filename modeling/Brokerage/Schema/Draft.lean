import Brokerage.Json.Access

/-!
Versions of the schema language. A schema names its version by the address of its metaschema; a
schema inside another that names none is of the version around it. A version says which keywords
there are. The latest group them into vocabularies, and a document has those of its own version:
where it has none, the keywords of a later version inside it mean nothing. A metaschema of one's
own makes a version of one's own, which is much like the latest and may choose its vocabularies.
-/

set_option autoImplicit false

namespace Brokerage.Schema

inductive Draft where
  | draft4
  | draft6
  | draft7
  | draft2019
  | draft2020
  | custom
  deriving DecidableEq

/-- The groups of keywords that may be absent. -/
inductive Vocabulary where
  | combination
  | validation
  | unevaluated
  deriving DecidableEq

namespace Draft

/-- The versions that have a metaschema. -/
def all : List Draft := [.draft4, .draft6, .draft7, .draft2019, .draft2020]

/-- The place of a version in the order of their appearance; one's own is the last. -/
def rank : Draft → Nat
  | .draft4 => 4
  | .draft6 => 6
  | .draft7 => 7
  | .draft2019 => 8
  | .draft2020 => 9
  | .custom => 10

def since (draft first : Draft) : Bool :=
  first.rank ≤ draft.rank

def path : Draft → String
  | .draft4 => "draft-04/schema"
  | .draft6 => "draft-06/schema"
  | .draft7 => "draft-07/schema"
  | .draft2019 => "draft/2019-09/schema"
  | .draft2020 | .custom => "draft/2020-12/schema"

/-- Where the metaschema of a version is said to be found, without a fragment. A version of one's
own is held against that of the latest. -/
def address (draft : Draft) : String :=
  (if draft.since .draft2019 then "https" else "http") ++ "://json-schema.org/" ++ draft.path

/-- The version of an address, secured or not and with or without an empty fragment. -/
def ofAddress? (address : String) : Option Draft :=
  let bare := String.ofList (address.toList.reverse.dropWhile (· == '#')).reverse
  all.find? fun draft ↦
    bare == "https://json-schema.org/" ++ draft.path ||
      bare == "http://json-schema.org/" ++ draft.path

/-- The version of a schema where the one around it is of the given version. -/
def of (around : Draft) (schema : Json) : Draft :=
  match schema.textAt? "$schema" with
  | some address => (ofAddress? address).getD .custom
  | none => around

/-- In older versions a reference stands alone and hides its neighbours. -/
def referencesStandAlone (draft : Draft) : Bool :=
  !draft.since .draft2019

/-- Whether formats are more than remarks. -/
def checksFormats (draft : Draft) : Bool :=
  !draft.since .draft2019

/-- The keyword of a schema's own address. -/
def addressKeyword : Draft → String
  | .draft4 => "id"
  | _ => "$id"

/-- The vocabularies of a document of a version. -/
def vocabularies (draft : Draft) : List Vocabulary :=
  if draft.since .draft2019 then [.combination, .validation, .unevaluated] else []

/-- The vocabularies under an address of one. -/
def vocabulariesAt (address : String) : List Vocabulary :=
  if address = "https://json-schema.org/draft/2020-12/vocab/applicator" then [.combination]
  else if address = "https://json-schema.org/draft/2020-12/vocab/unevaluated" then [.unevaluated]
  else if address = "https://json-schema.org/draft/2019-09/vocab/applicator" then
    [.combination, .unevaluated]
  else if address = "https://json-schema.org/draft/2020-12/vocab/validation" ||
      address = "https://json-schema.org/draft/2019-09/vocab/validation" then [.validation]
  else []

/-! ### Keywords -/

/-- Keywords that no vocabulary holds. -/
def freeKeywords : List String :=
  ["$ref", "format"]

def combinationKeywords : List String :=
  ["additionalItems", "additionalProperties", "allOf", "anyOf", "dependencies", "items", "not",
   "oneOf", "patternProperties", "properties"]

def validationKeywords : List String :=
  ["enum", "maxItems", "maxLength", "maxProperties", "maximum", "minItems", "minLength",
   "minProperties", "minimum", "multipleOf", "pattern", "required", "type", "uniqueItems"]

/-- The vocabulary of a keyword that came after the first version, with the version it came
with. -/
def laterKeyword? (name : String) : Option (Draft × Vocabulary) :=
  if name = "contains" || name = "propertyNames" then some (.draft6, .combination)
  else if ["const", "exclusiveMaximum", "exclusiveMinimum"].contains name then
    some (.draft6, .validation)
  else if name = "if" then some (.draft7, .combination)
  else if name = "dependentRequired" then some (.draft2019, .validation)
  else if name = "dependentSchemas" then some (.draft2019, .combination)
  else if name = "unevaluatedItems" || name = "unevaluatedProperties" then
    some (.draft2019, .unevaluated)
  else if name = "prefixItems" then some (.draft2020, .combination)
  else none

/-- Whether a keyword means something in a version and a document with the given vocabularies. In a
version of one's own nothing is contained. -/
def knows (draft : Draft) (vocabularies : List Vocabulary) (name : String) : Bool :=
  let holds (vocabulary : Vocabulary) : Bool :=
    !draft.since .draft2019 || vocabularies.contains vocabulary
  if freeKeywords.contains name then true
  else if combinationKeywords.contains name then holds .combination
  else if validationKeywords.contains name then holds .validation
  else if name = "contentEncoding" || name = "contentMediaType" then
    draft == .draft6 || draft == .draft7
  else if name = "$recursiveRef" then draft == .draft2019
  else if name = "$dynamicRef" then draft.since .draft2020
  else if name = "contains" && draft == .custom then false
  else
    match laterKeyword? name with
    | some (first, vocabulary) => draft.since first && holds vocabulary
    | none => false

end Draft

end Brokerage.Schema
