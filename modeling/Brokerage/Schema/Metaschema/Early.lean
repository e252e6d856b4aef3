import Brokerage.Schema.Metaschema.Basic

/-!
The metaschemas of the three oldest versions. Each is one document, in which a schema is a reference
to the whole.
-/

set_option autoImplicit false

namespace Brokerage.Schema.Metaschema

def schema : Json := reference "#"

def schemaList : Json := listOf schema [someItems]

def schemaOrList : Json :=
  anyOf [schema, reference "#/definitions/schemaArray"]

def flagOrSchema : Json := anyOf [flag, schema]

/-- Schemas or lists of names. -/
def schemaOrNames : Json :=
  tableOf (anyOf [schema, reference "#/definitions/stringArray"]) []

/-! ### The first version -/

def draft4Definitions : Json := .record [
  ("positiveInteger", count),
  ("positiveIntegerDefault0", defaultingTo "#/definitions/positiveInteger"),
  ("schemaArray", schemaList),
  ("simpleTypes", simpleTypes),
  ("stringArray", listOf text [someItems, distinctItems])]

def draft4Properties : Json := .record (
  all flagOrSchema ["additionalItems", "additionalProperties"] ++
  all (reference "#/definitions/schemaArray") ["allOf", "anyOf", "oneOf"] ++
  all (tableOf schema []) ["definitions", "patternProperties", "properties"] ++
  all text ["description", "format", "id", "title"] ++
  all flag ["exclusiveMaximum", "exclusiveMinimum", "uniqueItems"] ++
  all (reference "#/definitions/positiveInteger") ["maxItems", "maxLength", "maxProperties"] ++
  all (reference "#/definitions/positiveIntegerDefault0")
    ["minItems", "minLength", "minProperties"] ++
  all number ["maximum", "minimum"] ++
  [("$schema", formatted "uri"), ("default", anything), ("dependencies", schemaOrNames),
   ("enum", ofType "array" []),
   ("items", schemaOrList),
   ("multipleOf", ofType "number"
     [("exclusiveMinimum", .bool true), ("minimum", .integer 0)]),
   ("not", schema), ("pattern", formatted "regex"),
   ("required", reference "#/definitions/stringArray"),
   ("type", typeOrTypes "#/definitions/simpleTypes")])

def draft4 : Json := .record [
  ("$schema", .string "http://json-schema.org/draft-04/schema#"),
  ("definitions", draft4Definitions),
  ("dependencies", .record [
    ("exclusiveMaximum", .ofTexts ["maximum"]), ("exclusiveMinimum", .ofTexts ["minimum"])]),
  ("id", .string "http://json-schema.org/draft-04/schema#"),
  ("properties", draft4Properties),
  ("type", .string "object")]

/-! ### The versions after it -/

def draft6Definitions : Json := .record [
  ("nonNegativeInteger", count),
  ("nonNegativeIntegerDefault0", defaultingTo "#/definitions/nonNegativeInteger"),
  ("schemaArray", schemaList),
  ("simpleTypes", simpleTypes),
  ("stringArray", listOf text [distinctItems])]

def draft6Properties : Members :=
  all (formatted "uri-reference") ["$id", "$ref"] ++
  all schema ["additionalItems", "additionalProperties", "contains", "not", "propertyNames"] ++
  all (reference "#/definitions/schemaArray") ["allOf", "anyOf", "oneOf"] ++
  all (tableOf schema []) ["definitions", "properties"] ++
  all text ["description", "format", "title"] ++
  all (reference "#/definitions/nonNegativeInteger") ["maxItems", "maxLength", "maxProperties"] ++
  all (reference "#/definitions/nonNegativeIntegerDefault0")
    ["minItems", "minLength", "minProperties"] ++
  all number ["exclusiveMaximum", "exclusiveMinimum", "maximum", "minimum"] ++
  all (ofType "array" []) ["enum", "examples"] ++
  all anything ["const", "default"] ++
  [("$schema", formatted "uri"), ("dependencies", schemaOrNames), ("items", schemaOrList),
   ("multipleOf", ofType "number" [("exclusiveMinimum", .integer 0)]),
   ("pattern", formatted "regex"), ("patternProperties", patternTable schema),
   ("required", reference "#/definitions/stringArray"),
   ("type", typeOrTypes "#/definitions/simpleTypes"), ("uniqueItems", flag)]

def draft6 : Json := .record [
  ("$id", .string "http://json-schema.org/draft-06/schema#"),
  ("$schema", .string "http://json-schema.org/draft-06/schema#"),
  ("definitions", draft6Definitions),
  ("properties", .record draft6Properties),
  ("type", objectOrFlag)]

def draft7Properties : Members :=
  draft6Properties ++
  all text ["$comment", "contentEncoding", "contentMediaType"] ++
  all schema ["else", "if", "then"] ++
  all flag ["readOnly", "writeOnly"]

def draft7 : Json := .record [
  ("$id", .string "http://json-schema.org/draft-07/schema#"),
  ("$schema", .string "http://json-schema.org/draft-07/schema#"),
  ("definitions", draft6Definitions),
  ("properties", .record draft7Properties),
  ("type", objectOrFlag)]

end Brokerage.Schema.Metaschema
