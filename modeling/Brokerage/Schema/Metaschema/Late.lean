import Brokerage.Schema.Metaschema.Basic

/-!
The metaschemas of the latest two versions. Each is spread over several documents, one to a
vocabulary, and a document that puts them together. In them a schema is whatever the document
that was asked first says it is: a reference that is recursive in the earlier version and
dynamic in the latest.
-/

set_option autoImplicit false

namespace Brokerage.Schema.Metaschema

/-- What the documents of a version have in common: where they are, how they speak of a schema,
and how they say that they may be asked in its place. -/
structure Family where
  place : String
  schema : Json
  standIn : String × Json

def family2019 : Family where
  place := "https://json-schema.org/draft/2019-09/"
  schema := .record [("$recursiveRef", .string "#")]
  standIn := ("$recursiveAnchor", .bool true)

def family2020 : Family where
  place := "https://json-schema.org/draft/2020-12/"
  schema := .record [("$dynamicRef", .string "#meta")]
  standIn := ("$dynamicAnchor", .string "meta")

namespace Family

/-- A document of a version, with the vocabularies of the schemas that name it. -/
def document (family : Family) (name : String) (vocabularies : List String) (more : Members) :
    Json :=
  .record ([("$id", .string (family.place ++ name)), family.standIn,
    ("$schema", .string (family.place ++ "schema")), ("type", objectOrFlag),
    ("$vocabulary", .record (vocabularies.map fun vocabulary ↦
      (family.place ++ "vocab/" ++ vocabulary, .bool (vocabulary != "format"))))] ++ more)

/-- A document that says what the values of some keywords look like. -/
def vocabulary (family : Family) (name : String) (definitions properties : Members) : Json :=
  let named := if definitions.isEmpty then [] else [("$defs", Json.record definitions)]
  family.document ("meta/" ++ name) [name] (named ++ [("properties", .record properties)])

/-! ### Vocabularies of both versions -/

/-- Keywords that combine schemas, and those that only one of the versions has. -/
def applicator (family : Family) (more : Members) : Json :=
  family.vocabulary "applicator" [("schemaArray", listOf family.schema [someItems])] (
    all family.schema ["additionalProperties", "contains", "else", "if", "not", "propertyNames",
      "then"] ++
    all (reference "#/$defs/schemaArray") ["allOf", "anyOf", "oneOf"] ++
    all (tableOf family.schema []) ["dependentSchemas", "properties"] ++
    [("patternProperties", patternTable family.schema)] ++ more)

def validation (family : Family) : Json :=
  family.vocabulary "validation"
    [("nonNegativeInteger", count),
     ("nonNegativeIntegerDefault0", reference "#/$defs/nonNegativeInteger"),
     ("simpleTypes", simpleTypes), ("stringArray", listOf text [distinctItems])] (
    all number ["exclusiveMaximum", "exclusiveMinimum", "maximum", "minimum"] ++
    all (reference "#/$defs/nonNegativeInteger")
      ["maxContains", "maxItems", "maxLength", "maxProperties", "minContains"] ++
    all (reference "#/$defs/nonNegativeIntegerDefault0")
      ["minItems", "minLength", "minProperties"] ++
    [("const", .bool true), ("dependentRequired", tableOf (reference "#/$defs/stringArray") []),
     ("enum", ofType "array" []),
     ("multipleOf", ofType "number" [("exclusiveMinimum", .integer 0)]),
     ("pattern", formatted "regex"), ("required", reference "#/$defs/stringArray"),
     ("type", typeOrTypes "#/$defs/simpleTypes"), ("uniqueItems", flag)])

def metaData (family : Family) : Json :=
  family.vocabulary "meta-data" [] (
    all flag ["deprecated", "readOnly", "writeOnly"] ++ all text ["description", "title"] ++
    [("default", .bool true), ("examples", ofType "array" [])])

def format (family : Family) (name : String) : Json :=
  family.vocabulary name [] [("format", text)]

def content (family : Family) : Json :=
  family.vocabulary "content" [] (
    all text ["contentEncoding", "contentMediaType"] ++ [("contentSchema", family.schema)])

/-- The document that puts vocabularies together, with what it says of keywords itself. -/
def whole (family : Family) (vocabularies : List String) (properties : Members) : Json :=
  family.document "schema" vocabularies [
    ("allOf", .list (vocabularies.map fun name ↦ reference ("meta/" ++ name))),
    ("properties", .record ([
      ("definitions", tableOf family.schema []),
      ("dependencies", tableOf
        (anyOf [family.schema, reference "meta/validation#/$defs/stringArray"]) [])] ++
      properties))]

end Family

/-- The addresses of vocabularies, each with whether it is needed. -/
def vocabularyTable (address : Json) : Json :=
  tableOf flag [("propertyNames", address)]

/-! ### The earlier version -/

def core2019 : Json :=
  family2019.vocabulary "core" [] [
    ("$anchor", ofType "string" [("pattern", .string "^[A-Za-z][-A-Za-z0-9.:_]*$")]),
    ("$comment", text), ("$defs", tableOf family2019.schema []),
    ("$id", ofType "string"
      [("format", .string "uri-reference"), ("pattern", .string "^[^#]*#?$")]),
    ("$recursiveAnchor", flag), ("$recursiveRef", formatted "uri-reference"),
    ("$ref", formatted "uri-reference"), ("$schema", formatted "uri"),
    ("$vocabulary", vocabularyTable (formatted "uri"))]

def draft2019 : List Json := [
  core2019,
  family2019.applicator (
    all family2019.schema ["additionalItems", "unevaluatedItems", "unevaluatedProperties"] ++
    [("items", anyOf [family2019.schema, reference "#/$defs/schemaArray"])]),
  family2019.validation, family2019.metaData, family2019.format "format", family2019.content,
  family2019.whole
    ["core", "applicator", "validation", "meta-data", "format", "content"] []]

/-! ### The latest version -/

def core2020 : Json :=
  let anchor := reference "#/$defs/anchorString"
  let address := reference "#/$defs/uriReferenceString"
  family2020.vocabulary "core"
    [("anchorString", ofType "string" [("pattern", .string "^[A-Za-z_][-A-Za-z0-9._]*$")]),
     ("uriReferenceString", formatted "uri-reference"), ("uriString", formatted "uri")] [
    ("$anchor", anchor), ("$comment", text), ("$defs", tableOf family2020.schema []),
    ("$dynamicAnchor", anchor), ("$dynamicRef", address),
    ("$id", .record [("$ref", .string "#/$defs/uriReferenceString"),
      ("pattern", .string "^[^#]*#?$")]),
    ("$ref", address), ("$schema", reference "#/$defs/uriString"),
    ("$vocabulary", vocabularyTable (reference "#/$defs/uriString"))]

def unevaluated2020 : Json :=
  family2020.vocabulary "unevaluated" []
    (all family2020.schema ["unevaluatedItems", "unevaluatedProperties"])

def draft2020 : List Json := [
  core2020,
  family2020.applicator
    [("items", family2020.schema), ("prefixItems", reference "#/$defs/schemaArray")],
  unevaluated2020, family2020.validation, family2020.metaData,
  family2020.format "format-annotation", family2020.format "format-assertion",
  family2020.content,
  family2020.whole
    ["core", "applicator", "unevaluated", "validation", "meta-data", "format-annotation",
      "content"]
    [("$recursiveAnchor", reference "meta/core#/$defs/anchorString"),
     ("$recursiveRef", reference "meta/core#/$defs/uriReferenceString")]]

end Brokerage.Schema.Metaschema
