import Brokerage.Schema.Draft

/-!
The parts that metaschemas are made of. A metaschema is a schema that says for every keyword what
its value must look like.
-/

set_option autoImplicit false

namespace Brokerage.Schema.Metaschema

/-- A schema of one type, with what else it says. -/
def ofType (type : String) (more : Members) : Json :=
  .record (("type", .string type) :: more)

def text : Json := ofType "string" []

def formatted (format : String) : Json := ofType "string" [("format", .string format)]

def flag : Json := ofType "boolean" []

def number : Json := ofType "number" []

def anything : Json := .record []

def reference (address : String) : Json :=
  .record [("$ref", .string address)]

def anyOf (schemas : List Json) : Json :=
  .record [("anyOf", .list schemas)]

def listOf (item : Json) (more : Members) : Json :=
  ofType "array" (("items", item) :: more)

def tableOf (entry : Json) (more : Members) : Json :=
  ofType "object" (("additionalProperties", entry) :: more)

def someItems : String × Json := ("minItems", .integer 1)

def distinctItems : String × Json := ("uniqueItems", .bool true)

def count : Json := ofType "integer" [("minimum", .integer 0)]

/-- A limit that is what the given place says, zero where it is left out. -/
def defaultingTo (address : String) : Json :=
  .record [("allOf", .list [reference address, anything])]

def simpleTypes : Json :=
  .record [("enum", .ofTexts
    ["array", "boolean", "integer", "null", "number", "object", "string"])]

/-- One type, or several in a list; `types` is where the types are. -/
def typeOrTypes (types : String) : Json :=
  anyOf [reference types, listOf (reference types) [someItems, distinctItems]]

/-- Patterns with their schemas. -/
def patternTable (schema : Json) : Json :=
  tableOf schema [("propertyNames", .record [("format", .string "regex")])]

/-- Keywords that all have values of one form. -/
def all (form : Json) (names : List String) : Members :=
  names.map fun name ↦ (name, form)

def objectOrFlag : Json := .ofTexts ["object", "boolean"]

end Brokerage.Schema.Metaschema
