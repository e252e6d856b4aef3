import Brokerage.Schema.Draft

/-!
Where the schemas inside a schema stand. A keyword may hold one schema, a list of them or a table
of them, and which keywords do depends on the version; a schema that stands anywhere else has no
address and no anchors of its own.
-/

set_option autoImplicit false

namespace Brokerage.Schema

namespace Draft

/-- Keywords that hold one schema. -/
def holdingOne : Draft → List String
  | .draft4 => ["additionalItems", "additionalProperties", "not"]
  | .draft6 => ["additionalItems", "additionalProperties", "contains", "not", "propertyNames"]
  | .draft7 => ["additionalItems", "additionalProperties", "contains", "else", "if", "not",
      "propertyNames", "then"]
  | .draft2019 => ["additionalItems", "additionalProperties", "contains", "contentSchema", "else",
      "if", "not", "propertyNames", "then", "unevaluatedItems", "unevaluatedProperties"]
  | .draft2020 | .custom => ["additionalProperties", "contains", "contentSchema", "else", "if",
      "items", "not", "propertyNames", "then", "unevaluatedItems", "unevaluatedProperties"]

/-- Keywords that hold a list of schemas. -/
def holdingList : Draft → List String
  | .draft2020 | .custom => ["allOf", "anyOf", "oneOf", "prefixItems"]
  | _ => ["allOf", "anyOf", "oneOf"]

/-- Keywords that hold a table of schemas. -/
def holdingTable (draft : Draft) : List String :=
  if draft.since .draft2019 then
    ["$defs", "definitions", "dependentSchemas", "patternProperties", "properties"]
  else ["definitions", "patternProperties", "properties"]

/-- Keywords that hold schemas or something else. -/
def holdingMixed : Draft → List String
  | .draft2020 | .custom => []
  | .draft2019 => ["items"]
  | _ => ["dependencies", "items"]

end Draft

/-- The schemas in the value of a keyword. Dependencies are schemas if the first of them is. -/
def schemasIn (draft : Draft) (name : String) (argument : Json) : List Json :=
  if draft.holdingOne.contains name then [argument]
  else if draft.holdingList.contains name then argument.itemsOf
  else if draft.holdingTable.contains name then argument.membersOf.map Prod.snd
  else if draft.holdingMixed.contains name then
    if name = "items" then
      match argument with
      | .list items => items
      | other => [other]
    else
      match argument.membersOf.map Prod.snd with
      | .object first :: rest => .object first :: rest
      | _ => []
  else []

/-- The schemas right inside a schema. -/
def subschemas (draft : Draft) (schema : Json) : List Json :=
  (schema.membersOf.flatMap fun (name, argument) ↦ schemasIn draft name argument).filter fun s ↦
    match s with
    | .object _ => true
    | _ => false

/-- A step into a value. -/
inductive Step where
  | name (name : String)
  | place (place : Nat)

/-- Whether steps from a schema lead to a schema; `isObject` says what they lead to. -/
def leadsToSchema (draft : Draft) (isObject : Bool) : List Step → Bool
  | [] => true
  | .place _ :: _ => false
  | .name keyword :: rest =>
    if isObject && draft.holdingMixed.contains keyword then true
    else if draft.holdingOne.contains keyword then leadsToSchema draft isObject rest
    else if draft.holdingList.contains keyword || draft.holdingTable.contains keyword then
      match rest with
      | [] => false
      | _ :: others => leadsToSchema draft isObject others
    else false

/-- The address that a schema gives itself. In older versions one that only names a place is an
anchor instead, and a reference hides it. -/
def ownAddress? (draft : Draft) (schema : Json) : Option String :=
  match schema.textAt? draft.addressKeyword with
  | none => none
  | some address =>
    let hidden := schema.membersOf.contains "$ref" || address.startsWith "#"
    if draft.referencesStandAlone && hidden then none
    else some (String.ofList (address.toList.reverse.dropWhile (· == '#')).reverse)

end Brokerage.Schema
