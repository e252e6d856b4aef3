import Brokerage.Pattern.Spelled
import Brokerage.Schema.Reference

/-!
Judging a value by a schema: what a judgement is, which keywords of a schema count and in which
order, and what a keyword finds out from its neighbours.
-/

set_option autoImplicit false

namespace Brokerage.Schema

/-- The violations of a schema by a value. -/
abbrev Judgement := Site → (value : Json) → List Violation

/-- The violations of one keyword: its name and its value in the schema, and the value checked. -/
abbrev Rule := (name : String) → (argument value : Json) → List Violation

/-- What is wrong unless the condition holds. -/
def blameUnless (condition : Bool) (violation : Violation) : List Violation :=
  if condition then [] else [violation]

/-! ### Keywords -/

/-- The turn of a keyword: the type is judged first, then what can be told at a glance, then parts
of the value, then the value by other schemas, and last what no other keyword looked at. -/
def turn (name : String) : Nat :=
  if name = "type" then 0
  else if ["$dynamicRef", "$recursiveRef", "$ref", "allOf", "anyOf", "dependencies",
      "dependentRequired", "dependentSchemas", "if", "not", "oneOf"].contains name then 3
  else if ["additionalItems", "additionalProperties", "contains", "items", "patternProperties",
      "prefixItems", "properties", "propertyNames"].contains name then 2
  else if name = "unevaluatedItems" || name = "unevaluatedProperties" then 4
  else 1

/-- The keywords of a schema that count where it is used. -/
def keywords (site : Site) : Members :=
  let scope := site.scope
  match scope.draft.referencesStandAlone, site.neighbour? "$ref" with
  | true, some reference => [("$ref", reference)]
  | _, _ => site.schema.membersOf.filter fun entry ↦ scope.draft.knows scope.vocabularies entry.1

/-- The keywords of a schema in their turns. -/
def keywordsInTurn (site : Site) : Members :=
  let entries := keywords site
  [0, 1, 2, 3, 4].flatMap fun n ↦ entries.filter fun entry ↦ turn entry.1 == n

/-! ### Neighbours -/

namespace Site

/-- The number of items that have schemas of their own where the schemas of items are listed. -/
def tupleLength? (site : Site) : Option Nat :=
  match site.neighbour? "items" with
  | some (.list schemas) => some schemas.length
  | _ => none

/-- The number of items at the front that are left to the schemas listed for them. -/
def frontLength (site : Site) : Nat :=
  match site.neighbour? "prefixItems" with
  | some schemas => schemas.itemsOf.length
  | none => 0

/-- Whether some names are left to the rule for additional ones. -/
def restricts (site : Site) : Bool :=
  match site.neighbour? "additionalProperties" with
  | some (.bool false) | some (.object _) => true
  | _ => false

/-- The keyword that sees to the names that an object must have, if one does. Where there are
properties too, that of a few names is `additionalProperties` if it forbids, and that of two is
`properties`, as long as these are not many and no other keyword takes them over. -/
def requiring? (site : Site) : Option String :=
  match site.neighbour? "required", site.neighbour? "properties" with
  | some (.list names), some (.object own) =>
    let forbids := site.neighbour? "additionalProperties" == some (.bool false)
    if forbids && (site.neighbour? "patternProperties").isNone && !names.isEmpty &&
        names.length ≤ 3 then some "additionalProperties"
    else if names.length != 2 then some "required"
    else if site.restricts || 15 ≤ own.length then none
    else some "properties"
  | _, _ => some "required"

/-- The names that an object must have, where a keyword sees to them. -/
def namesRequiredBy (site : Site) (keyword : String) : List String :=
  if site.requiring? == some keyword then
    ((site.neighbour? "required").getD .null).itemsOf.map Json.textOf
  else []

/-- What is read under the patterns that a name matches. -/
def matched (site : Site) (name : String) : List Site :=
  let table := ((site.neighbour? "patternProperties").getD .null).membersOf
  (table.filter fun entry ↦ (Pattern.ofText? entry.1).any (·.accepts name)).map fun entry ↦
    site.part [entry.1, "patternProperties"] entry.2

/-- What is read under the property of a name. -/
def own? (site : Site) (name : String) : Option Site :=
  (((site.neighbour? "properties").getD .null).membersOf.get? name).map
    (site.part [name, "properties"])

/-- The schemas that govern the member of a name. -/
def governing (site : Site) (name : String) : List Site :=
  (site.own? name).toList ++ site.matched name

end Site

end Brokerage.Schema
