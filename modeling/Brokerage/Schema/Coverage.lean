import Brokerage.Schema.Judgement

/-!
Which parts of a value a schema looks at. A part that no keyword of a schema looks at, and none of
the schemas that it applies to the whole value, is left to its rule for the rest. A schema that is
one of several counts only where the value satisfies it; one that is simply applied always counts.
-/

set_option autoImplicit false

namespace Brokerage.Schema

/-- A part of an object or of a list. -/
inductive Part where
  | member (name : String) (value : Json)
  | item (place : Nat) (value : Json)

namespace Part

/-- The name of a member; an item has none. -/
def name : Part → String
  | .member name _ => name
  | .item _ _ => ""

def value : Part → Json
  | .member _ value => value
  | .item _ value => value

/-- The members of an object or the items of a list. -/
def allOf : Json → List Part
  | .object members => members.map fun (name, value) ↦ .member name value
  | .list items => items.zipIdx.map fun (value, place) ↦ .item place value
  | _ => []

end Part

/-- Whether a schema looks at a part of a value. -/
abbrev Coverage := Site → (whole : Json) → Part → Bool

/-- Whether a keyword looks at a part by itself. -/
def reaches (judge : Judgement) (site : Site) (name : String) (argument : Json) : Part → Bool
  | .member key value =>
    if name = "properties" then argument.membersOf.contains key
    else if name = "patternProperties" then !(site.matched key).isEmpty
    else if name = "additionalProperties" then (site.governing key).isEmpty
    else if name = "unevaluatedProperties" then (judge (site.part [name] argument) value).isEmpty
    else false
  | .item place value =>
    if name = "prefixItems" then place < argument.itemsOf.length
    else if name = "items" then
      match argument with
      | .list schemas => place < schemas.length
      | _ => true
    else if name = "additionalItems" then site.tupleLength?.isSome
    else if name = "contains" || name = "unevaluatedItems" then
      (judge (site.part [name] argument) value).isEmpty
    else false

/-- The schema behind a reference without the items that it says are contained, if the schema that
refers to it says so of others. -/
def Site.besides (behind site : Site) : Site :=
  if (site.neighbour? "contains").isNone then behind
  else
    let others := behind.schema.membersOf.filter fun entry ↦ entry.1 != "contains"
    { behind with schema := .object others }

/-- Whether a keyword looks at a part through a schema that it applies to the whole value. -/
def reachesThrough (judge : Judgement) (cover : Coverage) (site : Site) (name : String)
    (argument whole : Json) (part : Part) : Bool :=
  let accepts (inner : Site) : Bool := (judge inner whole).isEmpty
  let covers (inner : Site) : Bool := cover inner whole part
  if name = "allOf" || name = "anyOf" then
    (site.listed name argument).any fun inner ↦ accepts inner && covers inner
  else if name = "oneOf" then
    match (site.listed name argument).filter accepts with
    | [inner] => covers inner
    | _ => false
  else if name = "if" then
    match argument with
    | .object _ =>
      let condition := site.part [name] argument
      if accepts condition then covers condition || (site.beside? "then").any covers
      else (site.beside? "else").any covers
    | _ => false
  else if name = "dependentSchemas" then
    (site.tabled name argument).any fun (key, inner) ↦
      whole.membersOf.contains key && covers inner
  else if referenceKeywords.contains name then
    match Reference.follow site name argument with
    | .ok (some target) =>
      (target.siteFor? whole).any fun behind ↦ cover (behind.besides site) whole part
    | _ => false
  else false

/-- The keywords by which a schema may look at parts: a dynamic reference counts before it is one of
those that a value is checked by. -/
def coveringKeywords (site : Site) : Members :=
  let dynamic := if site.scope.draft == .draft2019 then site.neighbour? "$dynamicRef" else none
  dynamic.toList.map ("$dynamicRef", ·) ++ keywords site

/-- The coverage of a schema, with other schemas left to the given judgement and coverage. -/
def coverBy (judge : Judgement) (cover : Coverage) : Coverage := fun site whole part ↦
  (coveringKeywords site).any fun (name, argument) ↦
    reaches judge site name argument part ||
      reachesThrough judge cover site name argument whole part

end Brokerage.Schema
