import Brokerage.Schema.Registry

/-!
Schemas where they are used. What a schema means depends on the base from which its references are
completed, on the documents through which it was reached, and on the version and the vocabularies in
force. Of several schemas at one place the one that was met first is read for all. References may
lead round in a circle, so a site remembers those that were followed.
-/

set_option autoImplicit false

namespace Brokerage.Schema

/-- A place at which schemas are used: the steps to it from where the last reference led, latest
first, the base there, and the bases from which it was reached, latest first. Anchors and whole
documents are no steps away, so that there may be several schemas at one place. -/
structure Place where
  path : List String
  base : Address
  outer : List Address
  deriving DecidableEq

/-- A schema with the version and the vocabularies that it is read by. -/
structure Reading where
  schema : Json
  draft : Draft
  vocabularies : List Vocabulary

/-- A reference as it is written in full, and the bases from which its end is reached. -/
abbrev Mention := Address × List Address

/-- What is read in the place of other schemas, where several are used at one place: behind
references and inside schemas. -/
structure Replacements where
  behind : List (Mention × Reading) := []
  inside : List ((Place × Json) × Reading) := []

/-- Where a schema is used: what is known, the base of its references, the bases from which it was
reached, latest first, the version and the vocabularies in force, and what is read in the place of
other schemas. -/
structure Scope where
  registry : Registry
  base : Address
  outer : List Address := []
  draft : Draft
  vocabularies : List Vocabulary
  replacements : Replacements := {}

namespace Scope

/-- The scope at another base, reached from here. -/
def movedTo (scope : Scope) (base : Address) : Scope :=
  if scope.outer.isEmpty || base ≠ scope.base then
    { scope with base, outer := scope.base :: scope.outer }
  else { scope with base }

/-- The scope at the address that a schema gives itself. -/
def at? (scope : Scope) (resource : Resource) : Except Defect Scope :=
  match ownAddress? resource.draft resource.contents with
  | none => .ok scope
  | some own =>
    match scope.base.follow own with
    | .ok base => .ok (scope.movedTo base)
    | .error defect => .error defect

/-- The scope in a schema inside one of the scope. -/
def inside (scope : Scope) (schema : Json) : Except Defect Scope :=
  let draft := scope.draft.of schema
  { scope with draft }.at? ⟨schema, draft⟩

/-- More than the number of schemas that can be met before one is met again. -/
def reach (scope : Scope) : Nat :=
  let known := scope.registry.resources.foldl
    (fun total entry ↦ total + extent entry.2.contents) 1
  known * known * known

end Scope

/-- A reference that was followed: its address in full and the base that it led to. -/
abbrev Junction := Address × Address

/-- The references on the way to a site, and those that were followed again, each with the value
for which it was. -/
structure Trail where
  followed : List Junction := []
  again : List (Junction × Json) := []

/-- The trail behind a reference that is followed for a value, unless it was followed again for that
value already and would lead round in a circle. -/
def Trail.past? (trail : Trail) (junction : Junction) (value : Json) : Option Trail :=
  if !trail.followed.contains junction then
    some { trail with followed := junction :: trail.followed }
  else if trail.again.contains (junction, value) then none
  else some { trail with again := (junction, value) :: trail.again }

/-- A schema where it is used, with the steps to it from where the last reference led, latest
first. -/
structure Site where
  scope : Scope
  path : List String
  schema : Json
  trail : Trail := {}

namespace Site

def place (site : Site) : Place :=
  ⟨site.path, site.scope.base, site.scope.outer⟩

def reading (site : Site) : Reading :=
  ⟨site.schema, site.scope.draft, site.scope.vocabularies⟩

/-- Another schema at the same place. -/
def reads (site : Site) (reading : Reading) : Site :=
  { site with
    scope := { site.scope with draft := reading.draft, vocabularies := reading.vocabularies }
    schema := reading.schema }

/-- The schema some steps, latest first, inside the one of a site. -/
def into (site : Site) (steps : List String) (schema : Json) : Except Defect Site :=
  match site.scope.inside schema with
  | .ok scope => .ok { site with scope, path := steps ++ site.path, schema }
  | .error defect => .error defect

/-- What is read inside the schema of a site, where nothing is wrong with its address. -/
def part (site : Site) (steps : List String) (schema : Json) : Site :=
  match site.into steps schema with
  | .ok inner =>
    match inner.scope.replacements.inside.lookup (inner.place, schema) with
    | some reading => inner.reads reading
    | none => inner
  | .error _ => { site with path := steps ++ site.path, schema }

/-- What is read in a list of schemas under a keyword. -/
def listed (site : Site) (name : String) (argument : Json) : List Site :=
  argument.itemsOf.zipIdx.map fun (schema, place) ↦ site.part [toString place, name] schema

/-- What is read in a table of schemas under a keyword, by the keys. -/
def tabled (site : Site) (name : String) (argument : Json) : List (String × Site) :=
  argument.membersOf.map fun (key, schema) ↦ (key, site.part [key, name] schema)

/-- The value of another keyword. -/
def neighbour? (site : Site) (name : String) : Option Json :=
  site.schema.membersOf.get? name

/-- What is read under another keyword. -/
def beside? (site : Site) (name : String) : Option Site :=
  (site.neighbour? name).map (site.part [name])

/-- Whether an address in full is that of the place of a schema. -/
def isAt (site : Site) (whole : Address) : Bool :=
  let steps := site.path.reverse.map fun step ↦ "/" ++ escape step
  let here := { site.scope.base with fragment := some (Address.spelled (String.join steps)) }
  { whole with fragment := some (whole.fragment.getD "") } == here

end Site

end Brokerage.Schema
