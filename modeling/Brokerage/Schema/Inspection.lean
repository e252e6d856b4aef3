import Brokerage.Schema.Content
import Brokerage.Schema.Judgement

/-!
Inspecting a schema before it is used. A metaschema says what a schema looks like, but not all that
matters: patterns must be readable and references must lead to schemas, also to places where no
metaschema expects one. A keyword makes its demands in order, and the first that cannot be met is
reported. The order also tells which of several schemas at one place is read for all of them: the
one that has been inspected by then.
-/

set_option autoImplicit false

namespace Brokerage.Schema

/-- What a keyword demands: that a value some steps inside the schema, latest first, is a schema
itself, that a reference leads to one, or what it cannot have as things are. -/
inductive Demand where
  | schema (steps : List String) (value : Json)
  | target (keyword : String) (argument : Json)
  | never (v : Violation)

namespace Demand

def ofType (value : Json) (types : List String) : List Demand :=
  [.never (.notOfType value types)]

def text (value : Json) : List Demand :=
  match value with
  | .string _ => []
  | other => ofType other ["string"]

def number (value : Json) : List Demand :=
  if value.quantity?.isSome then [] else ofType value ["number"]

/-- A whole number; the oldest version wants it written as an integer and not negative. -/
def count (draft : Draft) (value : Json) : List Demand :=
  match value with
  | .integer i =>
    if draft != .draft4 || 0 ≤ i then [] else [.never (.belowMinimum value (.integer 0))]
  | other =>
    if draft != .draft4 && other.isWhole then [] else ofType other ["integer"]

def texts (value : Json) : List Demand :=
  match value with
  | .list items => items.flatMap text
  | other => ofType other ["array"]

/-- The schemas in a list under a keyword. -/
def listed (name : String) (items : List Json) : List Demand :=
  items.zipIdx.map fun (item, place) ↦ .schema [toString place, name] item

def schemas (name : String) (value : Json) : List Demand :=
  match value with
  | .list items => listed name items
  | other => ofType other ["array"]

/-- A table, each of whose members makes demands. -/
def table (value : Json) (entry : String × Json → List Demand) : List Demand :=
  match value with
  | .object members => members.flatMap entry
  | other => ofType other ["object"]

def schemaTable (name : String) (value : Json) : List Demand :=
  table value fun (key, inner) ↦ [.schema [key, name] inner]

/-- A table of patterns; where one cannot be read, its schema is what is shown. -/
def patternTable (value : Json) : List Demand :=
  table value fun (pattern, inner) ↦
    if (Pattern.ofText? pattern).isSome then [.schema [pattern, "patternProperties"] inner]
    else [.never (.notOfFormat inner "regex")]

/-! ### Keywords -/

/-- The names of types. -/
def typeNames : List String :=
  ["array", "boolean", "integer", "null", "number", "object", "string"]

def oneType (value : Json) : List Demand :=
  match value with
  | .string name => if typeNames.contains name then [] else [.never .noType]
  | other => ofType other ["string"]

def types (value : Json) : List Demand :=
  match value with
  | .string _ => oneType value
  | .list [one] => oneType one
  | .list several =>
    several.flatMap fun one ↦
      match one with
      | .string name =>
        if typeNames.contains name then []
        else [.never (.notAmong one (typeNames.map .string))]
      | other => ofType other ["string"]
  | other => ofType other ["array", "string"]

def pattern (value : Json) : List Demand :=
  match value with
  | .string s =>
    if (Pattern.ofText? s).isSome then [] else [.never (.notOfFormat value "regex")]
  | other => ofType other ["string"]

/-- Names that `properties` might see to are not looked at. -/
def required (site : Site) (value : Json) : List Demand :=
  match value, site.neighbour? "properties" with
  | .list [_, _], some (.object _) => []
  | _, _ => texts value

/-- The schemas of items, or the one of all items unless it says nothing of them. -/
def items (value : Json) : List Demand :=
  match value with
  | .list schemas => listed "items" schemas
  | .object _ | .bool false => [.schema ["items"] value]
  | _ => []

def additionalItems (site : Site) (value : Json) : List Demand :=
  match site.neighbour? "items", value with
  | some (.list _), .object _ => [.schema ["additionalItems"] value]
  | some (.list _), _ | some (.object _), _ | some (.bool _), _ | none, _ => []
  | some _, _ => ofType value ["array", "boolean", "object"]

/-- The rule for additional names takes in those for the other names. -/
def additionalProperties (site : Site) (value : Json) : List Demand :=
  let patterns := ((site.neighbour? "patternProperties").map patternTable).getD []
  let additional := Demand.schema ["additionalProperties"] value
  if site.restricts then
    let own := match site.neighbour? "properties" with
      | some (.object members) => schemaTable "properties" (.object members)
      | some _ => [.never .noType]
      | none => []
    patterns ++ own ++ [additional]
  else
    match value with
    | .bool _ => patterns
    | _ => patterns ++ [additional]

def contains (site : Site) (value : Json) : List Demand :=
  let limits :=
    if site.scope.draft.since .draft2019 then
      ["minContains", "maxContains"].flatMap fun name ↦
        ((site.neighbour? name).map (count site.scope.draft)).getD []
    else []
  limits ++ [.schema ["contains"] value]

/-- A condition without consequences demands nothing. -/
def condition (site : Site) (value : Json) : List Demand :=
  let consequences := ["then", "else"].filterMap fun name ↦
    (site.neighbour? name).map (Demand.schema [name])
  if consequences.isEmpty then [] else .schema ["if"] value :: consequences

def dependencies (value : Json) : List Demand :=
  table value fun (key, dependent) ↦
    match dependent with
    | .list names => names.flatMap text
    | inner => [.schema [key, "dependencies"] inner]

def dependentNames (value : Json) : List Demand :=
  table value fun (_, names) ↦
    match names with
    | .list items => if Json.allDistinct items then texts names else [.never (.repeatedItems names)]
    | other => ofType other ["array"]

/-- A media type that is known needs to know the encoding. -/
def mediaType (site : Site) (value : Json) : List Demand :=
  match value, site.neighbour? "contentEncoding" with
  | .string name, some encoding => if Content.isKnownMediaType name then text encoding else []
  | other, _ => text other

/-- What is left over, under the keyword `name`, is told by what the condition says, even if it has
no consequences. -/
def remainder (site : Site) (name : String) (value : Json) : List Demand :=
  match value, site.neighbour? "if" with
  | .bool true, _ => []
  | _, some (.object members) => [.schema ["if"] (.object members), .schema [name] value]
  | _, _ => [.schema [name] value]

/-- What a keyword of a schema demands. -/
def ofKeyword (site : Site) (name : String) (value : Json) : List Demand :=
  if referenceKeywords.contains name then [.target name value]
  else if name = "type" then types value
  else if name = "enum" then
    match value with
    | .list _ => []
    | other => ofType other ["array"]
  else if name = "required" then required site value
  else if ["maxItems", "maxLength", "maxProperties", "minItems", "minLength",
      "minProperties"].contains name then count site.scope.draft value
  else if ["exclusiveMaximum", "exclusiveMinimum", "maximum", "minimum",
      "multipleOf"].contains name then number value
  else if name = "uniqueItems" then
    match value with
    | .bool _ => []
    | other => ofType other ["boolean"]
  else if name = "pattern" then pattern value
  else if name = "format" then if site.scope.draft.checksFormats then text value else []
  else if name = "contentMediaType" then mediaType site value
  else if name = "contentEncoding" then
    if (site.neighbour? "contentMediaType").isSome then [] else text value
  else if name = "properties" then if site.restricts then [] else schemaTable name value
  else if name = "patternProperties" then if site.restricts then [] else patternTable value
  else if name = "additionalProperties" then additionalProperties site value
  else if name = "items" then items value
  else if name = "additionalItems" then additionalItems site value
  else if ["allOf", "anyOf", "oneOf", "prefixItems"].contains name then schemas name value
  else if name = "contains" then contains site value
  else if name = "not" then [.schema [name] value]
  else if name = "propertyNames" then
    match value with
    | .object _ => [.schema [name] value]
    | _ => []
  else if name = "if" then condition site value
  else if name = "dependencies" then dependencies value
  else if name = "dependentRequired" then dependentNames value
  else if name = "dependentSchemas" then schemaTable name value
  else if name = "unevaluatedItems" || name = "unevaluatedProperties" then
    remainder site name value
  else []

end Demand

/-! ### Places -/

/-- What is known of the schemas that have been met: where references led; the references that were
made, each with what is read instead of its end, if anything is; what has been inspected at which
place, latest first; and what is read instead of schemas inside others. -/
structure Acquaintance where
  followed : List Junction := []
  mentions : List (Mention × Option Reading) := []
  places : List (Place × Reading) := []
  inside : List ((Place × Json) × Reading) := []

namespace Acquaintance

/-- What has been inspected at the place of a site. Until a reference has been followed, no place is
met twice. -/
def at? (known : Acquaintance) (site : Site) : Option Reading :=
  if site.scope.outer.isEmpty then none else known.places.lookup site.place

def inspected (known : Acquaintance) (site : Site) : Acquaintance :=
  if site.scope.outer.isEmpty then known
  else { known with places := (site.place, site.reading) :: known.places }

/-- A schema inside another is met where something has been inspected already. -/
def met (known : Acquaintance) (site : Site) (reading : Reading) : Acquaintance :=
  if reading.schema = site.schema then known
  else { known with inside := ((site.place, site.schema), reading) :: known.inside }

/-- A reference is made to a site where something may have been inspected already. -/
def mentioned (known : Acquaintance) (target : Target) (reading? : Option Reading) : Acquaintance :=
  let instead? := reading?.filter fun reading ↦ reading.schema != target.site.schema
  { known with mentions := (target.mention, instead?) :: known.mentions }

def replacements (known : Acquaintance) : Replacements where
  behind := known.mentions.filterMap fun (mention, reading?) ↦ reading?.map (mention, ·)
  inside := known.inside

end Acquaintance

/-! ### Inspection -/

mutual

/-- Inspects a schema, looking `depth` schemas deep, unless there is something wrong with it. -/
def inspectTo : (depth : Nat) → Acquaintance → Site → Except Defect Acquaintance
  | 0, known, _ => .ok known
  | depth + 1, known, site =>
    match site.schema with
    | .bool _ => .ok (known.inspected site)
    | .object _ => do
      let known ← (keywords site).foldlM (fun known (name, value) ↦
        (Demand.ofKeyword site name value).foldlM (fun known demand ↦
          match demand with
          | .never v => .error (.violation v)
          | .schema steps value =>
            match site.into steps value with
            | .ok inner => inspectInside depth known inner
            | .error defect => .error defect
          | .target keyword argument =>
            match Reference.follow site keyword argument with
            | .ok (some target) => inspectBehind depth known target
            | .ok none => .ok known
            | .error defect => .error defect) known) known
      return known.inspected site
    | other => .error (.violation (.notOfType other ["boolean", "object"]))

/-- Inspects a schema inside another. -/
def inspectInside : (depth : Nat) → Acquaintance → Site → Except Defect Acquaintance
  | 0, known, _ => .ok known
  | depth + 1, known, site =>
    match known.at? site with
    | some reading => .ok (known.met site reading)
    | none => inspectTo depth known site

/-- Inspects where a reference leads. What has been inspected at its place before the reference is
made for the first time is read instead from then on, except on the way from where it leads. -/
def inspectBehind : (depth : Nat) → Acquaintance → Target → Except Defect Acquaintance
  | 0, known, _ => .ok known
  | depth + 1, known, target =>
    if (known.mentions.lookup target.mention).isSome then .ok known
    else
      let there? := if target.isUnderWay then none else known.at? target.site
      let known := known.mentioned target there?
      if there?.isSome || known.followed.contains target.junction then .ok known
      else
        inspectTo depth { known with followed := target.junction :: known.followed } target.entered

end

/-- A schema where it is used, with what is read in the place of others, unless there is something
wrong with it. -/
def inspected (site : Site) : Except Defect Site :=
  match inspectTo (2 * site.scope.reach) {} site with
  | .ok known =>
    .ok { site with scope := { site.scope with replacements := known.replacements } }
  | .error defect => .error defect

end Brokerage.Schema
