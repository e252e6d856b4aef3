import Brokerage.Schema.Content
import Brokerage.Schema.Coverage
import Brokerage.Schema.Format

/-!
Checking a value against a schema. Every keyword of a schema adds its violations, in the turns of
the keywords; a keyword that looks into parts of the value or at other schemas does so through
the judgement it is given. A judgement of bounded depth is built from the one below it.
-/

set_option autoImplicit false

namespace Brokerage.Schema

/-! ### Values of any kind -/

def hasType (draft : Draft) (value : Json) (name : String) : Bool :=
  match value with
  | .null => name == "null"
  | .bool _ => name == "boolean"
  | .integer _ => name == "integer" || name == "number"
  | .real _ => name == "number" || (name == "integer" && draft != .draft4 && value.isWhole)
  | .string _ => name == "string"
  | .list _ => name == "array"
  | .object _ => name == "object"

/-- The types that a schema names, in alphabetical order and once each. -/
def typeNames (argument : Json) : List String :=
  match argument with
  | .string name => [name]
  | other => ((other.itemsOf.map Json.textOf).mergeSort fun a b ↦ a ≤ b).eraseReps

def generalRule (site : Site) : Rule := fun name argument value ↦
  if name = "type" then
    let types := typeNames argument
    blameUnless (types.any (hasType site.scope.draft value)) (.notOfType value types)
  else if name = "enum" then
    blameUnless (argument.itemsOf.any value.alike) (.notAmong value argument.itemsOf)
  else if name = "const" then blameUnless (argument.alike value) (.notConstant argument)
  else []

/-! ### Numbers -/

/-- Whether a limit is strict because its neighbour says so, as in the oldest version. -/
def strictBy (site : Site) (name : String) : Bool :=
  site.scope.draft == .draft4 && site.neighbour? name == some (.bool true)

def numberRule (site : Site) : Rule := fun name argument value ↦
  match value.quantity?, argument.quantity? with
  | some number, some limit =>
    if name = "minimum" then
      if strictBy site "exclusiveMinimum" then
        blameUnless (limit.less number) (.notAboveMinimum value argument)
      else blameUnless (!number.less limit) (.belowMinimum value argument)
    else if name = "maximum" then
      if strictBy site "exclusiveMaximum" then
        blameUnless (number.less limit) (.notBelowMaximum value argument)
      else blameUnless (!limit.less number) (.aboveMaximum value argument)
    else if name = "exclusiveMinimum" then
      blameUnless (limit.less number) (.notAboveMinimum value argument)
    else if name = "exclusiveMaximum" then
      blameUnless (number.less limit) (.notBelowMaximum value argument)
    else if name = "multipleOf" then
      match value.double?, argument.double? with
      | some number, some unit =>
        blameUnless (number.isMultipleOf unit) (.notMultiple value unit)
      | _, _ => []
    else []
  | _, _ => []

/-! ### Texts -/

/-- What is wrong with a text that should match a pattern. A search that is given up settles
nothing. -/
def patternViolations (pattern : Pattern.Spelled) (text : String) : List Violation :=
  match pattern.verdict text with
  | .accepted => []
  | .rejected => [.noMatch (.string text) pattern.spelling]
  | .tooManyWaiting => [.unsettled "Max stack size exceeded for backtracking"]
  | .tooManyFailures => [.unsettled "Max limit for backtracking count exceeded"]

def textRule (site : Site) : Rule := fun name argument value ↦
  match value with
  | .string s =>
    if name = "minLength" then
      match argument.count? with
      | some limit => blameUnless (limit ≤ s.length) (.tooShort value limit)
      | none => []
    else if name = "maxLength" then
      match argument.count? with
      | some limit => blameUnless (s.length ≤ limit) (.tooLong value limit)
      | none => []
    else if name = "pattern" then
      match Pattern.ofText? argument.textOf with
      | some pattern => patternViolations pattern s
      | none => []
    else if name = "format" && site.scope.draft.checksFormats then
      blameUnless (Format.accepts site.scope.draft argument.textOf s)
        (.notOfFormat value argument.textOf)
    else if name = "contentMediaType" then
      let encoding? := (site.neighbour? "contentEncoding").bind Json.text?
      Content.mediaTypeViolations s argument.textOf encoding?
    else if name = "contentEncoding" && (site.neighbour? "contentMediaType").isNone then
      Content.encodingViolations s argument.textOf
    else []
  | _ => []

/-! ### Lists -/

def eachItem (judge : Judgement) (site : Site) (items : List Json) : List Violation :=
  items.flatMap (judge site)

def itemByItem (judge : Judgement) (schemas : List Site) (items : List Json) : List Violation :=
  (schemas.zip items).flatMap fun (inner, item) ↦ judge inner item

/-- The type in a schema that says nothing else, if a value has it by its form. -/
def bareType? (schema : Json) : Option String :=
  match schema with
  | .object [("type", .string name)] =>
    if ["boolean", "integer", "number", "string"].contains name then some name else none
  | _ => none

/-- All items beyond those at the front by one schema. A bare type of all items counts in every
vocabulary. -/
def itemsRule (judge : Judgement) (site : Site) (schema : Json) (items : List Json) :
    List Violation :=
  match bareType? schema, site.neighbour? "prefixItems" with
  | some name, none =>
    items.flatMap fun item ↦
      blameUnless (hasType site.scope.draft item name) (.notOfType item [name])
  | _, _ => eachItem judge (site.part ["items"] schema) (items.drop site.frontLength)

/-- Where the schemas of items are listed, the rule for the items beyond. Where all items are
forbidden already, so is every value. -/
def additionalItemsRule (judge : Judgement) (site : Site) (schema value : Json) :
    List Violation :=
  match site.neighbour? "items", value, schema with
  | some (.bool false), _, _ => [.forbiddenByFalse value]
  | some (.list schemas), .list items, .bool false =>
    let additional := items.drop schemas.length
    blameUnless additional.isEmpty (.additionalItems additional)
  | some (.list schemas), .list items, schema =>
    eachItem judge (site.part ["additionalItems"] schema) (items.drop schemas.length)
  | _, _, _ => []

/-- The limit that a neighbour sets, if the version knows it. -/
def containedLimit? (site : Site) (name : String) : Option Nat :=
  if site.scope.draft.since .draft2019 then (site.neighbour? name).bind Json.count? else none

def containsRule (judge : Judgement) (site : Site) (schema value : Json) (items : List Json) :
    List Violation :=
  let inner := site.part ["contains"] schema
  let found := (items.filter fun item ↦ (judge inner item).isEmpty).length
  let least := (containedLimit? site "minContains").getD 1
  let fits := match containedLimit? site "maxContains" with
    | some most => found ≤ most
    | none => true
  blameUnless (least ≤ found && fits) (.noneContained value)

def listRule (judge : Judgement) (site : Site) : Rule := fun name argument value ↦
  match value with
  | .list items =>
    if name = "minItems" then
      match argument.count? with
      | some limit => blameUnless (limit ≤ items.length) (.tooFewItems value limit)
      | none => []
    else if name = "maxItems" then
      match argument.count? with
      | some limit => blameUnless (items.length ≤ limit) (.tooManyItems value limit)
      | none => []
    else if name = "uniqueItems" then
      blameUnless (!argument.flagOf || Json.allDistinct items) (.repeatedItems value)
    else if name = "prefixItems" then itemByItem judge (site.listed name argument) items
    else if name = "items" then
      match argument with
      | .list _ => itemByItem judge (site.listed name argument) items
      | schema => itemsRule judge site schema items
    else if name = "contains" then containsRule judge site argument value items
    else []
  | _ => []

/-! ### Objects -/

/-- Whether no name is left to other rules than the one for additional names. -/
def namesNothing (site : Site) : Bool :=
  (site.neighbour? "properties").isNone && (site.neighbour? "patternProperties").isNone

/-- What is wrong with the names of an object by a keyword that sees to them along with others: one
for which there is no property is missing in any case. -/
def requireOwn (site : Site) (members : Members) : List Violation :=
  ((site.namesRequiredBy "additionalProperties").filter fun name ↦
    (site.own? name).isNone || !members.contains name).map .missingProperty

/-- Every member by the schemas that govern it, and those that none governs by the rule for
additional ones. Where all are additional and none is allowed, the first is blamed. -/
def additionalRule (judge : Judgement) (site : Site) (argument : Json) (members : Members) :
    List Violation :=
  let byAll (value : Json) (schemas : List Site) : List Violation :=
    schemas.flatMap fun inner ↦ judge inner value
  match argument with
  | .bool false =>
    if namesNothing site then (members.take 1).map fun entry ↦ .forbiddenByFalse entry.2
    else
      let additional := members.filter fun entry ↦ (site.governing entry.1).isEmpty
      members.flatMap (fun (name, value) ↦ byAll value (site.governing name)) ++
        requireOwn site members ++
        blameUnless additional.isEmpty (.additionalProperties (additional.map Prod.fst))
  | schema =>
    members.flatMap fun (name, value) ↦
      match site.governing name with
      | [] => judge (site.part ["additionalProperties"] schema) value
      | schemas => byAll value schemas

def requireAll (members : Members) (names : List String) : List Violation :=
  (names.filter fun name ↦ !members.contains name).map .missingProperty

def propertyNamesRule (judge : Judgement) (site : Site) (schema value : Json)
    (members : Members) : List Violation :=
  match schema with
  | .bool false => blameUnless members.isEmpty (.forbiddenByFalse value)
  | _ => members.flatMap fun entry ↦ judge (site.part ["propertyNames"] schema) (.string entry.1)

/-- What else is asked of an object that has certain members, by the keyword `name`. -/
def dependentRule (judge : Judgement) (site : Site) (name : String) (argument value : Json)
    (members : Members) : List Violation :=
  argument.membersOf.flatMap fun (key, dependent) ↦
    if members.contains key then
      match dependent with
      | .list names => requireAll members (names.map Json.textOf)
      | schema => judge (site.part [key, name] schema) value
    else []

def objectRule (judge : Judgement) (site : Site) : Rule := fun name argument value ↦
  match value with
  | .object members =>
    if name = "required" then requireAll members (site.namesRequiredBy name)
    else if name = "minProperties" then
      match argument.count? with
      | some limit => blameUnless (limit ≤ members.length) (.tooFewProperties value limit)
      | none => []
    else if name = "maxProperties" then
      match argument.count? with
      | some limit => blameUnless (members.length ≤ limit) (.tooManyProperties value limit)
      | none => []
    else if name = "properties" then
      if site.restricts then []
      else
        (site.tabled name argument).flatMap (fun (key, inner) ↦
          match Members.get? members key with
          | some item => judge inner item
          | none => []) ++ requireAll members (site.namesRequiredBy name)
    else if name = "patternProperties" then
      if site.restricts then []
      else
        (site.tabled name argument).flatMap fun (key, inner) ↦
          match Pattern.ofText? key with
          | some pattern =>
            (members.filter fun entry ↦ pattern.accepts entry.1).flatMap fun entry ↦
              judge inner entry.2
          | none => []
    else if name = "additionalProperties" then
      if site.restricts then additionalRule judge site argument members else []
    else if name = "propertyNames" then propertyNamesRule judge site argument value members
    else if name = "dependentRequired" || name = "dependentSchemas" || name = "dependencies" then
      dependentRule judge site name argument value members
    else []
  | _ => []

/-! ### Combinations of schemas -/

def conditionalRule (judge : Judgement) (site : Site) (condition value : Json) :
    List Violation :=
  let holds := (judge (site.part ["if"] condition) value).isEmpty
  match site.beside? (if holds then "then" else "else") with
  | some consequence => judge consequence value
  | none => []

/-- A reference that leads nowhere or round in a circle adds nothing. -/
def referenceRule (judge : Judgement) (site : Site) (name : String) (argument value : Json) :
    List Violation :=
  match Reference.follow site name argument with
  | .ok (some target) =>
    match target.settled.siteFor? value with
    | some behind => judge behind value
    | none => []
  | _ => []

def combinationRule (judge : Judgement) (site : Site) : Rule := fun name argument value ↦
  let accepts (inner : Site) : Bool := (judge inner value).isEmpty
  if name = "allOf" then (site.listed name argument).flatMap fun inner ↦ judge inner value
  else if name = "anyOf" then
    blameUnless ((site.listed name argument).any accepts) (.noAlternative value name)
  else if name = "oneOf" then
    match (site.listed name argument).filter accepts with
    | [] => [.noAlternative value name]
    | [_] => []
    | _ => [.severalAlternatives value]
  else if name = "not" then 
    blameUnless (!accepts (site.part [name] argument)) (.forbidden argument value)
  else if name = "if" then conditionalRule judge site argument value
  else if name = "additionalItems" then additionalItemsRule judge site argument value
  else if referenceKeywords.contains name then referenceRule judge site name argument value
  else []

/-! ### What is left -/

/-- The parts of a value that fail the schema for the rest, given by the keyword `name`, and that no
other keyword looks at. -/
def neglected (judge : Judgement) (cover : Coverage) (site : Site) (name : String)
    (argument value : Json) : List Part :=
  let others := site.schema.membersOf.filter fun entry ↦ entry.1 != name
  (Part.allOf value).filter fun part ↦
    !(judge (site.part [name] argument) part.value).isEmpty &&
      !coverBy judge cover { site with schema := .object others } value part

/-- What is wrong if parts are left over. -/
def blameLeft (parts : List Part) (violation : List Part → Violation) : List Violation :=
  if parts.isEmpty then [] else [violation parts]

def remainderRule (judge : Judgement) (cover : Coverage) (site : Site) : Rule :=
  fun name argument value ↦
  match value with
  | .object _ =>
    if name = "unevaluatedProperties" then
      blameLeft (neglected judge cover site name argument value) fun parts ↦
        .unevaluatedProperties (parts.map Part.name)
    else []
  | .list _ =>
    if name = "unevaluatedItems" then
      blameLeft (neglected judge cover site name argument value) fun parts ↦
        .unevaluatedItems (parts.map Part.value)
    else []
  | _ => []

/-! ### Schemas -/

/-- The violations of a schema, with parts and other schemas left to the given judgement and
coverage. -/
def judgeBy (judge : Judgement) (cover : Coverage) : Judgement := fun site value ↦
  match site.schema with
  | .bool false => [.forbiddenByFalse value]
  | .object _ =>
    (keywordsInTurn site).flatMap fun (name, argument) ↦
      generalRule site name argument value ++ numberRule site name argument value ++
        textRule site name argument value ++ listRule judge site name argument value ++
        objectRule judge site name argument value ++
        combinationRule judge site name argument value ++
        remainderRule judge cover site name argument value
  | _ => []

mutual

/-- The judgement that looks `depth` schemas deep and finds nothing wrong beyond. -/
def judgeTo : (depth : Nat) → Judgement
  | 0 => fun _ _ ↦ []
  | depth + 1 => fun site value ↦ judgeBy (judgeTo depth) (coverTo depth) site value

/-- The coverage that looks `depth` schemas deep and finds everything looked at beyond. -/
def coverTo : (depth : Nat) → Coverage
  | 0 => fun _ _ _ ↦ true
  | depth + 1 => fun site whole part ↦ coverBy (judgeTo depth) (coverTo depth) site whole part

end

/-- A depth that no check goes beyond: between two steps into the value, no reference is followed
for a third time. -/
def depthFor (site : Site) (value : Json) : Nat :=
  2 * site.scope.reach * (value.depth + 2)

def violations (site : Site) (value : Json) : List Violation :=
  judgeTo (depthFor site value) site value

end Brokerage.Schema
