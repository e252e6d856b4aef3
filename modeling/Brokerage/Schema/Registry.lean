import Brokerage.Schema.Defect
import Brokerage.Schema.Subschema

/-!
Registries of schemas. A registry knows the schemas that have an address and the anchors in them. A
document is taken in from the outside to the inside: its schemas are entered, and the references
that lead out of it are gathered, which must then lead to something that the registry knows.
-/

set_option autoImplicit false

namespace Brokerage.Schema

/-- A schema with its version. -/
structure Resource where
  contents : Json
  draft : Draft

/-- A schema that is known by a name inside a document. A dynamic one gives way to one of the same
name in a document from which it was reached. -/
structure Anchor where
  resource : Resource
  isDynamic : Bool

/-- Of two entries for one address the first counts. -/
structure Registry where
  resources : List (Address × Resource) := []
  anchors : List ((Address × String) × Anchor) := []

namespace Registry

def find? (registry : Registry) (address : Address) : Option Resource :=
  registry.resources.lookup address

def anchor? (registry : Registry) (address : Address) (name : String) : Option Anchor :=
  registry.anchors.lookup (address, name)

/-- All that one registry knows, and all else that another does. -/
def addedTo (first second : Registry) : Registry :=
  ⟨first.resources ++ second.resources, first.anchors ++ second.anchors⟩

end Registry

/-- The vocabularies of the documents of a metaschema, if it says which by addresses that can be
read. -/
def vocabulariesOf? (metaschema : Json) : Option (List Vocabulary) :=
  let chosen (entry : String × Json) : Option (List Vocabulary) :=
    match entry.2, Address.ofDocument entry.1 with
    | .bool true, .ok address => some (Draft.vocabulariesAt address.text)
    | .bool true, .error _ => none
    | _, _ => some []
  match metaschema.field "$vocabulary" with
  | .object members => (members.mapM chosen).map List.flatten
  | _ => none

/-- The metaschema that a schema of a version of its own names, if it is known. -/
def Registry.metaschema? (registry : Registry) (schema : Json) : Option Resource :=
  (schema.textAt? "$schema").bind fun name ↦
    (Address.ofDocument name).toOption.bind fun address ↦
      registry.find? address.withoutFragment

/-- The vocabularies of a schema to which a reference leads: those that its own metaschema chooses,
if it has one that does, and else those of its version. -/
def Registry.vocabulariesFor (registry : Registry) (resource : Resource) : List Vocabulary :=
  let draft := resource.draft.of resource.contents
  let chosen? :=
    if draft = .custom then
      (registry.metaschema? resource.contents).bind fun found ↦ vocabulariesOf? found.contents
    else none
  chosen?.getD draft.vocabularies

/-- The anchors that a schema sets. -/
def Resource.anchors (resource : Resource) : List (String × Anchor) :=
  let named (keyword : String) (isDynamic : Bool) : List (String × Anchor) :=
    (resource.contents.textAt? keyword).toList.map fun name ↦ (name, ⟨resource, isDynamic⟩)
  match resource.draft with
  | .draft2020 | .custom => named "$anchor" false ++ named "$dynamicAnchor" true
  | .draft2019 => named "$anchor" false
  | old =>
    (named old.addressKeyword false).filterMap fun (name, anchor) ↦
      match name.toList with
      | '#' :: rest => some (String.ofList rest, anchor)
      | _ => none

/-- The schemas right inside one, with their versions. -/
def Resource.inside (resource : Resource) : List Resource :=
  (subschemas resource.draft resource.contents).map fun contents ↦
    ⟨contents, resource.draft.of contents⟩

/-- The base inside a schema that stands in a document with the given one. -/
def Resource.base (resource : Resource) (around : Address) : Except Defect Address :=
  match ownAddress? resource.draft resource.contents with
  | some own => around.follow own
  | none => .ok around

/-! ### References that lead out of a document -/

/-- A reference to be followed; whether the document depends on it, or it only names a version. -/
structure External where
  reference : String
  address : Address
  isNeeded : Bool

/-- References that have been met and those among them that lead out. -/
structure Harvest where
  met : List (Address × String) := []
  found : List External := []

/-- Where the metaschemas are said to be found, as far as references to them are known. -/
def metaschemaPlaces : List String :=
  ["https://json-schema.org/draft/2020-12/", "https://json-schema.org/draft/2019-09/",
   "http://json-schema.org/draft-07/", "http://json-schema.org/draft-06/",
   "http://json-schema.org/draft-04/"]

/-- A reference completed from a base; a fragment of the base does not count. -/
def outward (base : Address) (reference : String) : Except Defect Address :=
  base.withoutFragment.follow reference

/-- A step of a path, with its escapes resolved. -/
def unescaped : List Char → List Char
  | '~' :: '0' :: rest => '~' :: unescaped rest
  | '~' :: '1' :: rest => '/' :: unescaped rest
  | c :: rest => c :: unescaped rest
  | [] => []

def unescape (step : String) : String :=
  String.ofList (unescaped step.toList)

/-- A name as a step of a path. -/
def escape (step : String) : String :=
  String.join (step.toList.map fun c ↦
    if c = '~' then "~0" else if c = '/' then "~1" else String.singleton c)

/-- The value at a path that is followed to the letter. -/
def plainlyAt? (root : Json) (path : String) : Option Json :=
  let enter (value : Json) (step : String) : Option Json :=
    match value with
    | .object members => members.lookup (unescape step)
    | .list items => step.toNat?.bind fun place ↦
      if step == toString place then items[place]? else none
    | _ => none
  match path.splitOn "/" with
  | "" :: steps => steps.foldlM enter root
  | _ => none

mutual

/-- Gathers the references of a schema by which it leads out of its document. A reference into the
document is followed to all that is there. -/
def gather : (steps : Nat) → (base : Address) → (root : Json) → Harvest → Resource →
    Except Defect Harvest
  | 0, _, _, harvest, _ => .ok harvest
  | steps + 1, base, root, harvest, resource =>
    let references := ["$ref", "$schema"].filterMap fun keyword ↦
      (resource.contents.textAt? keyword).map fun reference ↦ (keyword, reference)
    references.foldlM (fun harvest (keyword, reference) ↦ do
      if base.scheme = some "urn" || reference = "#" || harvest.met.contains (base, reference) ||
          metaschemaPlaces.any (reference.startsWith ·) then
        return harvest
      let harvest := { harvest with met := (base, reference) :: harvest.met }
      if reference.startsWith "#" then
        match plainlyAt? root (String.ofList (reference.toList.drop 1)) with
        | some found => gatherAll steps base root harvest ⟨found, resource.draft.of found⟩
        | none => return harvest
      else
        let address ← outward base reference
        return { harvest with found := ⟨reference, address, keyword = "$ref"⟩ :: harvest.found })
      harvest

/-- Gathers the references of a schema and of all schemas inside it. -/
def gatherAll : (steps : Nat) → (base : Address) → (root : Json) → Harvest → Resource →
    Except Defect Harvest
  | 0, _, _, harvest, _ => .ok harvest
  | steps + 1, base, root, harvest, resource => do
    let harvest ← gather steps base root harvest resource
    resource.inside.foldlM (gatherAll steps base root) harvest

end

/-! ### Taking in documents -/

/-- A registry in the making, and what it has gathered. -/
structure Intake where
  registry : Registry := {}
  harvest : Harvest := {}

/-- Enters a schema of a document, at the base inside it. -/
def Intake.enter (intake : Intake) (base : Address) (resource : Resource) : Intake :=
  let named := (ownAddress? resource.draft resource.contents).isSome
  let registry := intake.registry
  let anchors := resource.anchors.map fun (name, anchor) ↦ ((base, name), anchor)
  { intake with registry :=
      ⟨if named then (base, resource) :: registry.resources else registry.resources,
        anchors.reverse ++ registry.anchors⟩ }

/-- Takes in the waiting schemas of a document, each with the base around it, and then those
inside them. -/
def takeIn (root : Json) : (steps : Nat) → Intake → (waiting : List (Address × Resource)) →
    Except Defect Intake
  | 0, intake, _ => .ok intake
  | _, intake, [] => .ok intake
  | steps + 1, intake, (around, resource) :: waiting => do
    let base ← resource.base around
    let intake := intake.enter base resource
    let harvest ← gather (steps + 1) base root intake.harvest resource
    let harvest ← resource.inside.foldlM (fun harvest inner ↦ do
      gather (steps + 1) (← inner.base base) root harvest inner) harvest
    takeIn root steps { intake with harvest }
      (waiting ++ resource.inside.map fun inner ↦ (base, inner))

/-- Why nothing can be fetched from an address. -/
def whyAbsent (address : Address) : String :=
  match address.scheme with
  | some "json-schema" => "No base URI is available"
  | some "file" => "No such file or directory (os error 2)"
  | some "http" | some "https" => s!"error sending request for url ({address.text})"
  | some scheme => s!"Unknown scheme {scheme}"
  | none => "No base URI is available"

/-- What is wrong with a reference out of a document, unless the registry knows where it leads or
the document does not depend on it. -/
def External.defect? (registry : Registry) (external : External) : Option Defect :=
  let address := external.address.withoutFragment
  if !external.isNeeded || (registry.find? address).isSome then none
  else
    let named :=
      if address.scheme = some "json-schema" then external.reference else address.text
    some (.absent named (whyAbsent address))

/-- The number of values in a value, itself included. -/
def extent : Json → Nat
  | .list items => extentItems items + 1
  | .object members => extentMembers members + 1
  | _ => 1
where
  extentItems : List Json → Nat
    | [] => 0
    | item :: rest => extent item + extentItems rest
  extentMembers : List (String × Json) → Nat
    | [] => 0
    | (_, value) :: rest => extent value + extentMembers rest

/-- The registry of a document at a base, over what is known already. -/
def Registry.ofDocument (known : Registry) (base : Address) (resource : Resource) :
    Except Defect Registry := do
  let start : Intake := { registry := ⟨[(base, resource)], []⟩ }
  let intake ← takeIn resource.contents (extent resource.contents + 1) start [(base, resource)]
  let registry := intake.registry.addedTo known
  match intake.harvest.found.reverse.findSome? (External.defect? registry) with
  | some defect => .error defect
  | none => .ok registry

end Brokerage.Schema
