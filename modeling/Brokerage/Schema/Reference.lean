import Brokerage.Schema.Quantity
import Brokerage.Schema.Site

/-!
References between schemas. A reference is completed from the base of the schema that makes it and
names a document that the registry knows, a place in that document by its path, or a schema in it
by its anchor. A dynamic anchor gives way to the one of the same name in the outermost document
through which it was reached. A reference to its own place leads nowhere.
-/

set_option autoImplicit false

namespace Brokerage.Schema

/-- What a reference leads to, with the reference as it was followed and as it is remembered. -/
structure Target where
  junction : Junction
  mention : Mention
  site : Site

/-- What is read where a reference leads to. -/
def Target.settled (target : Target) : Target :=
  match target.site.scope.replacements.behind.lookup target.mention with
  | some reading => { target with site := target.site.reads reading }
  | none => target

/-- The site of a target for a value; there is none where the reference leads round in a circle. -/
def Target.siteFor? (target : Target) (value : Json) : Option Site :=
  (target.site.trail.past? target.junction value).map fun trail ↦ { target.site with trail }

/-- Whether the reference, as it is written in full, was followed on the way to where it is made. -/
def Target.isUnderWay (target : Target) : Bool :=
  target.site.trail.followed.any fun junction ↦ junction.1 == target.mention.1

/-- The site of a target, on whose way the reference was followed. -/
def Target.entered (target : Target) : Site :=
  let trail := target.site.trail
  { target.site with trail := { trail with followed := target.junction :: trail.followed } }

namespace Reference

/-! ### Paths -/

/-- The bytes that a text stands for; an octet may be written as a percent sign and two digits. -/
def octets : List Char → List UInt8
  | '%' :: a :: b :: rest =>
    if Text.isHexDigit a && Text.isHexDigit b then
      UInt8.ofNat (Text.naturalIn 16 [a, b]) :: octets rest
    else '%'.toUInt8 :: octets (a :: b :: rest)
  | c :: rest => (String.singleton c).toUTF8.toList ++ octets rest
  | [] => []

def decoded? (text : String) : Option String :=
  String.fromUTF8? ⟨(octets text.toList).toArray⟩

/-- A place in a list: digits, with a sign if need be. -/
def place? (step : String) : Option Nat :=
  let digits := match step.toList with
    | '+' :: rest => rest
    | rest => rest
  if digits.isEmpty || !digits.all Char.isDigit then none
  else
    let place := Text.naturalIn 10 digits
    if place ≤ Json.greatestCount then some place else none

/-- A place on the way into a document: the path to it, latest step first, and the steps since the
base last changed. -/
structure Walk where
  scope : Scope
  path : List String := []
  steps : List Step := []
  value : Json

/-- One step of a walk through a document of a version, along a path. -/
def walkOn (draft : Draft) (path : String) (walk : Walk) (written : String) :
    Except Defect Walk := do
  let (step, value?) ← match walk.value with
    | .list items =>
      match place? written with
      | some place => pure (Step.place place, items[place]?)
      | none => throw (.noSuchPlace written path)
    | other =>
      let name := unescape written
      pure (Step.name name, other.membersOf.get? name)
  match value? with
  | none => throw (.noSuchPath path)
  | some value =>
    let further := { walk with
      path := unescape written :: walk.path
      steps := walk.steps ++ [step]
      value }
    if leadsToSchema draft (value matches .object _) further.steps then
      let scope ← walk.scope.at? ⟨value, draft⟩
      if scope.base = walk.scope.base then return { further with scope }
      else return { further with scope, steps := [] }
    else return further

/-- The value at a path that begins with a slash, in a document at the base of the scope. -/
def walk (scope : Scope) (document : Resource) (path : String) : Except Defect Walk :=
  match decoded? path with
  | none => .error (.unreadablePath path)
  | some text =>
    ((text.splitOn "/").drop 1).foldlM (walkOn document.draft path)
      { scope, value := document.contents }

/-! ### Anchors -/

/-- The anchor of a name in the document at an address. A document may be known by another address
than its own, and then its anchors are found by its own. -/
def anchor? (registry : Registry) (address : Address) (name : String) : Option Anchor :=
  (registry.anchor? address name).or do
    let document ← registry.find? address
    let own ← ownAddress? document.draft document.contents
    match Address.ofDocument own with
    | .ok address => registry.anchor? address name
    | .error _ => none

/-- What a dynamic anchor stands for in a scope. -/
def dynamicTarget (scope : Scope) (name : String) (found : Resource) : Resource :=
  scope.outer.foldl (fun last base ↦
    match anchor? scope.registry base name with
    | some ⟨resource, true⟩ => resource
    | _ => last) found

/-! ### References -/

/-- The address of the document in which a reference ends, and the fragment. -/
def split (base : Address) (reference : String) : Except Defect (Address × String) :=
  match reference.toList with
  | '#' :: fragment => .ok (base, String.ofList fragment)
  | s =>
    let fragment := s.reverse.takeWhile (· != '#')
    let (document, fragment) :=
      if s.contains '#' then
        (String.ofList ((s.reverse.drop (fragment.length + 1)).reverse),
          String.ofList fragment.reverse)
      else (reference, "")
    match base.follow document with
    | .ok address => .ok (address, fragment)
    | .error defect => .error defect

/-- What is found in a scope at the end of a reference from a site, some steps away from a document
or an anchor. It is read by the given version, whatever it says itself. -/
def target (site : Site) (whole : Address) (scope : Scope) (path : List String)
    (resource : Resource) : Target :=
  let vocabularies := scope.registry.vocabulariesFor resource
  ⟨(whole, scope.base), (whole, scope.outer),
    { site with scope := { scope with draft := resource.draft, vocabularies }
                path, schema := resource.contents }⟩

/-- What a reference leads to from a site. -/
def resolve (site : Site) (reference : String) : Except Defect Target := do
  let whole ← site.scope.base.follow reference
  let (address, fragment) ← split site.scope.base reference
  match site.scope.registry.find? address with
  | none =>
    throw (.absent address.text
      "Retrieving external resources is not supported once the registry is populated")
  | some document =>
    let there := site.scope.movedTo address
    if fragment.startsWith "/" then
      let walk ← walk there document fragment
      return target site whole walk.scope walk.path ⟨walk.value, document.draft⟩
    else if fragment.isEmpty then return target site whole there [] document
    else
      match anchor? site.scope.registry address fragment with
      | some ⟨resource, false⟩ => return target site whole there [] resource
      | some ⟨resource, true⟩ =>
        let last := dynamicTarget there fragment resource
        return target site whole (← there.at? last) [] last
      | none =>
        if fragment.contains '/' then throw (.noAnchor fragment)
        else throw (.noSuchAnchor fragment)

/-- Whether a document lets itself be replaced by one from which it was reached. -/
def isRecursive (target : Target) : Bool :=
  target.site.schema.flagAt "$recursiveAnchor"

/-- What the recursive reference leads to: the outermost of the documents through which this one
was reached, as long as each lets itself be replaced. -/
def resolveRecursive (site : Site) : Except Defect Target := do
  let here ← resolve site "#"
  if isRecursive here then outermost here site.scope.outer else return here
where
  outermost (found : Target) : List Address → Except Defect Target
    | [] => .ok found
    | base :: others => do
      let next ← resolve site base.text
      if isRecursive next then outermost next others else return found

/-- What the value of one of the keywords for references leads to, unless it is where it stands. -/
def follow (site : Site) (keyword : String) (argument : Json) : Except Defect (Option Target) := do
  if keyword = "$recursiveRef" then return some (← resolveRecursive site)
  else
    match argument with
    | .string reference =>
      if site.isAt (← site.scope.base.follow reference) then return none
      else return some (← resolve site reference)
    | other => throw (.violation (.notOfType other ["string"]))

end Reference

def referenceKeywords : List String :=
  ["$dynamicRef", "$recursiveRef", "$ref"]

end Brokerage.Schema
