import Brokerage.Schema.Inspection
import Brokerage.Schema.Standard
import Brokerage.Schema.Validation

/-!
Schemas that can be used. A value is a schema when what it refers to is known, it satisfies the
metaschema of its version, and its keywords get what they demand; otherwise the first thing wrong
with it is reported.
-/

set_option autoImplicit false

namespace Brokerage

/-- A schema that can be used, where it is used. -/
structure Schema where
  site : Schema.Site

namespace Schema

/-- The version of a document on its own. -/
def draftOf (source : Json) : Draft :=
  Draft.of .draft2020 source

/-- The address of a document on its own. -/
def baseOf (source : Json) : Except Defect Address :=
  match ownAddress? (draftOf source) source with
  | some own => Address.ofDocument own
  | none => .ok Address.root

/-- The metaschema of a version, where it is used. -/
def Draft.metaschemaSite (draft : Draft) : Site :=
  let registry := Registry.standard
  let base := draft.metaschemaBase
  let ⟨schema, draft⟩ := (registry.find? base).getD ⟨.null, draft⟩
  { scope := { registry, base, draft, vocabularies := draft.vocabularies }
    path := []
    schema }

/-- Refuses a version of one's own unless its metaschema is known, if only because the document
holds it. -/
def checkVersion (registry : Registry) (source : Json) : Except Defect Unit :=
  match source.textAt? "$schema" with
  | none => .ok ()
  | some name =>
    if (Draft.ofAddress? name).isSome then .ok ()
    else
      match Address.ofDocument name with
      | .error defect => .error defect
      | .ok address =>
        if (registry.find? address.withoutFragment).isSome then .ok ()
        else .error (.unknownVersion name)

/-- Refuses what does not satisfy its metaschema. -/
def checkForm (metaschema : Site) (source : Json) : Except Defect Unit :=
  match source with
  | .bool _ => .ok ()
  | other =>
    match violations metaschema other with
    | [] => .ok ()
    | violation :: _ => .error (.violation violation)

def ofJson (source : Json) : Except Defect Schema := do
  let draft := draftOf source
  let base ← baseOf source
  let registry ← Registry.standard.ofDocument base ⟨source, draft⟩
  checkVersion registry source
  checkForm draft.metaschemaSite source
  let vocabularies := registry.vocabulariesFor ⟨source, draft⟩
  let scope ← Scope.inside { registry, base, draft, vocabularies } source
  return ⟨← inspected { scope, path := [], schema := source }⟩

/-- Everything in which a value fails the schema. -/
def check (schema : Schema) (value : Json) : List Violation :=
  violations schema.site value

end Schema

end Brokerage
