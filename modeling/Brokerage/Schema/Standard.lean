import Brokerage.Schema.Metaschema.Early
import Brokerage.Schema.Metaschema.Late
import Brokerage.Schema.Registry

/-!
What every registry knows: the metaschemas of all versions.
-/

set_option autoImplicit false

namespace Brokerage.Schema

/-- The documents of the metaschemas, with their versions. -/
def metaschemas : List Resource :=
  [⟨Metaschema.draft4, .draft4⟩, ⟨Metaschema.draft6, .draft6⟩, ⟨Metaschema.draft7, .draft7⟩] ++
    Metaschema.draft2019.map (⟨·, .draft2019⟩) ++ Metaschema.draft2020.map (⟨·, .draft2020⟩)

/-- A registry with one more metaschema, unless there is something wrong with it. -/
def Registry.withMetaschema (known : Registry) (resource : Resource) : Registry :=
  match (ownAddress? resource.draft resource.contents).map Address.ofDocument with
  | some (.ok base) =>
    match known.ofDocument base resource with
    | .ok registry => registry
    | .error _ => known
  | _ => known

def Registry.standard : Registry :=
  metaschemas.foldl Registry.withMetaschema {}

/-- Where the metaschema of a version is. -/
def Draft.metaschemaBase (draft : Draft) : Address :=
  match Address.ofDocument draft.address with
  | .ok base => base
  | .error _ => Address.root

end Brokerage.Schema
