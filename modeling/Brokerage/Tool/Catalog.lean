import Brokerage.Catalog.Document
import Brokerage.Tool.Report
import Brokerage.Config.Basic

/-!
Showing the catalog of a configuration: its enabled services, in order, with their plans.
-/

set_option autoImplicit false

namespace Brokerage

/-- What the catalog shows of a configuration. -/
def Config.catalog (config : Config) : List CatalogService :=
  (config.services.filter fun service ↦ service.enabled).map ServiceDefinition.catalogEntry

namespace Tool

/-- A service in plain text; its description is not shown to the quiet. -/
def serviceLines (quiet : Bool) (service : CatalogService) : List String :=
  [s!"{service.name} ({service.id})"] ++
  (if quiet || service.description.isEmpty then [] else [s!"  {service.description}"]) ++
  service.plans.map fun plan ↦ s!"  plan {plan.name} ({plan.id})"

def catalogLines (manner : Manner) (services : List CatalogService) : List String :=
  match manner.format with
  | .json => [(Json.record [("services", .list (services.map Shaped.toJson))]).indentedText]
  | .text =>
    if services.isEmpty && !manner.quiet then ["no enabled services"]
    else services.flatMap (serviceLines manner.quiet)

def showCatalog (manner : Manner) (config : Config) : Report :=
  .success (catalogLines manner config.catalog)

end Tool

end Brokerage
