import Brokerage.Catalog.Definition
import Brokerage.Shape.Shaped

/-!
Service definitions and catalog entries as JSON. In a definition only ids and names are required;
a catalog entry shows everything.
-/

set_option autoImplicit false

namespace Brokerage

/-- Null when absent. -/
def Json.ofOption : Option Json → Json
  | none => .null
  | some j => j

instance : Shaped ServicePlan where
  shape := .record "ServicePlan"
    [("id", .refused, .text), ("name", .refused, .text),
     ("description", .filled (.string ""), .text), ("free", .filled (.bool true), .flag),
     ("properties", .filled (.object []), .table)]
  toJson plan := .record
    [("id", .string plan.id), ("name", .string plan.name),
     ("description", .string plan.description), ("free", .bool plan.free),
     ("properties", .object plan.properties)]
  ofJson j :=
    { id := j.textAt "id", name := j.textAt "name", description := j.textAt "description"
      free := j.flagAt "free", properties := j.membersAt "properties" }

instance : Shaped ServiceDefinition where
  shape := .record "ServiceDefinition"
    [("id", .refused, .text), ("name", .refused, .text),
     ("description", .filled (.string ""), .text), ("bindable", .filled (.bool true), .flag),
     ("plan_updateable", .filled (.bool false), .flag), ("enabled", .filled (.bool true), .flag),
     ("tags", .filled (.list []), .listOf .text),
     ("plans", .filled (.list []), .listOf (Shaped.shape ServicePlan)),
     ("provision_defaults", .filled (.object []), .table),
     ("bind_defaults", .filled (.object []), .table),
     ("provision_input", .filled .null, .optional .anything),
     ("bind_input", .filled .null, .optional .anything),
     ("non_updatable_parameters", .filled (.list []), .listOf .text)]
  toJson definition := .record
    [("id", .string definition.id), ("name", .string definition.name),
     ("description", .string definition.description), ("bindable", .bool definition.bindable),
     ("plan_updateable", .bool definition.planUpdateable), ("enabled", .bool definition.enabled),
     ("tags", .ofTexts definition.tags), ("plans", .list (definition.plans.map Shaped.toJson)),
     ("provision_defaults", .object definition.provisionDefaults),
     ("bind_defaults", .object definition.bindDefaults),
     ("provision_input", .ofOption definition.provisionInput),
     ("bind_input", .ofOption definition.bindInput),
     ("non_updatable_parameters", .ofTexts definition.nonUpdatableParameters)]
  ofJson j :=
    { id := j.textAt "id", name := j.textAt "name", description := j.textAt "description"
      bindable := j.flagAt "bindable", planUpdateable := j.flagAt "plan_updateable"
      enabled := j.flagAt "enabled", tags := j.textsAt "tags"
      plans := (j.itemsAt "plans").map Shaped.ofJson
      provisionDefaults := j.membersAt "provision_defaults"
      bindDefaults := j.membersAt "bind_defaults"
      provisionInput := (j.field "provision_input").present?
      bindInput := (j.field "bind_input").present?
      nonUpdatableParameters := j.textsAt "non_updatable_parameters" }

instance : Shaped CatalogPlan where
  shape := .record "CatalogPlan"
    [("id", .refused, .text), ("name", .refused, .text), ("description", .refused, .text),
     ("free", .refused, .flag)]
  toJson plan := .record
    [("id", .string plan.id), ("name", .string plan.name),
     ("description", .string plan.description), ("free", .bool plan.free)]
  ofJson j := ⟨j.textAt "id", j.textAt "name", j.textAt "description", j.flagAt "free"⟩

instance : Shaped CatalogService where
  shape := .record "CatalogService"
    [("id", .refused, .text), ("name", .refused, .text), ("description", .refused, .text),
     ("bindable", .refused, .flag), ("plan_updateable", .refused, .flag),
     ("tags", .refused, .listOf .text),
     ("plans", .refused, .listOf (Shaped.shape CatalogPlan))]
  toJson service := .record
    [("id", .string service.id), ("name", .string service.name),
     ("description", .string service.description), ("bindable", .bool service.bindable),
     ("plan_updateable", .bool service.planUpdateable), ("tags", .ofTexts service.tags),
     ("plans", .list (service.plans.map Shaped.toJson))]
  ofJson j :=
    { id := j.textAt "id", name := j.textAt "name", description := j.textAt "description"
      bindable := j.flagAt "bindable", planUpdateable := j.flagAt "plan_updateable"
      tags := j.textsAt "tags", plans := (j.itemsAt "plans").map Shaped.ofJson }

end Brokerage
