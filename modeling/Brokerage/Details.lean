import Brokerage.Shape.Shaped

/-!
What callers send along with their requests. Parameters are sent as a text and looked into only
when they are merged.
-/

set_option autoImplicit false

namespace Brokerage

structure ProvisionDetails where
  serviceId : String
  planId : String
  organizationGuid : String := ""
  spaceGuid : String := ""
  rawParameters : Option String := none
  deriving DecidableEq

structure UpdateDetails where
  serviceId : String
  planId : Option String := none
  rawParameters : Option String := none
  deriving DecidableEq

structure DeprovisionDetails where
  serviceId : String
  planId : String
  deriving DecidableEq

structure BindDetails where
  serviceId : String
  planId : String
  appGuid : Option String := none
  rawParameters : Option String := none
  deriving DecidableEq

structure UnbindDetails where
  serviceId : String
  planId : String
  deriving DecidableEq

structure PollDetails where
  serviceId : Option String := none
  planId : Option String := none
  operationData : Option String := none
  deriving DecidableEq

/-! ### Details as JSON -/

namespace Shape

/-- A text that may be left out or null. -/
def textOrNull (name : String) : String × Absence × Shape :=
  (name, .filled .null, .optional .text)

end Shape

instance : Shaped ProvisionDetails where
  shape := .record "ProvisionDetails"
    [("service_id", .refused, .text), ("plan_id", .refused, .text),
     ("organization_guid", .filled (.string ""), .text),
     ("space_guid", .filled (.string ""), .text), Shape.textOrNull "raw_parameters"]
  toJson details := .record
    [("service_id", .string details.serviceId), ("plan_id", .string details.planId),
     ("organization_guid", .string details.organizationGuid),
     ("space_guid", .string details.spaceGuid),
     ("raw_parameters", .ofText? details.rawParameters)]
  ofJson j :=
    { serviceId := j.textAt "service_id", planId := j.textAt "plan_id"
      organizationGuid := j.textAt "organization_guid", spaceGuid := j.textAt "space_guid"
      rawParameters := j.textAt? "raw_parameters" }

instance : Shaped UpdateDetails where
  shape := .record "UpdateDetails"
    [("service_id", .refused, .text), Shape.textOrNull "plan_id",
     Shape.textOrNull "raw_parameters"]
  toJson details := .record
    [("service_id", .string details.serviceId), ("plan_id", .ofText? details.planId),
     ("raw_parameters", .ofText? details.rawParameters)]
  ofJson j :=
    { serviceId := j.textAt "service_id", planId := j.textAt? "plan_id"
      rawParameters := j.textAt? "raw_parameters" }

instance : Shaped DeprovisionDetails where
  shape := .record "DeprovisionDetails"
    [("service_id", .refused, .text), ("plan_id", .refused, .text)]
  toJson details := .record
    [("service_id", .string details.serviceId), ("plan_id", .string details.planId)]
  ofJson j := ⟨j.textAt "service_id", j.textAt "plan_id"⟩

instance : Shaped BindDetails where
  shape := .record "BindDetails"
    [("service_id", .refused, .text), ("plan_id", .refused, .text),
     Shape.textOrNull "app_guid", Shape.textOrNull "raw_parameters"]
  toJson details := .record
    [("service_id", .string details.serviceId), ("plan_id", .string details.planId),
     ("app_guid", .ofText? details.appGuid), ("raw_parameters", .ofText? details.rawParameters)]
  ofJson j :=
    { serviceId := j.textAt "service_id", planId := j.textAt "plan_id"
      appGuid := j.textAt? "app_guid", rawParameters := j.textAt? "raw_parameters" }

instance : Shaped UnbindDetails where
  shape := .record "UnbindDetails"
    [("service_id", .refused, .text), ("plan_id", .refused, .text)]
  toJson details := .record
    [("service_id", .string details.serviceId), ("plan_id", .string details.planId)]
  ofJson j := ⟨j.textAt "service_id", j.textAt "plan_id"⟩

instance : Shaped PollDetails where
  shape := .record "PollDetails"
    [Shape.textOrNull "service_id", Shape.textOrNull "plan_id", Shape.textOrNull "operation_data"]
  toJson details := .record
    [("service_id", .ofText? details.serviceId), ("plan_id", .ofText? details.planId),
     ("operation_data", .ofText? details.operationData)]
  ofJson j :=
    { serviceId := j.textAt? "service_id", planId := j.textAt? "plan_id"
      operationData := j.textAt? "operation_data" }

end Brokerage
