import Brokerage.Details
import Brokerage.Error
import Brokerage.Parameters
import Brokerage.Schema.Basic

/-!
Service definitions: the plans of a service, what its parameters default to and must look like, and
which of them may not change. From a definition and a request come the variables handed to the
provider; where several sources give a variable, the request's context wins over the plan, the
plan over the user and the user over the defaults.
-/

set_option autoImplicit false

namespace Brokerage

structure ServicePlan where
  id : String
  name : String
  description : String := ""
  free : Bool := true
  properties : Members := []
  deriving DecidableEq

structure ServiceDefinition where
  id : String
  name : String
  description : String := ""
  bindable : Bool := true
  planUpdateable : Bool := false
  enabled : Bool := true
  tags : List String := []
  plans : List ServicePlan := []
  provisionDefaults : Members := []
  bindDefaults : Members := []
  provisionInput : Option Json := none
  bindInput : Option Json := none
  nonUpdatableParameters : List String := []
  deriving DecidableEq

/-- What the catalog shows of a plan. -/
structure CatalogPlan where
  id : String
  name : String
  description : String
  free : Bool
  deriving DecidableEq

/-- What the catalog shows of a service. -/
structure CatalogService where
  id : String
  name : String
  description : String
  bindable : Bool
  planUpdateable : Bool
  tags : List String
  plans : List CatalogPlan
  deriving DecidableEq

def ServicePlan.catalogEntry (plan : ServicePlan) : CatalogPlan :=
  ⟨plan.id, plan.name, plan.description, plan.free⟩

namespace ServiceDefinition

def resolvePlan (definition : ServiceDefinition) (planId : String) :
    Except BrokerError ServicePlan :=
  match definition.plans.find? fun plan ↦ plan.id == planId with
  | some plan => .ok plan
  | none => .error (.planNotFound definition.id planId)

def catalogEntry (definition : ServiceDefinition) : CatalogService :=
  { id := definition.id, name := definition.name, description := definition.description
    bindable := definition.bindable, planUpdateable := definition.planUpdateable
    tags := definition.tags, plans := definition.plans.map ServicePlan.catalogEntry }

/-! ### Variables -/

/-- Refuses parameters that a schema does not accept, and all of them if it is no schema. -/
def acceptBy (definition : ServiceDefinition) (schema? : Option Json) (parameters : Members) :
    Except BrokerError Unit :=
  match schema? with
  | none => .ok ()
  | some source =>
    match Schema.ofJson source with
    | .error defect =>
      .error (.schemaViolation definition.id [s!"service schema is invalid: {defect.message}"])
    | .ok schema =>
      match schema.check (.object parameters) with
      | [] => .ok ()
      | violations =>
        .error (.schemaViolation definition.id (violations.map Schema.Violation.message))

/-- The parameters of a payload that a schema accepts. -/
def acceptedParameters (definition : ServiceDefinition) (schema? : Option Json)
    (payload : Option String) : Except BrokerError Members :=
  match Parameters.parse payload with
  | .error e => .error e
  | .ok user =>
    match definition.acceptBy schema? user with
    | .error e => .error e
    | .ok _ => .ok user

/-- The details of an instance, or their text if they cannot be read. -/
def instanceDetails (record : InstanceRecord) : Json :=
  match record.details with
  | .ok details => details
  | .error _ => .string record.otherDetails

def provisionContext (definition : ServiceDefinition) (instanceId : String)
    (details : ProvisionDetails) (plan : ServicePlan) : List (String × Json) :=
  [("instance_id", .string instanceId), ("service_id", .string definition.id),
   ("plan_id", .string plan.id), ("space_guid", .string details.spaceGuid),
   ("organization_guid", .string details.organizationGuid)]

def updateContext (definition : ServiceDefinition) (record : InstanceRecord)
    (plan : ServicePlan) : List (String × Json) :=
  [("instance_id", .string record.id), ("service_id", .string definition.id),
   ("plan_id", .string plan.id), ("previous_plan_id", .string record.planId),
   ("instance_details", instanceDetails record)]

def bindContext (definition : ServiceDefinition) (record : InstanceRecord) (bindingId : String)
    (details : BindDetails) (plan : ServicePlan) : List (String × Json) :=
  [("instance_id", .string record.id), ("binding_id", .string bindingId),
   ("service_id", .string definition.id), ("plan_id", .string plan.id),
   ("app_guid", .ofText? details.appGuid), ("instance_details", instanceDetails record)]

def provisionVariables (definition : ServiceDefinition) (instanceId : String)
    (details : ProvisionDetails) (plan : ServicePlan) : Except BrokerError Variables :=
  match definition.acceptedParameters definition.provisionInput details.rawParameters with
  | .error e => .error e
  | .ok user =>
    .ok ((((definition.provisionDefaults).extend user).extend plan.properties).extend
      (definition.provisionContext instanceId details plan))

def updateVariables (definition : ServiceDefinition) (record : InstanceRecord)
    (details : UpdateDetails) (plan : ServicePlan) : Except BrokerError Variables :=
  match definition.acceptedParameters definition.provisionInput details.rawParameters with
  | .error e => .error e
  | .ok user =>
    .ok ((user.extend plan.properties).extend (definition.updateContext record plan))

def bindVariables (definition : ServiceDefinition) (record : InstanceRecord) (bindingId : String)
    (details : BindDetails) (plan : ServicePlan) : Except BrokerError Variables :=
  match definition.acceptedParameters definition.bindInput details.rawParameters with
  | .error e => .error e
  | .ok user =>
    .ok ((definition.bindDefaults.extend user).extend
      (definition.bindContext record bindingId details plan))

/-! ### Updates -/

/-- Whether an update asks for another plan of a service whose plans may not change. -/
def changesPlan (definition : ServiceDefinition) (currentPlan : String) (details : UpdateDetails) :
    Bool :=
  match details.planId with
  | some planId => planId != currentPlan && !definition.planUpdateable
  | none => false

/-- What an update asks to change and may not. -/
def prohibitedChanges (definition : ServiceDefinition) (currentPlan : String)
    (details : UpdateDetails) : Except BrokerError (List String) :=
  match Parameters.parse details.rawParameters with
  | .error e => .error e
  | .ok user =>
    let plan := if definition.changesPlan currentPlan details then ["plan_id"] else []
    .ok (plan ++ definition.nonUpdatableParameters.filter user.contains)

def isUpdateAllowed (definition : ServiceDefinition) (currentPlan : String)
    (details : UpdateDetails) : Except BrokerError Bool :=
  (definition.prohibitedChanges currentPlan details).map List.isEmpty

/-! ### Validity -/

/-- What is wrong with a plan that follows the plans `before`. -/
def planProblems (serviceId : String) (before : List ServicePlan) (plan : ServicePlan) :
    List String :=
  (if Text.isBlank plan.id then
    ["service " ++ serviceId ++ " plan '" ++ plan.name ++ "' has an empty id"] else []) ++
  (if before.any fun other ↦ other.id == plan.id then
    [s!"service {serviceId} has duplicate plan id {plan.id}"] else []) ++
  (if before.any fun other ↦ other.name == plan.name then
    [s!"service {serviceId} has duplicate plan name {plan.name}"] else [])

def allPlanProblems (serviceId : String) :
    (before : List ServicePlan) → List ServicePlan → List String
  | _, [] => []
  | before, plan :: rest =>
    planProblems serviceId before plan ++ allPlanProblems serviceId (before ++ [plan]) rest

def schemaProblems (serviceId label : String) (schema? : Option Json) : List String :=
  match schema? with
  | none => []
  | some source =>
    match Schema.ofJson source with
    | .ok _ => []
    | .error defect => [s!"service {serviceId} {label} schema is invalid: {defect.message}"]

/-- Everything that is wrong with a definition. -/
def problems (definition : ServiceDefinition) : List String :=
  (if Text.isBlank definition.id then
    ["service '" ++ definition.name ++ "' has an empty id"] else []) ++
  (if Text.isBlank definition.name then
    [s!"service {definition.id} has an empty name"] else []) ++
  (if definition.plans.isEmpty then [s!"service {definition.id} has no plans"] else []) ++
  allPlanProblems definition.id [] definition.plans ++
  schemaProblems definition.id "provision_input" definition.provisionInput ++
  schemaProblems definition.id "bind_input" definition.bindInput

end ServiceDefinition

end Brokerage
