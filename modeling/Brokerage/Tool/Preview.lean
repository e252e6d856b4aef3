import Brokerage.Tool.Report
import Brokerage.Config.Basic

/-!
A dry run of provisioning: the variables that a request would hand to the provider, without one
being asked.
-/

set_option autoImplicit false

namespace Brokerage

/-- What a dry run calls its instance unless told otherwise. -/
def defaultInstanceId : String := "dry-run"

/-- An instance that might be provisioned. -/
structure Prospect where
  serviceId : String
  planId : String
  parameters : Option String := none
  instanceId : String := defaultInstanceId
  deriving DecidableEq

/-- The request that would provision it. -/
def Prospect.details (prospect : Prospect) : ProvisionDetails :=
  { serviceId := prospect.serviceId, planId := prospect.planId
    rawParameters := prospect.parameters }

/-- The variables with which a prospect would be provisioned. -/
def Config.preview (config : Config) (prospect : Prospect) : Except BrokerError Variables :=
  match config.service? prospect.serviceId with
  | none => .error (.serviceNotFound prospect.serviceId)
  | some service =>
    match service.resolvePlan prospect.planId with
    | .error e => .error e
    | .ok plan =>
      match Parameters.ensureWellFormed prospect.parameters with
      | .error e => .error e
      | .ok _ => service.provisionVariables prospect.instanceId prospect.details plan

namespace Tool

def variableLines (format : Format) (vars : Variables) : List String :=
  match format with
  | .text => vars.map fun (name, value) ↦ s!"{name} = {value.text}"
  | .json => [(Json.object vars).indentedText]

def preview (manner : Manner) (prospect : Prospect) (config : Config) : Report :=
  match config.preview prospect with
  | .error e => .refusal manner e.message
  | .ok vars => .success (variableLines manner.format vars)

end Tool

end Brokerage
