import Brokerage.Broker.Basic

/-!
Provisioning an instance. Everything that can refuse the request comes before the provider is
asked; once it has acted, a result that cannot be recorded is reported as orphaned.
-/

set_option autoImplicit false

namespace Brokerage.Broker

open Program

def untrackedInstance : String :=
  "the instance exists at the provider but is not tracked by the broker"

def unrecordedRequest : String :=
  "the instance is tracked but the parameters it was requested with were not saved"

/-- What is recorded of an instance when the provider has started it. -/
def provisionedRecord (instanceId : String) (details : ProvisionDetails)
    (service : RegisteredService) (plan : ServicePlan) (outcome : Provider.Outcome Json) :
    InstanceRecord :=
  { id := instanceId, serviceId := service.definition.id, planId := plan.id
    spaceGuid := details.spaceGuid, organizationGuid := details.organizationGuid
    otherDetails := outcome.value.text, operation := outcome.operation? .provision }

/-- The parameters of a request as they are recorded. -/
def requestRecord (instanceId : String) (rawParameters : Option String) : RequestRecord :=
  { instanceId, requestDetails := rawParameters.getD "" }

def recordInstance (record : InstanceRecord) : Call Unit := do
  match ← Call.store (.createInstance record) with
  | .ok _ => return ()
  | .error e =>
    fail (if e.isConflict then .instanceAlreadyExists record.id
      else .orphanedResource "provision" "recording the instance" untrackedInstance e)

def provision (broker : Broker) (instanceId : String) (details : ProvisionDetails)
    (acceptsIncomplete : Bool) : Call OperationResponse := do
  let taken ← orFail .storage (← Call.store (.instanceExists instanceId))
  refuseIf taken (.instanceAlreadyExists instanceId)
  let (service, plan) ← ofExcept (broker.resolve details.serviceId details.planId)
  refuseIf (service.provisionsAsync && !acceptsIncomplete) .asyncRequired
  ofExcept (Parameters.ensureWellFormed details.rawParameters)
  let vars ← ofExcept (service.definition.provisionVariables instanceId details plan)
  let outcome ← orFail .provider
    (← Call.provider (.provision service.definition.id vars))
  recordInstance (provisionedRecord instanceId details service plan outcome)
  let request := requestRecord instanceId details.rawParameters
  orFail
    (.orphanedResource "provision" "recording the provision request" unrecordedRequest)
    (← Call.store (.createRequest request))
  return outcome.response

end Brokerage.Broker
