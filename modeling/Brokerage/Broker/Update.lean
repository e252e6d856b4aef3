import Brokerage.Broker.Provision

/-!
Updating an instance to another plan or other parameters. Nothing may be pending on it, and what
the service does not allow to change must not be asked for.
-/

set_option autoImplicit false

namespace Brokerage.Broker

open Program

def stalePlan : String :=
  "the provider applied the change but the broker still records the previous plan"

/-- Refuses to go on while an operation is pending. -/
def refuseWhilePending (instanceId : String) (pending : Option PendingOperation) : Call Unit :=
  match pending with
  | some operation => fail (.operationInProgress instanceId operation.kind)
  | none => pure ()

def update (broker : Broker) (instanceId : String) (details : UpdateDetails)
    (acceptsIncomplete : Bool) : Call OperationResponse := do
  let record ← loadInstance instanceId
  let (service, plan) ← ofExcept
    (broker.resolve record.serviceId (details.planId.getD record.planId))
  refuseIf (service.provisionsAsync && !acceptsIncomplete) .asyncRequired
  refuseWhilePending instanceId record.operation
  ofExcept (Parameters.ensureWellFormed details.rawParameters)
  let changes ← ofExcept (service.definition.prohibitedChanges record.planId details)
  refuseIf (!changes.isEmpty) (.prohibitedUpdate changes)
  let vars ← ofExcept (service.definition.updateVariables record details plan)
  let outcome ← orFail .provider
    (← Call.provider (.update service.definition.id vars))
  let updated := { record with planId := plan.id, operation := outcome.operation? .update }
  orFail (.orphanedResource "update" "saving the instance record" stalePlan)
    (← Call.store (.saveInstance updated))
  let request := requestRecord instanceId details.rawParameters
  orFail (.orphanedResource "update" "recording the update request" unrecordedRequest)
    (← Call.store (.saveRequest request))
  return outcome.response

end Brokerage.Broker
