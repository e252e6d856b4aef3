import Brokerage.Broker.Update

/-!
Deprovisioning an instance. If the provider is done at once the record is deleted; otherwise it
stays, with the operation pending, until a poll finds the instance gone.
-/

set_option autoImplicit false

namespace Brokerage.Broker

open Program

def stillListed : String :=
  "the broker still lists an instance that no longer exists at the provider"

def unpolledDeprovision : String :=
  "the deprovision cannot be polled to completion and the instance record will not be removed"

/-- A deprovision that is already pending. -/
def pendingDeprovision (record : InstanceRecord) : Option PendingOperation :=
  record.operation.filter fun operation ↦ operation.kind == .deprovision

def deprovision (broker : Broker) (instanceId : String) (details : DeprovisionDetails)
    (acceptsIncomplete : Bool) : Call OperationResponse := do
  let record ← loadInstance instanceId
  let service ← ofExcept (broker.registry.resolve record.serviceId)
  refuseIf (service.deprovisionsAsync && !acceptsIncomplete) .asyncRequired
  refuseWhilePending instanceId (pendingDeprovision record)
  let outcome ← orFail .provider
    (← Call.provider (.deprovision service.definition.id record details))
  match outcome with
  | .completed _ =>
    orFail (.orphanedResource "deprovision" "deleting the instance record" stillListed)
      (← Call.store (.deleteInstance instanceId))
  | .pending _ _ =>
    let pending := { record with operation := outcome.operation? .deprovision }
    orFail
      (.orphanedResource "deprovision" "recording the pending operation" unpolledDeprovision)
      (← Call.store (.saveInstance pending))
  return outcome.response

end Brokerage.Broker
