import Brokerage.Broker.Basic

/-!
Polling the operation that is pending on an instance and finishing it once the provider reports it
done. A failure that may pass reads as still in progress and any other as failed; either leaves
the records alone. With nothing pending the provider is not asked.
-/

set_option autoImplicit false

namespace Brokerage.Broker

open Program

/-- How a poll that the provider did not answer reads. -/
def unanswered (e : Provider.Error) : LastOperation :=
  match e.classify with
  | .transient => ⟨.inProgress, some e.message⟩
  | .terminal => ⟨.failed, some e.message⟩

/-- Drops the record of an instance that is gone; another poll may have been first. -/
def deleteCompleted (instanceId : String) (operation : PendingOperation) : Call Unit := do
  match ← Call.store (.deleteInstance instanceId) with
  | .ok _ => return ()
  | .error e =>
    if e.isNotFound then return ()
    else fail (.completionFailed instanceId operation.kind e.message)

/-- Has the provider refresh its details and records that nothing is pending. -/
def refreshCompleted (serviceId instanceId : String) (operation : PendingOperation) :
    Call Unit := do
  let failed (reason : String) : BrokerError :=
    .completionFailed instanceId operation.kind reason
  let record ← orFail (fun e ↦ failed e.message)
    (← Call.store (.getInstance instanceId))
  let refreshed ← orFail (fun e ↦ failed e.message)
    (← Call.provider (.refresh serviceId record))
  orFail (fun e ↦ failed e.message)
    (← Call.store (.saveInstance { refreshed with operation := none }))

def complete (serviceId instanceId : String) (operation : PendingOperation) : Call Unit :=
  match operation.kind.completion with
  | .deleteRecord => deleteCompleted instanceId operation
  | .refreshDetails => refreshCompleted serviceId instanceId operation

/-- Polls a pending operation. -/
def pollPending (service : RegisteredService) (instanceId : String) (record : InstanceRecord)
    (operation : PendingOperation) : Call LastOperation := do
  match ← Call.provider (.poll service.definition.id record) with
  | .error e => return unanswered e
  | .ok false => return ⟨.inProgress, none⟩
  | .ok true =>
    complete service.definition.id instanceId operation
    return ⟨.succeeded, none⟩

/-- The operation polled is the one recorded, whichever the caller names. -/
def lastOperation (broker : Broker) (instanceId : String) (_details : PollDetails) :
    Call LastOperation := do
  let record ← loadInstance instanceId
  let service ← ofExcept (broker.registry.resolve record.serviceId)
  refuseIf (!service.isAsync) .asyncRequired
  match record.operation with
  | none => return ⟨.succeeded, none⟩
  | some operation => pollPending service instanceId record operation

end Brokerage.Broker
