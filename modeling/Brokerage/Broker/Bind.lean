import Brokerage.Broker.Basic

/-!
Binding an application to an instance. The service is the one under which the instance was
provisioned, the plan is the request's. The binding is recorded before any credentials leave the
broker; with a vault they go there, and the caller is given a reference to them.
-/

set_option autoImplicit false

namespace Brokerage.Broker

open Program

def untrackedBinding : String :=
  "credentials were issued at the provider but the broker has no binding record for them"

/-- The application that may read vaulted credentials; a broker with a vault needs one. -/
def vaultReader (broker : Broker) (serviceId : String) (appGuid : Option String) :
    Except BrokerError (Option String) :=
  if broker.hasVault then
    match appGuid.filter fun guid ↦ !Text.isBlank guid with
    | some guid => .ok (some guid)
    | none => .error (.missingAppIdentity serviceId)
  else .ok none

/-- What is recorded of a binding when the provider has issued its credentials. -/
def issuedRecord (instanceId bindingId : String) (service : RegisteredService) (issued : Json) :
    BindingRecord :=
  { instanceId, bindingId, serviceId := service.definition.id, otherDetails := issued.text }

def recordBinding (record : BindingRecord) : Call Unit := do
  match ← Call.store (.createBinding record) with
  | .ok _ => return ()
  | .error e =>
    fail (if e.isConflict then .bindingAlreadyExists record.instanceId record.bindingId
      else .orphanedResource "bind" "recording the binding" untrackedBinding e)

/-- A reference that stands for vaulted credentials. -/
def referenceTo (name : String) : Binding :=
  ⟨[(credentialRefKey, .string name)]⟩

/-- Puts credentials into the vault for an application to read. -/
def handOff (bindingId name appGuid : String) (binding : Binding) : Call Binding := do
  let _ ← orFail (.credentialHandoff bindingId "store credentials")
    (← Call.vault (.put name (.object binding.credentials)))
  orFail (.credentialHandoff bindingId "grant read permission")
    (← Call.vault (.addPermission name (appActor appGuid) [readOperation]))
  return referenceTo name

def bind (broker : Broker) (instanceId bindingId : String) (details : BindDetails) :
    Call Binding := do
  let taken ← orFail .storage (← Call.store (.bindingExists instanceId bindingId))
  refuseIf taken (.bindingAlreadyExists instanceId bindingId)
  let record ← loadInstance instanceId
  let (service, plan) ← ofExcept (broker.resolve record.serviceId details.planId)
  ofExcept (Parameters.ensureWellFormed details.rawParameters)
  let reader ← ofExcept (broker.vaultReader service.definition.id details.appGuid)
  let vars ← ofExcept
    (service.definition.bindVariables record bindingId details plan)
  let issued ← orFail .provider
    (← Call.provider (.bind service.definition.id vars))
  let bound := issuedRecord instanceId bindingId service issued
  recordBinding bound
  let binding ← orFail .provider
    (← Call.provider (.buildCredentials service.definition.id bound record))
  match reader with
  | none => return binding
  | some appGuid =>
    handOff bindingId (broker.credentialNameFor service bindingId) appGuid binding

end Brokerage.Broker
