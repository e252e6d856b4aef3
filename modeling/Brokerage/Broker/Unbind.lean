import Brokerage.Broker.Basic

/-!
Revoking a binding. Vaulted credentials go first: the permission is taken away if that is possible
and the secret must be gone, or never have been there, before the provider is asked. The record
goes last.
-/

set_option autoImplicit false

namespace Brokerage.Broker

open Program

def revokedButListed : String :=
  "the broker still lists a binding whose credentials were revoked at the provider"

/-- Reads a binding that has to be there. -/
def loadBinding (instanceId bindingId : String) : Call BindingRecord := do
  match ← Call.store (.getBinding instanceId bindingId) with
  | .ok record => return record
  | .error e =>
    fail (if e.isNotFound then .bindingNotFound instanceId bindingId else .storage e)

def removeVaulted (name : String) : Call Unit := do
  let _ ← Call.vault (.deletePermission name)
  match ← Call.vault (.delete name) with
  | .ok _ => return ()
  | .error (.notFound _) => return ()
  | .error e => fail (.vault e)

def unbind (broker : Broker) (instanceId bindingId : String) (_details : UnbindDetails) :
    Call Unit := do
  let binding ← loadBinding instanceId bindingId
  let record ← loadInstance instanceId
  let service ← ofExcept (broker.registry.resolve binding.serviceId)
  if broker.hasVault then removeVaulted (broker.credentialNameFor service bindingId)
  orFail .provider (← Call.provider (.unbind service.definition.id record binding))
  orFail (.orphanedResource "unbind" "deleting the binding record" revokedButListed)
    (← Call.store (.deleteBinding instanceId bindingId))

end Brokerage.Broker
