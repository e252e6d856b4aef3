import Brokerage.Call
import Brokerage.Catalog.Registry

/-!
The broker itself: a registry, whether credentials are handed to a vault, and the identifier that
begins the name of every vaulted credential. It keeps nothing of its own between calls.
-/

set_option autoImplicit false

namespace Brokerage

structure Broker where
  registry : Registry
  hasVault : Bool := false
  clientIdentifier : String := defaultClientIdentifier
  deriving DecidableEq

namespace Broker

open Program

def services (broker : Broker) : List CatalogService :=
  broker.registry.catalog

/-- The service and the plan of two ids. -/
def resolve (broker : Broker) (serviceId planId : String) :
    Except BrokerError (RegisteredService × ServicePlan) :=
  match broker.registry.resolve serviceId with
  | .error e => .error e
  | .ok service =>
    match service.definition.resolvePlan planId with
    | .error e => .error e
    | .ok plan => .ok (service, plan)

/-- Reads an instance that has to be there. -/
def loadInstance (instanceId : String) : Call InstanceRecord := do
  match ← Call.store (.getInstance instanceId) with
  | .ok record => return record
  | .error e =>
    fail (if e.isNotFound then .instanceNotFound instanceId else .storage e)

/-- The name under which the credentials of a binding of a service are vaulted. -/
def credentialNameFor (broker : Broker) (service : RegisteredService) (bindingId : String) :
    String :=
  credentialName broker.clientIdentifier service.definition.name bindingId

/-! ### Requests that are always refused -/

def getInstance (_instanceId : String) : Call InstanceRecord :=
  fail (.unsupported "get instance")

def getBinding (_instanceId _bindingId : String) : Call Binding :=
  fail (.unsupported "get binding")

/-- Bindings complete at once, so there is never an operation of one to ask about. -/
def lastBindingOperation (_instanceId _bindingId : String) : Call LastOperation :=
  fail .asyncRequired

/-- A broker as it appears in a diagnostic. -/
def describe (broker : Broker) : String :=
  "ServiceBroker \x7b registry: " ++ broker.registry.describe ++ s!", vault: {broker.hasVault}" ++
    ", client_identifier: " ++ Text.quoted broker.clientIdentifier ++ " \x7d"

end Broker

end Brokerage
