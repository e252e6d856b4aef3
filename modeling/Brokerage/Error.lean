import Brokerage.Provider
import Brokerage.Record
import Brokerage.Store.Error
import Brokerage.Vault

/-!
The ways in which the broker refuses or fails a request, each with its wording and its kind. The
three kinds of partial failure are those after which the provider, the vault and the records
no longer agree.
-/

set_option autoImplicit false

namespace Brokerage

inductive ErrorKind where
  | validation
  | notFound
  | conflict
  | asyncRequired
  | prohibitedUpdate
  | provider
  | persistence
  | vault
  | orphanedExternalResource
  | credentialHandoffFailed
  | staleOperationState
  | unsupported
  deriving DecidableEq

namespace ErrorKind

def name : ErrorKind → String
  | .validation => "validation"
  | .notFound => "not-found"
  | .conflict => "conflict"
  | .asyncRequired => "async-required"
  | .prohibitedUpdate => "prohibited"
  | .provider => "provider"
  | .persistence => "persistence"
  | .vault => "vault"
  | .orphanedExternalResource => "orphaned-external-resource"
  | .credentialHandoffFailed => "credential-handoff-failed"
  | .staleOperationState => "stale-operation-state"
  | .unsupported => "unsupported"

def isPartialFailure : ErrorKind → Bool
  | .orphanedExternalResource | .credentialHandoffFailed | .staleOperationState => true
  | _ => false

end ErrorKind

inductive BrokerError where
  | invalidParameters (reason : String)
  | schemaViolation (serviceId : String) (errors : List String)
  | missingAppIdentity (serviceId : String)
  | instanceNotFound (instanceId : String)
  | bindingNotFound (instanceId bindingId : String)
  | serviceNotFound (serviceId : String)
  | planNotFound (serviceId planId : String)
  | instanceAlreadyExists (instanceId : String)
  | bindingAlreadyExists (instanceId bindingId : String)
  | operationInProgress (instanceId : String) (operation : OperationKind)
  | asyncRequired
  | prohibitedUpdate (changes : List String)
  | provider (error : Provider.Error)
  | storage (error : Store.Error)
  | vault (error : Vault.Error)
  | orphanedResource (action what consequence : String) (source : Store.Error)
  | credentialHandoff (bindingId step : String) (source : Vault.Error)
  | completionFailed (instanceId : String) (operation : OperationKind) (reason : String)
  | unsupported (operation : String)
  deriving DecidableEq

namespace BrokerError

def kind : BrokerError → ErrorKind
  | .invalidParameters _ | .schemaViolation _ _ | .missingAppIdentity _ => .validation
  | .instanceNotFound _ | .bindingNotFound _ _ | .serviceNotFound _ | .planNotFound _ _ => .notFound
  | .instanceAlreadyExists _ | .bindingAlreadyExists _ _ | .operationInProgress _ _ => .conflict
  | .asyncRequired => .asyncRequired
  | .prohibitedUpdate _ => .prohibitedUpdate
  | .provider _ => .provider
  | .storage _ => .persistence
  | .vault _ => .vault
  | .orphanedResource _ _ _ _ => .orphanedExternalResource
  | .credentialHandoff _ _ _ => .credentialHandoffFailed
  | .completionFailed _ _ _ => .staleOperationState
  | .unsupported _ => .unsupported

def isPartialFailure (e : BrokerError) : Bool :=
  e.kind.isPartialFailure

def message : BrokerError → String
  | .invalidParameters reason => s!"user supplied parameters must be valid JSON: {reason}"
  | .schemaViolation service errors =>
    s!"parameters for service {service} do not match its schema: " ++ "; ".intercalate errors
  | .missingAppIdentity service =>
    s!"an app_guid is required to bind service {service} while a credential vault is configured"
  | .instanceNotFound i => s!"service instance {i} does not exist"
  | .bindingNotFound i b => s!"service binding {b} does not exist on instance {i}"
  | .serviceNotFound service => s!"service {service} is not in the catalog"
  | .planNotFound service plan => s!"plan {plan} does not exist on service {service}"
  | .instanceAlreadyExists i => s!"service instance {i} already exists"
  | .bindingAlreadyExists i b => s!"service binding {b} already exists on instance {i}"
  | .operationInProgress i operation =>
    s!"service instance {i} has a {operation.name} operation in progress"
  | .asyncRequired =>
    "this service plan requires client support for asynchronous service operations"
  | .prohibitedUpdate changes =>
    "attempt to update " ++ ", ".intercalate changes ++
      " may result in service instance re-creation and data loss"
  | .provider error => error.message
  | .storage error => s!"storage error: {error.message}"
  | .vault error => s!"credential vault error: {error.message}"
  | .orphanedResource action what consequence source =>
    s!"{action} succeeded at the provider but {what} failed: {source.message}. " ++
      s!"WARNING: {consequence}. Contact your operator for cleanup"
  | .credentialHandoff b step source =>
    s!"binding {b} was recorded but the credential hand-off failed while trying to {step}: " ++
      s!"{source.message}. WARNING: the binding exists without usable credentials. " ++
      "Unbind and bind again, or contact your operator"
  | .completionFailed i operation reason =>
    s!"{operation.name} of instance {i} completed but the local record could not be reconciled: " ++
      s!"{reason}. WARNING: the instance keeps stale operation state. " ++
      "Contact your operator for cleanup"
  | .unsupported operation => s!"the {operation} endpoint is unsupported"

end BrokerError

end Brokerage
