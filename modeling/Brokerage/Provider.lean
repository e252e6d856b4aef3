import Brokerage.Details
import Brokerage.Json.Members
import Brokerage.Record
import Brokerage.Response

/-!
Service providers: what can be asked of the one behind a service, what it answers, and how its
failures are told apart. An action of a provider is completed by the answer or goes on in the
background under an operation id.
-/

set_option autoImplicit false

namespace Brokerage

/-- The merged parameters handed to a provider. -/
abbrev Variables := Members

namespace Provider

inductive Error where
  | unavailable (message : String)
  | rejected (status : Nat) (message : String)
  | failed (message : String)
  deriving DecidableEq

inductive ErrorClass where
  | transient
  | terminal
  deriving DecidableEq

/-- Statuses after which asking again may help. -/
def transientStatuses : List Nat := [429, 503]

namespace Error

def message : Error → String
  | .unavailable message => s!"service temporarily unavailable: {message}"
  | .rejected status message => s!"upstream API returned {status}: {message}"
  | .failed message => message

def classify : Error → ErrorClass
  | .unavailable _ => .transient
  | .rejected status _ => if transientStatuses.contains status then .transient else .terminal
  | .failed _ => .terminal

end Error

/-- What a provider reports after starting an action. -/
inductive Outcome (α : Type) where
  | completed (value : α)
  | pending (operationId : String) (value : α)
  deriving DecidableEq

namespace Outcome

variable {α : Type}

def operationId? : Outcome α → Option String
  | .completed _ => none
  | .pending operationId _ => some operationId

def value : Outcome α → α
  | .completed value | .pending _ value => value

/-- What the caller is told about the action. -/
def response : Outcome α → OperationResponse
  | .completed _ => .completed
  | .pending operationId _ => .pending operationId

/-- What is recorded about the action. -/
def operation? (kind : OperationKind) (outcome : Outcome α) : Option PendingOperation :=
  outcome.operationId?.map fun id ↦ ⟨id, kind⟩

end Outcome

/-- A request to the provider of the service that each begins with. -/
inductive Request where
  | provision (serviceId : String) (vars : Variables)
  | update (serviceId : String) (vars : Variables)
  | deprovision (serviceId : String) (record : InstanceRecord) (details : DeprovisionDetails)
  | bind (serviceId : String) (vars : Variables)
  | buildCredentials (serviceId : String) (binding : BindingRecord) (record : InstanceRecord)
  | unbind (serviceId : String) (record : InstanceRecord) (binding : BindingRecord)
  | poll (serviceId : String) (record : InstanceRecord)
  | refresh (serviceId : String) (record : InstanceRecord)

/-- The requests without what they are about. -/
inductive Method where
  | provision
  | update
  | deprovision
  | bind
  | buildCredentials
  | unbind
  | poll
  | refresh
  deriving DecidableEq

namespace Method

def all : List Method :=
  [.provision, .update, .deprovision, .bind, .buildCredentials, .unbind, .poll, .refresh]

def name : Method → String
  | .provision => "provision"
  | .update => "update"
  | .deprovision => "deprovision"
  | .bind => "bind"
  | .buildCredentials => "build_instance_credentials"
  | .unbind => "unbind"
  | .poll => "poll_instance"
  | .refresh => "refresh_instance_details"

def ofName? (name : String) : Option Method :=
  all.find? fun method ↦ method.name == name

end Method

namespace Request

def method : Request → Method
  | .provision _ _ => .provision
  | .update _ _ => .update
  | .deprovision _ _ _ => .deprovision
  | .bind _ _ => .bind
  | .buildCredentials _ _ _ => .buildCredentials
  | .unbind _ _ _ => .unbind
  | .poll _ _ => .poll
  | .refresh _ _ => .refresh

/-- A poll is answered with whether the operation is done, a refresh with the record as the
provider left it. -/
abbrev Answer : Request → Type
  | .provision _ _ => Outcome Json
  | .update _ _ => Outcome Unit
  | .deprovision _ _ _ => Outcome Unit
  | .bind _ _ => Json
  | .buildCredentials _ _ _ => Binding
  | .unbind _ _ _ => Unit
  | .poll _ _ => Bool
  | .refresh _ _ => InstanceRecord

abbrev Reply (q : Request) : Type :=
  Except Error q.Answer

def serviceId : Request → String
  | .provision s _ | .update s _ | .deprovision s _ _ | .bind s _ | .buildCredentials s _ _
  | .unbind s _ _ | .poll s _ | .refresh s _ => s

end Request

end Provider

end Brokerage
