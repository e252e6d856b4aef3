import Brokerage.Json.Basic
import Brokerage.Table

/-!
A credential vault: values under names, each with the number of times it has been written and the
permissions granted on it, latest grant last. Writing a value keeps the permissions.
-/

set_option autoImplicit false

namespace Brokerage

/-- The identifier that begins the name of every vaulted credential where none is configured. -/
def defaultClientIdentifier : String := "csb"

/-- The path under which the credentials of a binding are kept. -/
def credentialName (clientIdentifier serviceName bindingId : String) : String :=
  "/c/" ++ clientIdentifier ++ "/" ++ serviceName ++ "/" ++ bindingId ++ "/secrets-and-services"

/-- The name under which an application asks the vault for credentials. -/
def appActor (appGuid : String) : String :=
  "mtls-app:" ++ appGuid

/-- The operation granted on vaulted credentials. -/
def readOperation : String := "read"

/-- The key of the reference that stands for vaulted credentials. -/
def credentialRefKey : String := "credhub-ref"

structure Permission where
  actor : String
  operations : List String
  deriving DecidableEq

namespace Vault

inductive Error where
  | notFound (name : String)
  | request (message : String)
  deriving DecidableEq

def Error.message : Error → String
  | .notFound name => s!"credential {name} not found in vault"
  | .request message => s!"vault request failed: {message}"

structure Entry where
  value : Json
  /-- The number of times the value has been written. A count of 64 bits agrees with it up to 2^64
  writes of one name, which are not reachable. -/
  version : Nat
  permissions : List Permission
  deriving DecidableEq

/-- What can be asked of a vault. -/
inductive Request where
  | put (name : String) (value : Json)
  | addPermission (name actor : String) (operations : List String)
  | deletePermission (name : String)
  | delete (name : String)

/-- The requests without what they are about. -/
inductive Method where
  | put
  | addPermission
  | deletePermission
  | delete
  deriving DecidableEq

namespace Method

def all : List Method := [.put, .addPermission, .deletePermission, .delete]

def name : Method → String
  | .put => "put"
  | .addPermission => "add_permission"
  | .deletePermission => "delete_permission"
  | .delete => "delete"

def ofName? (name : String) : Option Method :=
  all.find? fun method ↦ method.name == name

end Method

namespace Request

def method : Request → Method
  | .put _ _ => .put
  | .addPermission _ _ _ => .addPermission
  | .deletePermission _ => .deletePermission
  | .delete _ => .delete

/-- Writing a value is answered with the identifier of the version written. -/
abbrev Answer : Request → Type
  | .put _ _ => String
  | .addPermission _ _ _ => Unit
  | .deletePermission _ => Unit
  | .delete _ => Unit

abbrev Reply (q : Request) : Type :=
  Except Error q.Answer

def name : Request → String
  | .put name _ | .addPermission name _ _ | .deletePermission name | .delete name => name

end Request

end Vault

abbrev Vault := Table String Vault.Entry

namespace Vault

def empty : Vault := []

def value? (v : Vault) (name : String) : Option Json :=
  (v.get? name).map Entry.value

def permissions (v : Vault) (name : String) : List Permission :=
  ((v.get? name).map Entry.permissions).getD []

def written (known : Option Entry) (value : Json) : Entry :=
  match known with
  | none => ⟨value, 1, []⟩
  | some entry => { entry with value, version := entry.version + 1 }

/-- An entry on which an actor's latest grant is the given one. -/
def granted (entry : Entry) (actor : String) (operations : List String) : Entry :=
  let others := entry.permissions.filter fun p ↦ p.actor ≠ actor
  { entry with permissions := others ++ [⟨actor, operations⟩] }

/-- Applies a change to a name that must be present. -/
def onPresent (v : Vault) (name : String) (change : Entry → Vault) : Except Error Unit × Vault :=
  match v.get? name with
  | none => (.error (.notFound name), v)
  | some entry => (.ok (), change entry)

/-- Answers one request. -/
def answer (v : Vault) : (q : Request) → q.Reply × Vault
  | .put name value =>
    let entry := written (v.get? name) value
    (.ok s!"{name}@{entry.version}", Table.put v name entry)
  | .addPermission name actor operations =>
    v.onPresent name fun entry ↦ Table.put v name (granted entry actor operations)
  | .deletePermission name =>
    v.onPresent name fun entry ↦ Table.put v name { entry with permissions := [] }
  | .delete name => v.onPresent name fun _ ↦ Table.remove v name

end Vault

end Brokerage
