import Brokerage.Shape.Shaped
import Brokerage.Text.Blank

/-!
What the broker remembers: a record for each service instance, one for each binding of an
instance, and the parameters with which an instance was requested. Provider-owned details are
kept as JSON text, as the provider gave them; a blank text stands for null.
-/

set_option autoImplicit false

namespace Brokerage

/-- What a provider may still be doing to an instance. -/
inductive OperationKind where
  | provision
  | deprovision
  | update
  deriving DecidableEq

/-- What is left to do once an operation is done. -/
inductive Completion where
  | deleteRecord
  | refreshDetails
  deriving DecidableEq

namespace OperationKind

def all : List OperationKind := [.provision, .deprovision, .update]

def name : OperationKind → String
  | .provision => "provision"
  | .deprovision => "deprovision"
  | .update => "update"

def ofName? (name : String) : Option OperationKind :=
  all.find? fun kind ↦ kind.name == name

theorem ofName?_name (kind : OperationKind) : ofName? kind.name = some kind := by
  cases kind <;> rfl

def completion : OperationKind → Completion
  | .deprovision => .deleteRecord
  | .provision => .refreshDetails
  | .update => .refreshDetails

end OperationKind

/-- An operation that a provider has started and not been seen to finish. -/
structure PendingOperation where
  id : String
  kind : OperationKind
  deriving DecidableEq

structure InstanceRecord where
  id : String
  serviceId : String
  planId : String
  spaceGuid : String := ""
  organizationGuid : String := ""
  otherDetails : String := ""
  operation : Option PendingOperation := none
  createdAt : String := ""
  updatedAt : String := ""
  deriving DecidableEq

structure BindingRecord where
  instanceId : String
  bindingId : String
  serviceId : String
  otherDetails : String
  createdAt : String := ""
  deriving DecidableEq

structure RequestRecord where
  instanceId : String
  requestDetails : String
  updatedAt : String := ""
  deriving DecidableEq

/-- The value of a text of details. -/
def detailsOf (text : String) : Except (Text.Located Json.Malformation) Json :=
  if Text.isBlank text then .ok .null else Json.parse text

def InstanceRecord.details (record : InstanceRecord) :
    Except (Text.Located Json.Malformation) Json :=
  detailsOf record.otherDetails

def BindingRecord.details (record : BindingRecord) :
    Except (Text.Located Json.Malformation) Json :=
  detailsOf record.otherDetails

/-! ### Records as JSON -/

def OperationKind.shape : Shape :=
  .choice (OperationKind.all.map OperationKind.name)

instance : Shaped PendingOperation where
  shape := .record "PendingOperation"
    [("id", .refused, .text), ("kind", .refused, OperationKind.shape)]
  toJson operation := .record [("id", .string operation.id), ("kind", .string operation.kind.name)]
  ofJson j := ⟨j.textAt "id", (OperationKind.ofName? (j.textAt "kind")).getD .provision⟩

def PendingOperation.toJson? : Option PendingOperation → Json
  | none => .null
  | some operation => Shaped.toJson operation

def PendingOperation.ofJson? : Json → Option PendingOperation
  | .null => none
  | j => some (Shaped.ofJson j)

instance : Shaped InstanceRecord where
  shape := .record "ServiceInstanceRecord"
    [("id", .refused, .text), ("service_id", .refused, .text), ("plan_id", .refused, .text),
     ("space_guid", .refused, .text), ("organization_guid", .refused, .text),
     ("other_details", .refused, .text),
     ("operation", .nullWhereNamed, .optional (Shaped.shape PendingOperation)),
     ("created_at", .refused, .text), ("updated_at", .refused, .text)]
  toJson record := .record
    [("id", .string record.id), ("service_id", .string record.serviceId),
     ("plan_id", .string record.planId), ("space_guid", .string record.spaceGuid),
     ("organization_guid", .string record.organizationGuid),
     ("other_details", .string record.otherDetails),
     ("operation", PendingOperation.toJson? record.operation),
     ("created_at", .string record.createdAt), ("updated_at", .string record.updatedAt)]
  ofJson j :=
    { id := j.textAt "id", serviceId := j.textAt "service_id", planId := j.textAt "plan_id"
      spaceGuid := j.textAt "space_guid", organizationGuid := j.textAt "organization_guid"
      otherDetails := j.textAt "other_details"
      operation := PendingOperation.ofJson? (j.field "operation")
      createdAt := j.textAt "created_at", updatedAt := j.textAt "updated_at" }

instance : Shaped BindingRecord where
  shape := .record "ServiceBindingRecord"
    [("instance_id", .refused, .text), ("binding_id", .refused, .text),
     ("service_id", .refused, .text), ("other_details", .refused, .text),
     ("created_at", .refused, .text)]
  toJson record := .record
    [("instance_id", .string record.instanceId), ("binding_id", .string record.bindingId),
     ("service_id", .string record.serviceId), ("other_details", .string record.otherDetails),
     ("created_at", .string record.createdAt)]
  ofJson j :=
    { instanceId := j.textAt "instance_id", bindingId := j.textAt "binding_id"
      serviceId := j.textAt "service_id", otherDetails := j.textAt "other_details"
      createdAt := j.textAt "created_at" }

instance : Shaped RequestRecord where
  shape := .record "ProvisionRequestRecord"
    [("instance_id", .refused, .text), ("request_details", .refused, .text),
     ("updated_at", .refused, .text)]
  toJson record := .record
    [("instance_id", .string record.instanceId),
     ("request_details", .string record.requestDetails), ("updated_at", .string record.updatedAt)]
  ofJson j :=
    { instanceId := j.textAt "instance_id", requestDetails := j.textAt "request_details"
      updatedAt := j.textAt "updated_at" }

end Brokerage
