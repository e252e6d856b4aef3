import Brokerage.Record
import Brokerage.Text.Quoted

/-!
Records as they appear in diagnostics, with every field under its name.
-/

set_option autoImplicit false

namespace Brokerage

/-- A named group of fields. -/
def describeFields (name : String) (fields : List (String × String)) : String :=
  name ++ " \x7b " ++ ", ".intercalate (fields.map fun entry ↦ entry.1 ++ ": " ++ entry.2) ++
    " \x7d"

def OperationKind.describe : OperationKind → String
  | .provision => "Provision"
  | .deprovision => "Deprovision"
  | .update => "Update"

def PendingOperation.describe (operation : PendingOperation) : String :=
  describeFields "PendingOperation"
    [("id", Text.quoted operation.id), ("kind", operation.kind.describe)]

def PendingOperation.describe? : Option PendingOperation → String
  | none => "None"
  | some operation => "Some(" ++ operation.describe ++ ")"

def InstanceRecord.describe (record : InstanceRecord) : String :=
  describeFields "ServiceInstanceRecord"
    [("id", Text.quoted record.id), ("service_id", Text.quoted record.serviceId),
     ("plan_id", Text.quoted record.planId), ("space_guid", Text.quoted record.spaceGuid),
     ("organization_guid", Text.quoted record.organizationGuid),
     ("other_details", Text.quoted record.otherDetails),
     ("operation", PendingOperation.describe? record.operation),
     ("created_at", Text.quoted record.createdAt), ("updated_at", Text.quoted record.updatedAt)]

def BindingRecord.describe (record : BindingRecord) : String :=
  describeFields "ServiceBindingRecord"
    [("instance_id", Text.quoted record.instanceId), ("binding_id", Text.quoted record.bindingId),
     ("service_id", Text.quoted record.serviceId),
     ("other_details", Text.quoted record.otherDetails),
     ("created_at", Text.quoted record.createdAt)]

end Brokerage
