import Brokerage.Catalog.Definition
import Brokerage.Json.Access

/-!
What a provider is told. Whatever a user, a plan or the defaults of a service say, the variables
name the instance and the binding that the request is made for, and hold the details of the
instance.
-/

set_option autoImplicit false

namespace Brokerage.ServiceDefinition

variable {definition : ServiceDefinition} {vars : Variables}

theorem instanceId_of_provisionVariables {i : String} {details : ProvisionDetails}
    {plan : ServicePlan} (h : definition.provisionVariables i details plan = .ok vars) :
    (Json.object vars).textAt "instance_id" = i := by
  unfold provisionVariables at h
  split at h
  next => cases h
  next user _ =>
    cases h
    simp [Json.textAt, Json.field, Json.membersOf, Json.textOf, Json.text?, provisionContext,
      Members.extend, Members.get?_insert]

theorem instanceId_of_updateVariables {record : InstanceRecord} {details : UpdateDetails}
    {plan : ServicePlan} (h : definition.updateVariables record details plan = .ok vars) :
    (Json.object vars).textAt "instance_id" = record.id := by
  unfold updateVariables at h
  split at h
  next => cases h
  next user _ =>
    cases h
    simp [Json.textAt, Json.field, Json.membersOf, Json.textOf, Json.text?, updateContext,
      Members.extend, Members.get?_insert]

theorem ids_of_bindVariables {record : InstanceRecord} {b : String} {details : BindDetails}
    {plan : ServicePlan} (h : definition.bindVariables record b details plan = .ok vars) :
    (Json.object vars).textAt "instance_id" = record.id ∧
      (Json.object vars).textAt "binding_id" = b := by
  unfold bindVariables at h
  split at h
  next => cases h
  next user _ =>
    cases h
    constructor <;>
      simp [Json.textAt, Json.field, Json.membersOf, Json.textOf, Json.text?, bindContext,
        Members.extend, Members.get?_insert]

theorem details_of_updateVariables {record : InstanceRecord} {details : UpdateDetails}
    {plan : ServicePlan} (h : definition.updateVariables record details plan = .ok vars) :
    vars.get? "instance_details" = some (instanceDetails record) := by
  unfold updateVariables at h
  split at h
  next => cases h
  next user _ =>
    cases h
    simp [updateContext, Members.extend, Members.get?_insert]

theorem details_of_bindVariables {record : InstanceRecord} {b : String} {details : BindDetails}
    {plan : ServicePlan} (h : definition.bindVariables record b details plan = .ok vars) :
    vars.get? "instance_details" = some (instanceDetails record) := by
  unfold bindVariables at h
  split at h
  next => cases h
  next user _ =>
    cases h
    simp [bindContext, Members.extend, Members.get?_insert]

end Brokerage.ServiceDefinition
