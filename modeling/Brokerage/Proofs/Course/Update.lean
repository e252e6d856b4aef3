import Brokerage.Broker.Update
import Brokerage.Proofs.Course.Load

/-!
The ways an update can go. Nothing is written before the provider has accepted the change.
-/

set_option autoImplicit false

namespace Brokerage.Broker

/-- The service, the plan and the variables of an update, unless it is refused. -/
def admitUpdate (broker : Broker) (i : String) (record : InstanceRecord) (details : UpdateDetails)
    (acceptsIncomplete : Bool) : Except BrokerError (RegisteredService × ServicePlan × Variables) :=
  match broker.resolve record.serviceId (details.planId.getD record.planId) with
  | .error e => .error e
  | .ok (service, plan) =>
    if service.provisionsAsync && !acceptsIncomplete then .error .asyncRequired
    else
      match record.operation with
      | some operation => .error (.operationInProgress i operation.kind)
      | none =>
        match Parameters.ensureWellFormed details.rawParameters with
        | .error e => .error e
        | .ok _ =>
          match service.definition.prohibitedChanges record.planId details with
          | .error e => .error e
          | .ok changes =>
            if !changes.isEmpty then .error (.prohibitedUpdate changes)
            else
              match service.definition.updateVariables record details plan with
              | .error e => .error e
              | .ok vars => .ok (service, plan, vars)

theorem admitUpdate_ok {broker : Broker} {i : String} {record : InstanceRecord}
    {details : UpdateDetails} {acceptsIncomplete : Bool} {service : RegisteredService}
    {plan : ServicePlan} {vars : Variables}
    (h : broker.admitUpdate i record details acceptsIncomplete = .ok (service, plan, vars)) :
    broker.resolve record.serviceId (details.planId.getD record.planId) = .ok (service, plan) ∧
      record.operation = none ∧
        service.definition.updateVariables record details plan = .ok vars ∧
          service.definition.prohibitedChanges record.planId details = .ok [] := by
  unfold admitUpdate at h
  split at h
  next => cases h
  next hresolve =>
    split at h
    next => cases h
    next =>
      split at h
      next => cases h
      next hidle =>
        split at h
        next => cases h
        next =>
          split at h
          next => cases h
          next changes hchanges =>
            split at h
            next => cases h
            next hallowed =>
              split at h
              next => cases h
              next hvars =>
                cases h
                obtain rfl : changes = [] := by simpa using hallowed
                exact ⟨hresolve, hidle, hvars, hchanges⟩

/-- What an update may be refused for, before its provider is asked. -/
inductive UpdateRefusal (broker : Broker) (i : String) (record : InstanceRecord)
    (details : UpdateDetails) : BrokerError → Prop where
  | unresolved {e : BrokerError}
    (hresolve : broker.resolve record.serviceId (details.planId.getD record.planId) = .error e) :
    UpdateRefusal broker i record details e
  | synchronous : UpdateRefusal broker i record details .asyncRequired
  | pending (operation : PendingOperation) :
    UpdateRefusal broker i record details (.operationInProgress i operation.kind)
  | malformed {e : BrokerError}
    (hformed : Parameters.ensureWellFormed details.rawParameters = .error e) :
    UpdateRefusal broker i record details e
  | uncompared {service : RegisteredService} {e : BrokerError}
    (hchanges : service.definition.prohibitedChanges record.planId details = .error e) :
    UpdateRefusal broker i record details e
  | prohibited {service : RegisteredService} {plan : ServicePlan} {changes : List String}
    (hresolve :
      broker.resolve record.serviceId (details.planId.getD record.planId) = .ok (service, plan))
    (hchanges : service.definition.prohibitedChanges record.planId details = .ok changes)
    (hsome : changes ≠ []) : UpdateRefusal broker i record details (.prohibitedUpdate changes)
  | unvaried {service : RegisteredService} {plan : ServicePlan} {e : BrokerError}
    (hresolve :
      broker.resolve record.serviceId (details.planId.getD record.planId) = .ok (service, plan))
    (hvars : service.definition.updateVariables record details plan = .error e) :
    UpdateRefusal broker i record details e

theorem admitUpdate_error {broker : Broker} {i : String} {record : InstanceRecord}
    {details : UpdateDetails} {acceptsIncomplete : Bool} {e : BrokerError}
    (h : broker.admitUpdate i record details acceptsIncomplete = .error e) :
    broker.UpdateRefusal i record details e := by
  unfold admitUpdate at h
  split at h
  next hresolve => exact Except.error.inj h ▸ .unresolved hresolve
  next hresolve =>
    split at h
    next => exact Except.error.inj h ▸ .synchronous
    next =>
      split at h
      next operation _ => exact Except.error.inj h ▸ .pending operation
      next =>
        split at h
        next hformed => exact Except.error.inj h ▸ .malformed hformed
        next =>
          split at h
          next hchanges => exact Except.error.inj h ▸ .uncompared hchanges
          next changes hchanges =>
            split at h
            next hfound =>
              have hsome : changes ≠ [] := by
                rintro rfl
                cases hfound
              exact Except.error.inj h ▸ .prohibited hresolve hchanges hsome
            next =>
              split at h
              next hvars => exact Except.error.inj h ▸ .unvaried hresolve hvars
              next => cases h

/-- What an update saves of an instance. -/
def updatedRecord (record : InstanceRecord) (plan : ServicePlan)
    (outcome : Provider.Outcome Unit) : InstanceRecord :=
  { record with planId := plan.id, operation := outcome.operation? .update }

section Update

variable (broker : Broker) (i : String) (details : UpdateDetails) (acceptsIncomplete : Bool)

inductive UpdateCourse : Dialogue → Except BrokerError OperationResponse → Prop
  | unread (e : Store.Error) :
    UpdateCourse [.store (.getInstance i) (.error e)] (.error (unreadInstance i e))
  | refused {record : InstanceRecord} {e : BrokerError}
    (hadmits : broker.admitUpdate i record details acceptsIncomplete = .error e) :
    UpdateCourse [.store (.getInstance i) (.ok record)] (.error e)
  | declined {record : InstanceRecord} {service : RegisteredService} {plan : ServicePlan}
    {vars : Variables}
    (hadmits : broker.admitUpdate i record details acceptsIncomplete = .ok (service, plan, vars))
    (e : Provider.Error) :
    UpdateCourse
      [.store (.getInstance i) (.ok record),
       .provider (.update service.definition.id vars) (.error e)]
      (.error (.provider e))
  | unsaved {record : InstanceRecord} {service : RegisteredService} {plan : ServicePlan}
    {vars : Variables}
    (hadmits : broker.admitUpdate i record details acceptsIncomplete = .ok (service, plan, vars))
    (outcome : Provider.Outcome Unit) (e : Store.Error) :
    UpdateCourse
      [.store (.getInstance i) (.ok record),
       .provider (.update service.definition.id vars) (.ok outcome),
       .store (.saveInstance (updatedRecord record plan outcome)) (.error e)]
      (.error (.orphanedResource "update" "saving the instance record" stalePlan e))
  | unlogged {record : InstanceRecord} {service : RegisteredService} {plan : ServicePlan}
    {vars : Variables}
    (hadmits : broker.admitUpdate i record details acceptsIncomplete = .ok (service, plan, vars))
    (outcome : Provider.Outcome Unit) (e : Store.Error) :
    UpdateCourse
      [.store (.getInstance i) (.ok record),
       .provider (.update service.definition.id vars) (.ok outcome),
       .store (.saveInstance (updatedRecord record plan outcome)) (.ok ()),
       .store (.saveRequest (requestRecord i details.rawParameters)) (.error e)]
      (.error (.orphanedResource "update" "recording the update request" unrecordedRequest e))
  | completed {record : InstanceRecord} {service : RegisteredService} {plan : ServicePlan}
    {vars : Variables}
    (hadmits : broker.admitUpdate i record details acceptsIncomplete = .ok (service, plan, vars))
    (outcome : Provider.Outcome Unit) :
    UpdateCourse
      [.store (.getInstance i) (.ok record),
       .provider (.update service.definition.id vars) (.ok outcome),
       .store (.saveInstance (updatedRecord record plan outcome)) (.ok ()),
       .store (.saveRequest (requestRecord i details.rawParameters)) (.ok ())]
      (.ok outcome.response)

variable {broker i details acceptsIncomplete}

theorem UpdateCourse.of_ends {exchanges : Dialogue}
    {result : Except BrokerError OperationResponse}
    (h : (broker.update i details acceptsIncomplete).Ends exchanges result) :
    UpdateCourse broker i details acceptsIncomplete exchanges result := by
  rw [update, ends_loadInstance_bind_iff] at h
  rcases h with ⟨e, rfl, rfl⟩ | ⟨record, rest, rfl, h⟩
  · exact .unread e
  rw [Program.ends_ofExcept_bind_iff] at h
  rcases h with ⟨e, hresolve, rfl, rfl⟩ | ⟨⟨service, plan⟩, hresolve, h⟩
  · exact .refused (by rw [admitUpdate, hresolve])
  rw [Program.ends_refuseIf_bind_iff] at h
  rcases h with ⟨hasync, rfl, rfl⟩ | ⟨hasync, h⟩
  · exact .refused (by simp [admitUpdate, hresolve, hasync])
  cases hpending : record.operation with
  | some operation =>
    simp only [hpending, refuseWhilePending, Program.fail_eq_done, Program.error_bind,
      Program.ends_done_iff] at h
    obtain ⟨rfl, rfl⟩ := h
    exact .refused (by simp [admitUpdate, hresolve, hasync, hpending])
  | none =>
    simp only [hpending, refuseWhilePending, Program.pure_bind] at h
    rw [Program.ends_ofExcept_bind_iff] at h
    rcases h with ⟨e, hformed, rfl, rfl⟩ | ⟨_, hformed, h⟩
    · exact .refused (by simp [admitUpdate, hresolve, hasync, hpending, hformed])
    rw [Program.ends_ofExcept_bind_iff] at h
    rcases h with ⟨e, hchanges, rfl, rfl⟩ | ⟨changes, hchanges, h⟩
    · exact .refused (by simp [admitUpdate, hresolve, hasync, hpending, hformed, hchanges])
    rw [Program.ends_refuseIf_bind_iff] at h
    rcases h with ⟨hallowed, rfl, rfl⟩ | ⟨hallowed, h⟩
    · exact .refused (by
        simp [admitUpdate, hresolve, hasync, hpending, hformed, hchanges, hallowed])
    rw [Program.ends_ofExcept_bind_iff] at h
    rcases h with ⟨e, hvars, rfl, rfl⟩ | ⟨vars, hvars, h⟩
    · exact .refused (by
        simp [admitUpdate, hresolve, hasync, hpending, hformed, hchanges, hallowed, hvars])
    have hadmits : broker.admitUpdate i record details acceptsIncomplete
        = .ok (service, plan, vars) := by
      simp [admitUpdate, hresolve, hasync, hpending, hformed, hchanges, hallowed, hvars]
    simp only [Call.provider_eq_ask, Call.store_eq_ask, Program.ask_bind, Program.ok_bind,
      Program.ends_ask_iff] at h
    obtain ⟨outcome, rest, rfl, h⟩ := h
    rw [Program.ends_orFail_bind_iff] at h
    rcases h with ⟨e, rfl, rfl, rfl⟩ | ⟨outcome, rfl, h⟩
    · exact .declined hadmits e
    rw [Program.ends_ask_iff] at h
    obtain ⟨saved, rest, rfl, h⟩ := h
    rw [Program.ends_orFail_bind_iff] at h
    rcases h with ⟨e, rfl, rfl, rfl⟩ | ⟨_, rfl, h⟩
    · exact .unsaved hadmits outcome e
    rw [Program.ends_ask_iff] at h
    obtain ⟨logged, rest, rfl, h⟩ := h
    rw [Program.ends_orFail_bind_iff] at h
    rcases h with ⟨e, rfl, rfl, rfl⟩ | ⟨_, rfl, h⟩
    · exact .unlogged hadmits outcome e
    obtain ⟨rfl, rfl⟩ := Program.ends_done_iff.1 h
    exact .completed hadmits outcome

end Update

end Brokerage.Broker
