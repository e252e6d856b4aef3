import Brokerage.Broker.Deprovision
import Brokerage.Proofs.Course.Load

/-!
The ways a deprovision can go. An outcome that is complete goes on to delete the record, one that
is pending to save it.
-/

set_option autoImplicit false

namespace Brokerage.Broker

/-- The service of a deprovision, unless it is refused. -/
def admitDeprovision (broker : Broker) (i : String) (record : InstanceRecord)
    (acceptsIncomplete : Bool) : Except BrokerError RegisteredService :=
  match broker.registry.resolve record.serviceId with
  | .error e => .error e
  | .ok service =>
    if service.deprovisionsAsync && !acceptsIncomplete then .error .asyncRequired
    else
      match pendingDeprovision record with
      | some operation => .error (.operationInProgress i operation.kind)
      | none => .ok service

theorem admitDeprovision_ok {broker : Broker} {i : String} {record : InstanceRecord}
    {acceptsIncomplete : Bool} {service : RegisteredService}
    (h : broker.admitDeprovision i record acceptsIncomplete = .ok service) :
    broker.registry.resolve record.serviceId = .ok service ∧ pendingDeprovision record = none := by
  unfold admitDeprovision at h
  split at h
  next => cases h
  next hresolve =>
    split at h
    next => cases h
    next =>
      split at h
      next => cases h
      next hidle =>
        cases h
        exact ⟨hresolve, hidle⟩

/-- What a deprovision saves of an instance when it goes on in the background. -/
def condemnedRecord (record : InstanceRecord) (token : String) : InstanceRecord :=
  { record with operation := some ⟨token, .deprovision⟩ }

section Deprovision

variable (broker : Broker) (i : String) (details : DeprovisionDetails) (acceptsIncomplete : Bool)

inductive DeprovisionCourse : Dialogue → Except BrokerError OperationResponse → Prop
  | unread (e : Store.Error) :
    DeprovisionCourse [.store (.getInstance i) (.error e)] (.error (unreadInstance i e))
  | refused {record : InstanceRecord} {e : BrokerError}
    (hadmits : broker.admitDeprovision i record acceptsIncomplete = .error e) :
    DeprovisionCourse [.store (.getInstance i) (.ok record)] (.error e)
  | declined {record : InstanceRecord} {service : RegisteredService}
    (hadmits : broker.admitDeprovision i record acceptsIncomplete = .ok service)
    (e : Provider.Error) :
    DeprovisionCourse
      [.store (.getInstance i) (.ok record),
       .provider (.deprovision service.definition.id record details) (.error e)]
      (.error (.provider e))
  | undeleted {record : InstanceRecord} {service : RegisteredService}
    (hadmits : broker.admitDeprovision i record acceptsIncomplete = .ok service)
    (e : Store.Error) :
    DeprovisionCourse
      [.store (.getInstance i) (.ok record),
       .provider (.deprovision service.definition.id record details) (.ok (.completed ())),
       .store (.deleteInstance i) (.error e)]
      (.error (.orphanedResource "deprovision" "deleting the instance record" stillListed e))
  | deleted {record : InstanceRecord} {service : RegisteredService}
    (hadmits : broker.admitDeprovision i record acceptsIncomplete = .ok service) :
    DeprovisionCourse
      [.store (.getInstance i) (.ok record),
       .provider (.deprovision service.definition.id record details) (.ok (.completed ())),
       .store (.deleteInstance i) (.ok ())]
      (.ok .completed)
  | unsaved {record : InstanceRecord} {service : RegisteredService}
    (hadmits : broker.admitDeprovision i record acceptsIncomplete = .ok service)
    (token : String) (e : Store.Error) :
    DeprovisionCourse
      [.store (.getInstance i) (.ok record),
       .provider (.deprovision service.definition.id record details) (.ok (.pending token ())),
       .store (.saveInstance (condemnedRecord record token)) (.error e)]
      (.error (.orphanedResource "deprovision" "recording the pending operation"
        unpolledDeprovision e))
  | condemned {record : InstanceRecord} {service : RegisteredService}
    (hadmits : broker.admitDeprovision i record acceptsIncomplete = .ok service)
    (token : String) :
    DeprovisionCourse
      [.store (.getInstance i) (.ok record),
       .provider (.deprovision service.definition.id record details) (.ok (.pending token ())),
       .store (.saveInstance (condemnedRecord record token)) (.ok ())]
      (.ok (.pending token))

variable {broker i details acceptsIncomplete}

theorem DeprovisionCourse.of_ends {exchanges : Dialogue}
    {result : Except BrokerError OperationResponse}
    (h : (broker.deprovision i details acceptsIncomplete).Ends exchanges result) :
    DeprovisionCourse broker i details acceptsIncomplete exchanges result := by
  rw [deprovision, ends_loadInstance_bind_iff] at h
  rcases h with ⟨e, rfl, rfl⟩ | ⟨record, rest, rfl, h⟩
  · exact .unread e
  rw [Program.ends_ofExcept_bind_iff] at h
  rcases h with ⟨e, hresolve, rfl, rfl⟩ | ⟨service, hresolve, h⟩
  · exact .refused (by rw [admitDeprovision, hresolve])
  rw [Program.ends_refuseIf_bind_iff] at h
  rcases h with ⟨hasync, rfl, rfl⟩ | ⟨hasync, h⟩
  · exact .refused (by simp [admitDeprovision, hresolve, hasync])
  cases hpending : pendingDeprovision record with
  | some operation =>
    simp only [hpending, refuseWhilePending, Program.fail_eq_done, Program.error_bind,
      Program.ends_done_iff] at h
    obtain ⟨rfl, rfl⟩ := h
    exact .refused (by simp [admitDeprovision, hresolve, hasync, hpending])
  | none =>
    have hadmits : broker.admitDeprovision i record acceptsIncomplete = .ok service := by
      simp [admitDeprovision, hresolve, hasync, hpending]
    simp only [hpending, refuseWhilePending, Program.pure_bind, Call.provider_eq_ask,
      Call.store_eq_ask, Program.ask_bind, Program.ok_bind, Program.ends_ask_iff] at h
    obtain ⟨outcome, rest, rfl, h⟩ := h
    rw [Program.ends_orFail_bind_iff] at h
    rcases h with ⟨e, rfl, rfl, rfl⟩ | ⟨outcome, rfl, h⟩
    · exact .declined hadmits e
    cases outcome with
    | completed value =>
      rw [Program.ends_ask_iff] at h
      obtain ⟨deleted, rest, rfl, h⟩ := h
      rw [Program.ends_orFail_bind_iff] at h
      rcases h with ⟨e, rfl, rfl, rfl⟩ | ⟨_, rfl, h⟩
      · exact .undeleted hadmits e
      obtain ⟨rfl, rfl⟩ := Program.ends_done_iff.1 h
      exact .deleted hadmits
    | pending token value =>
      rw [Program.ends_ask_iff] at h
      obtain ⟨saved, rest, rfl, h⟩ := h
      rw [Program.ends_orFail_bind_iff] at h
      rcases h with ⟨e, rfl, rfl, rfl⟩ | ⟨_, rfl, h⟩
      · exact .unsaved hadmits token e
      obtain ⟨rfl, rfl⟩ := Program.ends_done_iff.1 h
      exact .condemned hadmits token

end Deprovision

end Brokerage.Broker
