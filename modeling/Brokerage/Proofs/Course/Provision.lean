import Brokerage.Broker.Provision
import Brokerage.Proofs.Exchange

/-!
The ways a provision can go. What is settled before the provider is asked is one decision,
`admitProvision`; after it a course is told apart by the first thing that fails, and each course
has its dialogue and its result.
-/

set_option autoImplicit false

namespace Brokerage.Broker

/-- The service, the plan and the variables of a provision, unless it is refused. -/
def admitProvision (broker : Broker) (i : String) (details : ProvisionDetails)
    (acceptsIncomplete : Bool) : Except BrokerError (RegisteredService × ServicePlan × Variables) :=
  match broker.resolve details.serviceId details.planId with
  | .error e => .error e
  | .ok (service, plan) =>
    if service.provisionsAsync && !acceptsIncomplete then .error .asyncRequired
    else
      match Parameters.ensureWellFormed details.rawParameters with
      | .error e => .error e
      | .ok _ =>
        match service.definition.provisionVariables i details plan with
        | .error e => .error e
        | .ok vars => .ok (service, plan, vars)

theorem admitProvision_ok {broker : Broker} {i : String} {details : ProvisionDetails}
    {acceptsIncomplete : Bool} {service : RegisteredService} {plan : ServicePlan}
    {vars : Variables}
    (h : broker.admitProvision i details acceptsIncomplete = .ok (service, plan, vars)) :
    broker.resolve details.serviceId details.planId = .ok (service, plan) ∧
      service.definition.provisionVariables i details plan = .ok vars := by
  unfold admitProvision at h
  split at h
  next => cases h
  next hresolve =>
    split at h
    next => cases h
    next =>
      split at h
      next => cases h
      next =>
        split at h
        next => cases h
        next hvars =>
          cases h
          exact ⟨hresolve, hvars⟩

section Provision

variable (broker : Broker) (i : String) (details : ProvisionDetails) (acceptsIncomplete : Bool)

inductive ProvisionCourse : Dialogue → Except BrokerError OperationResponse → Prop
  | unchecked (e : Store.Error) :
    ProvisionCourse [.store (.instanceExists i) (.error e)] (.error (.storage e))
  | taken :
    ProvisionCourse [.store (.instanceExists i) (.ok true)] (.error (.instanceAlreadyExists i))
  | refused {e : BrokerError}
    (hadmits : broker.admitProvision i details acceptsIncomplete = .error e) :
    ProvisionCourse [.store (.instanceExists i) (.ok false)] (.error e)
  | declined {service : RegisteredService} {plan : ServicePlan} {vars : Variables}
    (hadmits : broker.admitProvision i details acceptsIncomplete = .ok (service, plan, vars))
    (e : Provider.Error) :
    ProvisionCourse
      [.store (.instanceExists i) (.ok false),
       .provider (.provision service.definition.id vars) (.error e)]
      (.error (.provider e))
  | unrecorded {service : RegisteredService} {plan : ServicePlan} {vars : Variables}
    (hadmits : broker.admitProvision i details acceptsIncomplete = .ok (service, plan, vars))
    (outcome : Provider.Outcome Json) (e : Store.Error) :
    ProvisionCourse
      [.store (.instanceExists i) (.ok false),
       .provider (.provision service.definition.id vars) (.ok outcome),
       .store (.createInstance (provisionedRecord i details service plan outcome)) (.error e)]
      (.error (if e.isConflict then .instanceAlreadyExists i
        else .orphanedResource "provision" "recording the instance" untrackedInstance e))
  | unlogged {service : RegisteredService} {plan : ServicePlan} {vars : Variables}
    (hadmits : broker.admitProvision i details acceptsIncomplete = .ok (service, plan, vars))
    (outcome : Provider.Outcome Json) (e : Store.Error) :
    ProvisionCourse
      [.store (.instanceExists i) (.ok false),
       .provider (.provision service.definition.id vars) (.ok outcome),
       .store (.createInstance (provisionedRecord i details service plan outcome)) (.ok ()),
       .store (.createRequest (requestRecord i details.rawParameters)) (.error e)]
      (.error (.orphanedResource "provision" "recording the provision request"
        unrecordedRequest e))
  | recorded {service : RegisteredService} {plan : ServicePlan} {vars : Variables}
    (hadmits : broker.admitProvision i details acceptsIncomplete = .ok (service, plan, vars))
    (outcome : Provider.Outcome Json) :
    ProvisionCourse
      [.store (.instanceExists i) (.ok false),
       .provider (.provision service.definition.id vars) (.ok outcome),
       .store (.createInstance (provisionedRecord i details service plan outcome)) (.ok ()),
       .store (.createRequest (requestRecord i details.rawParameters)) (.ok ())]
      (.ok outcome.response)

variable {broker i details acceptsIncomplete}

theorem ProvisionCourse.of_ends {exchanges : Dialogue}
    {result : Except BrokerError OperationResponse}
    (h : (broker.provision i details acceptsIncomplete).Ends exchanges result) :
    ProvisionCourse broker i details acceptsIncomplete exchanges result := by
  simp only [provision, Call.store_eq_ask, Call.provider_eq_ask, Program.ask_bind,
    Program.ok_bind, Program.ends_ask_iff] at h
  obtain ⟨taken, rest, rfl, h⟩ := h
  rw [Program.ends_orFail_bind_iff] at h
  rcases h with ⟨e, rfl, rfl, rfl⟩ | ⟨taken, rfl, h⟩
  · exact .unchecked e
  rw [Program.ends_refuseIf_bind_iff] at h
  rcases h with ⟨rfl, rfl, rfl⟩ | ⟨rfl, h⟩
  · exact .taken
  rw [Program.ends_ofExcept_bind_iff] at h
  rcases h with ⟨e, hresolve, rfl, rfl⟩ | ⟨⟨service, plan⟩, hresolve, h⟩
  · exact .refused (by rw [admitProvision, hresolve])
  rw [Program.ends_refuseIf_bind_iff] at h
  rcases h with ⟨hasync, rfl, rfl⟩ | ⟨hasync, h⟩
  · exact .refused (by simp [admitProvision, hresolve, hasync])
  rw [Program.ends_ofExcept_bind_iff] at h
  rcases h with ⟨e, hformed, rfl, rfl⟩ | ⟨_, hformed, h⟩
  · exact .refused (by simp [admitProvision, hresolve, hasync, hformed])
  rw [Program.ends_ofExcept_bind_iff] at h
  rcases h with ⟨e, hvars, rfl, rfl⟩ | ⟨vars, hvars, h⟩
  · exact .refused (by simp [admitProvision, hresolve, hasync, hformed, hvars])
  have hadmits : broker.admitProvision i details acceptsIncomplete = .ok (service, plan, vars) := by
    simp [admitProvision, hresolve, hasync, hformed, hvars]
  simp only [Program.ends_ask_iff] at h
  obtain ⟨outcome, rest, rfl, h⟩ := h
  rw [Program.ends_orFail_bind_iff] at h
  rcases h with ⟨e, rfl, rfl, rfl⟩ | ⟨outcome, rfl, h⟩
  · exact .declined hadmits e
  simp only [recordInstance, Call.store_eq_ask, Program.ask_bind, Program.ok_bind,
    Program.ends_ask_iff] at h
  obtain ⟨created, rest, rfl, h⟩ := h
  cases created with
  | error e =>
    obtain ⟨rfl, rfl⟩ := Program.ends_done_iff.1 h
    exact .unrecorded hadmits outcome e
  | ok created =>
    simp only [Program.pure_bind, Program.ends_ask_iff] at h
    obtain ⟨logged, rest, rfl, h⟩ := h
    rw [Program.ends_orFail_bind_iff] at h
    rcases h with ⟨e, rfl, rfl, rfl⟩ | ⟨_, rfl, h⟩
    · exact .unlogged hadmits outcome e
    obtain ⟨rfl, rfl⟩ := Program.ends_done_iff.1 h
    exact .recorded hadmits outcome

end Provision

end Brokerage.Broker
