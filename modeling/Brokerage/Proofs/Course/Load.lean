import Brokerage.Broker.Basic
import Brokerage.Proofs.Exchange

/-!
Every call but a provision reads the record of an instance, and ends at once if it cannot be read.
The service that the record names is looked up under its id.
-/

set_option autoImplicit false

namespace Brokerage.Broker

/-- The error of a call whose instance could not be read. -/
def unreadInstance (i : String) (e : Store.Error) : BrokerError :=
  if e.isNotFound then .instanceNotFound i else .storage e

variable {α : Type} {i : String} {next : InstanceRecord → Call α} {exchanges : Dialogue}
  {result : Except BrokerError α}

theorem ends_loadInstance_bind_iff :
    (loadInstance i >>= next).Ends exchanges result ↔
      (∃ e, exchanges = [.store (.getInstance i) (.error e)] ∧
          result = .error (unreadInstance i e)) ∨
        ∃ record rest, exchanges = .store (.getInstance i) (.ok record) :: rest ∧
          (next record).Ends rest result := by
  simp only [loadInstance, Call.store_eq_ask, Program.ask_bind, Program.ok_bind,
    Program.ends_ask_iff]
  constructor
  · rintro ⟨reply, rest, rfl, h⟩
    cases reply with
    | error e =>
      obtain ⟨rfl, rfl⟩ := Program.ends_done_iff.1 h
      exact .inl ⟨e, rfl, rfl⟩
    | ok record => exact .inr ⟨record, rest, rfl, h⟩
  · rintro (⟨e, rfl, rfl⟩ | ⟨record, rest, rfl, h⟩)
    · exact ⟨.error e, [], rfl, Program.ends_done_iff.2 ⟨rfl, rfl⟩⟩
    · exact ⟨.ok record, rest, rfl, h⟩

/-! ### Services of a registry -/

theorem serviceId_of_resolve {registry : Registry} {serviceId : String}
    {service : RegisteredService} (h : registry.resolve serviceId = .ok service) :
    service.definition.id = serviceId :=
  (Registry.resolve_ok h).2

theorem resolve_own_id {registry : Registry} {serviceId : String} {service : RegisteredService}
    (h : registry.resolve serviceId = .ok service) :
    registry.resolve service.definition.id = .ok service := by
  rw [serviceId_of_resolve h]
  exact h

theorem registry_resolve_of_resolve {broker : Broker} {serviceId planId : String}
    {service : RegisteredService} {plan : ServicePlan}
    (h : broker.resolve serviceId planId = .ok (service, plan)) :
    broker.registry.resolve serviceId = .ok service := by
  unfold resolve at h
  split at h
  next => cases h
  next found hfound =>
    split at h
    next => cases h
    next =>
      cases h
      exact hfound

theorem planId_of_resolve {broker : Broker} {serviceId planId : String}
    {service : RegisteredService} {plan : ServicePlan}
    (h : broker.resolve serviceId planId = .ok (service, plan)) : plan.id = planId := by
  unfold resolve at h
  split at h
  next => cases h
  next =>
    split at h
    next => cases h
    next hplan =>
      cases h
      unfold ServiceDefinition.resolvePlan at hplan
      split at hplan
      next found hfound =>
        cases hplan
        simpa using List.find?_some hfound
      next => cases hplan

end Brokerage.Broker
