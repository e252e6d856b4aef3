import Brokerage.Proofs.Course.Deprovision
import Brokerage.Proofs.Course.LastOperation
import Brokerage.Proofs.Course.Provision
import Brokerage.Proofs.Course.Unbind
import Brokerage.Proofs.Course.Update
import Brokerage.Proofs.Serving

/-!
Calls are atomic up to the provider. A call has one thing done by the provider of the service; what
fails before it is done leaves the records alone and is not a partial failure, and what fails after
it is one. A bind is not such a call: its credentials are built when the binding is recorded, and
the provider may fail there.
-/

set_option autoImplicit false

namespace Brokerage

/-! ### Refusals -/

/-- The result is no partial failure. -/
def Whole {α : Type} (result : Except BrokerError α) : Prop :=
  ∀ e, result = .error e → e.isPartialFailure = false

theorem whole_ok {α : Type} (x : α) : Whole (.ok x) :=
  fun _ h ↦ nomatch h

theorem whole_error_iff {α : Type} {e : BrokerError} :
    Whole (.error e : Except BrokerError α) ↔ e.isPartialFailure = false := by
  simp [Whole]

theorem Whole.of_error {α β : Type} {r : Except BrokerError α} (hr : Whole r) {e : BrokerError}
    (h : r = .error e) : Whole (.error e : Except BrokerError β) :=
  whole_error_iff.2 (hr e h)

theorem whole_ensureWellFormed (payload : Option String) :
    Whole (Parameters.ensureWellFormed payload) := by
  unfold Parameters.ensureWellFormed
  split
  · exact whole_ok ()
  · split
    · exact whole_ok ()
    · exact whole_error_iff.2 rfl

theorem whole_parse (payload : Option String) : Whole (Parameters.parse payload) := by
  unfold Parameters.parse
  split
  · exact whole_ok []
  · split
    · exact whole_error_iff.2 rfl
    · exact whole_ok []
    · exact whole_ok _
    · exact whole_error_iff.2 rfl

namespace ServiceDefinition

variable (definition : ServiceDefinition)

theorem whole_resolvePlan (planId : String) : Whole (definition.resolvePlan planId) := by
  unfold resolvePlan
  split
  · exact whole_ok _
  · exact whole_error_iff.2 rfl

theorem whole_acceptBy (schema? : Option Json) (parameters : Members) :
    Whole (definition.acceptBy schema? parameters) := by
  unfold acceptBy
  split
  · exact whole_ok ()
  · split
    · exact whole_error_iff.2 rfl
    · split
      · exact whole_ok ()
      · exact whole_error_iff.2 rfl

theorem whole_acceptedParameters (schema? : Option Json) (payload : Option String) :
    Whole (definition.acceptedParameters schema? payload) := by
  unfold acceptedParameters
  split
  next hparse => exact (whole_parse payload).of_error hparse
  next user _ =>
    split
    next haccept => exact (definition.whole_acceptBy schema? user).of_error haccept
    next => exact whole_ok user

theorem whole_provisionVariables (i : String) (details : ProvisionDetails) (plan : ServicePlan) :
    Whole (definition.provisionVariables i details plan) := by
  unfold provisionVariables
  split
  next hrefused => exact (definition.whole_acceptedParameters _ _).of_error hrefused
  next => exact whole_ok _

theorem whole_updateVariables (record : InstanceRecord) (details : UpdateDetails)
    (plan : ServicePlan) : Whole (definition.updateVariables record details plan) := by
  unfold updateVariables
  split
  next hrefused => exact (definition.whole_acceptedParameters _ _).of_error hrefused
  next => exact whole_ok _

theorem whole_prohibitedChanges (currentPlan : String) (details : UpdateDetails) :
    Whole (definition.prohibitedChanges currentPlan details) := by
  unfold prohibitedChanges
  split
  next hparse => exact (whole_parse details.rawParameters).of_error hparse
  next => exact whole_ok _

end ServiceDefinition

theorem Registry.whole_resolve (registry : Registry) (serviceId : String) :
    Whole (registry.resolve serviceId) := by
  unfold resolve
  split
  · exact whole_ok _
  · exact whole_error_iff.2 rfl

namespace Broker

variable (broker : Broker) (i b : String) (record : InstanceRecord)

theorem whole_resolve (serviceId planId : String) : Whole (broker.resolve serviceId planId) := by
  unfold resolve
  split
  next hservice => exact (broker.registry.whole_resolve serviceId).of_error hservice
  next service _ =>
    split
    next hplan => exact (service.definition.whole_resolvePlan planId).of_error hplan
    next => exact whole_ok _

theorem whole_admitProvision (details : ProvisionDetails) (acceptsIncomplete : Bool) :
    Whole (broker.admitProvision i details acceptsIncomplete) := by
  unfold admitProvision
  split
  next hresolve => exact (broker.whole_resolve _ _).of_error hresolve
  next service plan _ =>
    split
    next => exact whole_error_iff.2 rfl
    next =>
      split
      next hformed => exact (whole_ensureWellFormed _).of_error hformed
      next =>
        split
        next hvars => exact (service.definition.whole_provisionVariables i _ plan).of_error hvars
        next => exact whole_ok _

theorem whole_admitUpdate (details : UpdateDetails) (acceptsIncomplete : Bool) :
    Whole (broker.admitUpdate i record details acceptsIncomplete) := by
  intro e hrefused
  cases admitUpdate_error hrefused with
  | unresolved hresolve => exact broker.whole_resolve _ _ e hresolve
  | synchronous | pending | prohibited => rfl
  | malformed hformed => exact whole_ensureWellFormed _ e hformed
  | uncompared hchanges => exact ServiceDefinition.whole_prohibitedChanges _ _ details e hchanges
  | unvaried _ hvars => exact ServiceDefinition.whole_updateVariables _ record details _ e hvars

theorem whole_admitDeprovision (acceptsIncomplete : Bool) :
    Whole (broker.admitDeprovision i record acceptsIncomplete) := by
  unfold admitDeprovision
  split
  next hresolve => exact (broker.registry.whole_resolve _).of_error hresolve
  next =>
    split
    next => exact whole_error_iff.2 rfl
    next =>
      split
      next => exact whole_error_iff.2 rfl
      next => exact whole_ok _

theorem whole_admitPoll : Whole (broker.admitPoll record) := by
  unfold admitPoll
  split
  next hresolve => exact (broker.registry.whole_resolve _).of_error hresolve
  next =>
    split
    next => exact whole_error_iff.2 rfl
    next => exact whole_ok _

theorem unreadInstance_isPartialFailure (e : Store.Error) :
    (unreadInstance i e).isPartialFailure = false := by
  unfold unreadInstance
  split <;> rfl

theorem unreadBinding_isPartialFailure (e : Store.Error) :
    (unreadBinding i b e).isPartialFailure = false := by
  unfold unreadBinding
  split <;> rfl

/-! ### Calls -/

/-- Nothing was written and no partial failure is reported, or a provider has done this and every
error is reported as a partial failure. -/
def SilentOrActed {α : Type} (action : Provider.Method) (exchanges : Dialogue)
    (result : Except BrokerError α) : Prop :=
  exchanges.any Exchange.writes = false ∧ Whole result ∨
    (∃ x ∈ exchanges, x.did? = some action) ∧
      ∀ e, result = .error e → e.isPartialFailure = true

variable {broker : Broker} {i b : String} {exchanges : Dialogue}

theorem ProvisionCourse.silent_or_acted {details : ProvisionDetails} {acceptsIncomplete : Bool}
    {result : Except BrokerError OperationResponse}
    (h : ProvisionCourse broker i details acceptsIncomplete exchanges result) :
    SilentOrActed .provision exchanges result := by
  cases h with
  | unchecked | taken | declined => exact .inl ⟨rfl, whole_error_iff.2 rfl⟩
  | refused hadmits => exact .inl ⟨rfl, (broker.whole_admitProvision i details _).of_error hadmits⟩
  | unrecorded hadmits outcome e =>
    -- another provision can have been first, and then it is for that one to answer
    cases hconflict : e.isConflict with
    | true => exact .inl ⟨rfl, whole_error_iff.2 rfl⟩
    | false => exact .inr ⟨⟨_, .tail _ (.head _), rfl⟩, by rintro _ ⟨⟩; rfl⟩
  | unlogged => exact .inr ⟨⟨_, .tail _ (.head _), rfl⟩, by rintro _ ⟨⟩; rfl⟩
  | recorded => exact .inr ⟨⟨_, .tail _ (.head _), rfl⟩, by rintro _ ⟨⟩⟩

theorem UpdateCourse.silent_or_acted {details : UpdateDetails} {acceptsIncomplete : Bool}
    {result : Except BrokerError OperationResponse}
    (h : UpdateCourse broker i details acceptsIncomplete exchanges result) :
    SilentOrActed .update exchanges result := by
  cases h with
  | unread => exact .inl ⟨rfl, whole_error_iff.2 (unreadInstance_isPartialFailure i _)⟩
  | refused hadmits => exact .inl ⟨rfl, (broker.whole_admitUpdate i _ details _).of_error hadmits⟩
  | declined => exact .inl ⟨rfl, whole_error_iff.2 rfl⟩
  | unsaved | unlogged => exact .inr ⟨⟨_, .tail _ (.head _), rfl⟩, by rintro _ ⟨⟩; rfl⟩
  | completed => exact .inr ⟨⟨_, .tail _ (.head _), rfl⟩, by rintro _ ⟨⟩⟩

theorem DeprovisionCourse.silent_or_acted {details : DeprovisionDetails} {acceptsIncomplete : Bool}
    {result : Except BrokerError OperationResponse}
    (h : DeprovisionCourse broker i details acceptsIncomplete exchanges result) :
    SilentOrActed .deprovision exchanges result := by
  cases h with
  | unread => exact .inl ⟨rfl, whole_error_iff.2 (unreadInstance_isPartialFailure i _)⟩
  | refused hadmits => exact .inl ⟨rfl, (broker.whole_admitDeprovision i _ _).of_error hadmits⟩
  | declined => exact .inl ⟨rfl, whole_error_iff.2 rfl⟩
  | undeleted | unsaved => exact .inr ⟨⟨_, .tail _ (.head _), rfl⟩, by rintro _ ⟨⟩; rfl⟩
  | deleted | condemned => exact .inr ⟨⟨_, .tail _ (.head _), rfl⟩, by rintro _ ⟨⟩⟩

theorem PollCourse.silent_or_acted {result : Except BrokerError LastOperation}
    (h : PollCourse broker i exchanges result) : SilentOrActed .poll exchanges result := by
  cases h with
  | unread => exact .inl ⟨rfl, whole_error_iff.2 (unreadInstance_isPartialFailure i _)⟩
  | refused hadmits => exact .inl ⟨rfl, (broker.whole_admitPoll _).of_error hadmits⟩
  | idle | unanswered | unfinished => exact .inl ⟨rfl, whole_ok _⟩
  | unremoved | unreread | unrefreshed | unsettled =>
    exact .inr ⟨⟨_, .tail _ (.head _), rfl⟩, by rintro _ ⟨⟩; rfl⟩
  | removed | settled => exact .inr ⟨⟨_, .tail _ (.head _), rfl⟩, by rintro _ ⟨⟩⟩

theorem Clearing.any_writes {name : String} {clearing : Dialogue} {failure : Option Vault.Error}
    (h : Clearing broker name clearing failure) : clearing.any Exchange.writes = false := by
  cases h <;> rfl

theorem UnbindCourse.silent_or_acted {result : Except BrokerError Unit}
    (h : UnbindCourse broker i b exchanges result) : SilentOrActed .unbind exchanges result := by
  cases h with
  | unread => exact .inl ⟨rfl, whole_error_iff.2 (unreadBinding_isPartialFailure i b _)⟩
  | instanceUnread => exact .inl ⟨rfl, whole_error_iff.2 (unreadInstance_isPartialFailure i _)⟩
  | unresolved binding record hresolve =>
    exact .inl ⟨rfl, (broker.registry.whole_resolve _).of_error hresolve⟩
  | uncleared binding record _ hclear => exact .inl ⟨hclear.any_writes, whole_error_iff.2 rfl⟩
  | declined binding record _ hclear e =>
    refine .inl ⟨?_, whole_error_iff.2 rfl⟩
    show (_ ++ _ : Dialogue).any Exchange.writes = false
    rw [List.any_append, hclear.any_writes]
    rfl
  | undeleted =>
    exact .inr ⟨⟨_, .tail _ (.tail _ (List.mem_append_right _ (.head _))), rfl⟩,
      by rintro _ ⟨⟩; rfl⟩
  | unbound =>
    exact .inr ⟨⟨_, .tail _ (.tail _ (List.mem_append_right _ (.head _))), rfl⟩, by rintro _ ⟨⟩⟩

variable {setting : Setting} {w w' : World}

theorem Serves.silent_or_acted {call : Served} (h : broker.Serves setting w call w')
    (hbind : call.request.action ≠ .bind) :
    SilentOrActed call.request.action call.exchanges call.result := by
  obtain ⟨request, exchanges, result⟩ := call
  obtain ⟨hends, -⟩ := h
  cases request with
  | provision => exact (ProvisionCourse.of_ends hends).silent_or_acted
  | update => exact (UpdateCourse.of_ends hends).silent_or_acted
  | deprovision => exact (DeprovisionCourse.of_ends hends).silent_or_acted
  | lastOperation i details => exact (PollCourse.of_ends details hends).silent_or_acted
  | bind => exact absurd rfl hbind
  | unbind i b details => exact (UnbindCourse.of_ends details hends).silent_or_acted

/-- A call other than a bind that ends in an error reports a partial failure, and then the provider
has done what the call is made for, or it leaves the records and the histories as they were. Where
the provider has not done that, no partial failure is reported and nothing is changed. The store,
the vault and the providers may fail in any way. -/
theorem atomic_up_to_provider {call : Served} (h : broker.Serves setting w call w')
    (hbind : call.request.action ≠ .bind) :
    (∀ e, call.result = .error e →
      e.isPartialFailure = true ∧ call.Acted ∨ w'.store = w.store) ∧
    (¬ call.Acted → call.isPartialFailure = false ∧ w'.store = w.store) := by
  rcases h.silent_or_acted hbind with ⟨hsilent, hwhole⟩ | ⟨hacted, hpartial⟩
  · have hsame : w'.store = w.store := Setting.store_eq_of_steps h.2 hsilent
    refine ⟨fun _ _ ↦ .inr hsame, fun _ ↦ ⟨?_, hsame⟩⟩
    cases hresult : call.result with
    | ok x => rw [Served.isPartialFailure, hresult]
    | error e =>
      rw [Served.isPartialFailure, hresult]
      exact hwhole e hresult
  · exact ⟨fun e he ↦ .inl ⟨hpartial e he, hacted⟩, fun hnot ↦ absurd hacted hnot⟩

/-- A provision of the database service beside a store that does not record its request. -/
def unloggedProvision : List Served × World :=
  (databaseBroker false).faultyHistory "now" databaseProvider
    [(.provision "i-1" { serviceId := "db", planId := "small" } true, [.createRequest])] {}

theorem atomic_of_unloggedProvision :
    ∃ call e, unloggedProvision.1 = [call] ∧ call.result = .error e ∧
      (databaseBroker false).Serves (.faulty databaseProvider) {} call unloggedProvision.2 ∧
      call.request.action ≠ .bind ∧ unloggedProvision.2.store ≠ Store.empty ∧
      e.isPartialFailure = true ∧ call.Acted := by
  have hrun : Steps ((databaseBroker false).Serves (.faulty databaseProvider)) {}
      unloggedProvision.1 unloggedProvision.2 := steps_faultyHistory "now" databaseProvider _ _ _
  obtain ⟨call, e, hcall, hresult, hbind⟩ : ∃ call e, unloggedProvision.1 = [call] ∧
      call.result = .error e ∧ call.request.action ≠ .bind := ⟨_, _, rfl, rfl, nofun⟩
  have hchanged : unloggedProvision.2.store ≠ Store.empty := by decide +kernel
  rw [hcall, Steps.cons_iff] at hrun
  obtain ⟨v, hserves, hend⟩ := hrun
  obtain rfl := Steps.nil_iff.1 hend
  have hpartial := ((atomic_up_to_provider hserves hbind).1 e hresult).resolve_right hchanged
  exact ⟨call, e, hcall, hresult, hserves, hbind, hchanged, hpartial⟩

end Broker

end Brokerage
