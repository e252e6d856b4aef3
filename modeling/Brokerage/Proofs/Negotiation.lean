import Brokerage.Proofs.Account
import Brokerage.Proofs.Course.Bind
import Brokerage.Proofs.Course.Deprovision
import Brokerage.Proofs.Course.LastOperation
import Brokerage.Proofs.Course.Provision
import Brokerage.Proofs.Course.Unbind
import Brokerage.Proofs.Course.Update
import Brokerage.Proofs.Serving

/-!
Operations that go on in the background. A provider may leave an operation pending only where the
registry says so, and a caller that does not accept one is refused there; so what is recorded as
pending was accepted by its caller, and lies with a service that can be polled. None of this needs
a record store that fails cleanly: one that reports a failure may have done what it was asked to.
-/

set_option autoImplicit false

namespace Brokerage

theorem Provider.Outcome.pending_of_operation? {α : Type} {outcome : Provider.Outcome α}
    {kind : OperationKind} (h : (outcome.operation? kind).isSome = true) :
    ∃ token value, outcome = .pending token value := by
  cases outcome with
  | completed value => cases h
  | pending token value => exact ⟨token, value, rfl⟩

theorem Provider.Outcome.pending_of_response {α : Type} {outcome : Provider.Outcome α}
    (h : outcome.response.isAsync = true) : ∃ token value, outcome = .pending token value := by
  cases outcome with
  | completed value => cases h
  | pending token value => exact ⟨token, value, rfl⟩

/-- A program ends if it is told the given reply to each question. -/
theorem Program.exists_ends_replying {κ : Type} {Reply : κ → Type} {ε α : Type}
    (reply : ∀ question, Reply question) (p : Program Reply ε α) :
    ∃ exchanges result, p.Ends exchanges result ∧ ∀ x ∈ exchanges, x.reply = reply x.question := by
  induction p with
  | done result => exact ⟨[], result, .here _, by simp⟩
  | ask question next ih =>
    obtain ⟨exchanges, result, hends, hreplies⟩ := ih (reply question)
    exact ⟨⟨question, reply question⟩ :: exchanges, result, .ask hends,
      List.forall_mem_cons.2 ⟨rfl, hreplies⟩⟩

/-- The reply of a collaborator that is out of reach. -/
def Action.unavailable : (action : Action) → action.Reply
  | .store _ => .error (.backend "")
  | .vault _ => .error (.request "")
  | .provider _ => .error (.failed "")

/-! ### What is recorded of instances -/

/-- The record that the store is asked to create or save, whatever it answers. -/
def Exchange.recorded? : Exchange Action.Reply → Option InstanceRecord
  | ⟨.store q, _⟩ => q.recorded?
  | _ => none

@[simp] theorem Exchange.recorded?_store (q : Store.Request) (reply : q.Reply) :
    (Exchange.store q reply).recorded? = q.recorded? := rfl

@[simp] theorem Exchange.recorded?_vault (q : Vault.Request) (reply : q.Reply) :
    (Exchange.vault q reply).recorded? = none := rfl

@[simp] theorem Exchange.recorded?_provider (q : Provider.Request) (reply : q.Reply) :
    (Exchange.provider q reply).recorded? = none := rfl

/-- A record was there before, or is the one that was to be written. -/
theorem Store.Answers.recorded_or_kept {fails : Store.Error → Prop} {s t : Store}
    {q : Store.Request} {reply : q.Reply} {i : String} {record : InstanceRecord}
    (h : s.Answers fails q reply t) (hfound : t.instances.get? i = some record) :
    s.instances.get? i = some record ∨
      ∃ asked, q.recorded? = some asked ∧ record.unstamped = asked.unstamped := by
  by_cases hsubject : q.subject? = some (.instance i)
  case neg => exact .inl ((h.sameRecord hsubject).of_instance.symm.trans hfound)
  cases reply with
  | error e =>
    rw [h.of_error] at hfound
    exact .inl hfound
  | ok answer =>
    cases q with
    | createInstance asked =>
      cases hsubject
      obtain ⟨now, hcreated⟩ := h.instance_of_createInstance
      cases hcreated.symm.trans hfound
      exact .inr ⟨asked, rfl, rfl⟩
    | saveInstance asked =>
      cases hsubject
      obtain ⟨created, now, hsaved⟩ := h.instance_of_saveInstance
      cases hsaved.symm.trans hfound
      exact .inr ⟨asked, rfl, rfl⟩
    | deleteInstance j =>
      cases hsubject
      cases h.instance_of_deleteInstance.symm.trans hfound
    | _ => cases hsubject

namespace Setting

variable {setting : Setting} {w w' : World}

theorem Tolerates.recorded_or_kept {x : Exchange Action.Reply} {i : String}
    {record : InstanceRecord} (h : setting.Tolerates w x w')
    (hfound : w'.store.instances.get? i = some record) :
    w.store.instances.get? i = some record ∨
      ∃ asked, x.recorded? = some asked ∧ record.unstamped = asked.unstamped := by
  cases h with
  | @unacknowledged q e now hfails =>
    have hdone : w.store.Answers setting.storeFails q _ _ := .inl ⟨now, rfl⟩
    exact hdone.recorded_or_kept hfound
  | allowed h =>
    cases h with
    | store h => exact h.recorded_or_kept hfound
    | vault h => exact .inl hfound
    | provider h => exact .inl hfound

theorem recorded_or_kept_of_steps {exchanges : Dialogue} {i : String} {record : InstanceRecord}
    (h : Steps setting.Tolerates w exchanges w')
    (hfound : w'.store.instances.get? i = some record) :
    w.store.instances.get? i = some record ∨
      ∃ x ∈ exchanges, ∃ asked, x.recorded? = some asked ∧
        record.unstamped = asked.unstamped := by
  refine h.preserves (P := fun v ↦ ∀ record, v.store.instances.get? i = some record →
    w.store.instances.get? i = some record ∨ ∃ x ∈ exchanges, ∃ asked,
      x.recorded? = some asked ∧ record.unstamped = asked.unstamped) ?_
    (fun _ hkept ↦ .inl hkept) record hfound
  intro v x v' hx hv hstep record hfound
  rcases hstep.recorded_or_kept hfound with hkept | ⟨asked, hasked, hsame⟩
  · exact hv record hkept
  · exact .inr ⟨x, hx, asked, hasked, hsame⟩

end Setting

/-! ### Flags -/

/-- A provider that leaves an operation pending does so only where the registry says that it may. -/
def Exchange.Honours (registry : Registry) : Exchange Action.Reply → Prop
  | ⟨.provider (.provision serviceId _), .ok (.pending _ _)⟩
  | ⟨.provider (.update serviceId _), .ok (.pending _ _)⟩ =>
    ∀ service, registry.resolve serviceId = .ok service → service.provisionsAsync = true
  | ⟨.provider (.deprovision serviceId _ _), .ok (.pending _ _)⟩ =>
    ∀ service, registry.resolve serviceId = .ok service → service.deprovisionsAsync = true
  | _ => True

/-- The providers of a setting leave operations pending only where a registry says they may. -/
def Setting.HonoursFlags (setting : Setting) (registry : Registry) : Prop :=
  ∀ q reply, setting.provider q reply → (Exchange.provider q reply).Honours registry

theorem Setting.Tolerates.honours {setting : Setting} {registry : Registry} {w w' : World}
    {x : Exchange Action.Reply} (hhonours : setting.HonoursFlags registry)
    (h : setting.Tolerates w x w') : x.Honours registry := by
  obtain ⟨question, reply⟩ := x
  cases question with
  | store q => trivial
  | vault q => trivial
  | provider q => exact hhonours q reply h.provider_replies.1

namespace Broker

/-- The service of an instance is one whose provider can be polled. -/
def CanBePolled (broker : Broker) (record : InstanceRecord) : Prop :=
  ∃ service, broker.registry.resolve record.serviceId = .ok service ∧ service.isAsync = true

/-- What a call asks to be recorded as pending was accepted by its caller, and can be polled. -/
def RecordsAccepted (broker : Broker) (accepted : Bool) (exchanges : Dialogue) : Prop :=
  ∀ x ∈ exchanges, ∀ record, x.recorded? = some record → record.operation.isSome = true →
    accepted = true ∧ broker.CanBePolled record

/-- What a caller is told to go on in the background, it has accepted. -/
def AnswersAccepted (accepted : Bool) (result : Except BrokerError OperationResponse) : Prop :=
  ∀ response, result = .ok response → response.isAsync = true → accepted = true

variable {broker : Broker} {exchanges : Dialogue}

theorem recordsAccepted_of_none {accepted : Bool} (h : ∀ x ∈ exchanges, x.recorded? = none) :
    RecordsAccepted broker accepted exchanges := by
  intro x hx record hrecord
  cases (h x hx).symm.trans hrecord

theorem recordsAccepted_of_only {accepted : Bool} (record : InstanceRecord)
    (honly : ∀ x ∈ exchanges, x.recorded? = none ∨ x.recorded? = some record)
    (h : record.operation.isSome = true → accepted = true ∧ broker.CanBePolled record) :
    RecordsAccepted broker accepted exchanges := by
  intro x hx asked hasked hpending
  rcases honly x hx with hnone | hsome
  · cases hnone.symm.trans hasked
  · cases hsome.symm.trans hasked
    exact h hpending

/-- A record that has an operation just if the provider left one pending. -/
theorem recordsAccepted_of_outcome {α : Type} {accepted : Bool} {record : InstanceRecord}
    {outcome : Provider.Outcome α} {kind : OperationKind}
    (hoperation : record.operation = outcome.operation? kind)
    (honly : ∀ x ∈ exchanges, x.recorded? = none ∨ x.recorded? = some record)
    (h : (∃ token value, outcome = .pending token value) →
      accepted = true ∧ broker.CanBePolled record) :
    RecordsAccepted broker accepted exchanges := by
  refine recordsAccepted_of_only record honly fun hpending ↦ h ?_
  rw [hoperation] at hpending
  exact Provider.Outcome.pending_of_operation? hpending

section Instances

variable {i : String} {acceptsIncomplete : Bool}

theorem accepts_of_admitProvision {details : ProvisionDetails} {service : RegisteredService}
    {plan : ServicePlan} {vars : Variables}
    (h : broker.admitProvision i details acceptsIncomplete = .ok (service, plan, vars))
    (hasync : service.provisionsAsync = true) : acceptsIncomplete = true := by
  have hresolve := (admitProvision_ok h).1
  cases acceptsIncomplete with
  | true => rfl
  | false => simp [admitProvision, hresolve, hasync] at h

theorem accepts_of_admitUpdate {record : InstanceRecord} {details : UpdateDetails}
    {service : RegisteredService} {plan : ServicePlan} {vars : Variables}
    (h : broker.admitUpdate i record details acceptsIncomplete = .ok (service, plan, vars))
    (hasync : service.provisionsAsync = true) : acceptsIncomplete = true := by
  have hresolve := (admitUpdate_ok h).1
  cases acceptsIncomplete with
  | true => rfl
  | false => simp [admitUpdate, hresolve, hasync] at h

theorem accepts_of_admitDeprovision {record : InstanceRecord} {service : RegisteredService}
    (h : broker.admitDeprovision i record acceptsIncomplete = .ok service)
    (hasync : service.deprovisionsAsync = true) : acceptsIncomplete = true := by
  have hresolve := (admitDeprovision_ok h).1
  cases acceptsIncomplete with
  | true => rfl
  | false => simp [admitDeprovision, hresolve, hasync] at h

/-- A provision that the provider leaves pending was accepted by the caller. -/
theorem negotiated_of_provision {details : ProvisionDetails} {service : RegisteredService}
    {plan : ServicePlan} {vars : Variables} (outcome : Provider.Outcome Json)
    (hadmits : broker.admitProvision i details acceptsIncomplete = .ok (service, plan, vars))
    (hhonours : ∀ x ∈ exchanges, x.Honours broker.registry)
    (hasked : .provider (.provision service.definition.id vars) (.ok outcome) ∈ exchanges)
    (hpending : ∃ token value, outcome = .pending token value) :
    acceptsIncomplete = true ∧
      broker.CanBePolled (provisionedRecord i details service plan outcome) := by
  obtain ⟨token, value, rfl⟩ := hpending
  have hresolve := resolve_own_id (registry_resolve_of_resolve (admitProvision_ok hadmits).1)
  have hasync : service.provisionsAsync = true := hhonours _ hasked service hresolve
  exact ⟨accepts_of_admitProvision hadmits hasync, service, hresolve,
    by simp [RegisteredService.isAsync, hasync]⟩

theorem negotiated_of_update {record : InstanceRecord} {details : UpdateDetails}
    {service : RegisteredService} {plan : ServicePlan} {vars : Variables}
    (outcome : Provider.Outcome Unit)
    (hadmits : broker.admitUpdate i record details acceptsIncomplete = .ok (service, plan, vars))
    (hhonours : ∀ x ∈ exchanges, x.Honours broker.registry)
    (hasked : .provider (.update service.definition.id vars) (.ok outcome) ∈ exchanges)
    (hpending : ∃ token value, outcome = .pending token value) :
    acceptsIncomplete = true ∧ broker.CanBePolled (updatedRecord record plan outcome) := by
  obtain ⟨token, value, rfl⟩ := hpending
  have hresolve := registry_resolve_of_resolve (admitUpdate_ok hadmits).1
  have hasync : service.provisionsAsync = true :=
    hhonours _ hasked service (resolve_own_id hresolve)
  exact ⟨accepts_of_admitUpdate hadmits hasync, service, hresolve,
    by simp [RegisteredService.isAsync, hasync]⟩

theorem negotiated_of_deprovision {record : InstanceRecord} (details : DeprovisionDetails)
    {service : RegisteredService} (token : String)
    (hadmits : broker.admitDeprovision i record acceptsIncomplete = .ok service)
    (hhonours : ∀ x ∈ exchanges, x.Honours broker.registry)
    (hasked : .provider (.deprovision service.definition.id record details)
      (.ok (.pending token ())) ∈ exchanges) :
    acceptsIncomplete = true ∧ broker.CanBePolled (condemnedRecord record token) := by
  have hresolve := (admitDeprovision_ok hadmits).1
  have hasync : service.deprovisionsAsync = true :=
    hhonours _ hasked service (resolve_own_id hresolve)
  exact ⟨accepts_of_admitDeprovision hadmits hasync, service, hresolve,
    by simp [RegisteredService.isAsync, hasync]⟩

end Instances

/-! ### Calls -/

attribute [local simp] Store.Request.recorded?

section Instances

variable {i : String} {acceptsIncomplete : Bool} {result : Except BrokerError OperationResponse}

theorem answersAccepted_of_error (e : BrokerError) :
    AnswersAccepted acceptsIncomplete (.error e) :=
  fun _ h ↦ nomatch h

theorem answersAccepted_of_outcome {α : Type} {outcome : Provider.Outcome α}
    (h : (∃ token value, outcome = .pending token value) → acceptsIncomplete = true) :
    AnswersAccepted acceptsIncomplete (.ok outcome.response) := by
  rintro _ ⟨⟩ hasync
  exact h (Provider.Outcome.pending_of_response hasync)

theorem ProvisionCourse.accepted {details : ProvisionDetails}
    (h : ProvisionCourse broker i details acceptsIncomplete exchanges result)
    (hhonours : ∀ x ∈ exchanges, x.Honours broker.registry) :
    RecordsAccepted broker acceptsIncomplete exchanges ∧
      AnswersAccepted acceptsIncomplete result := by
  cases h with
  | unchecked | taken | refused | declined =>
    exact ⟨recordsAccepted_of_none (Exchange.eq_none_of_all rfl), answersAccepted_of_error _⟩
  | @unrecorded service plan vars hadmits outcome e
  | @unlogged service plan vars hadmits outcome e =>
    have hnegotiated := negotiated_of_provision outcome hadmits hhonours (by simp)
    exact ⟨recordsAccepted_of_outcome rfl (by simp) hnegotiated, answersAccepted_of_error _⟩
  | @recorded service plan vars hadmits outcome =>
    have hnegotiated := negotiated_of_provision outcome hadmits hhonours (by simp)
    exact ⟨recordsAccepted_of_outcome rfl (by simp) hnegotiated,
      answersAccepted_of_outcome fun hpending ↦ (hnegotiated hpending).1⟩

theorem UpdateCourse.accepted {details : UpdateDetails}
    (h : UpdateCourse broker i details acceptsIncomplete exchanges result)
    (hhonours : ∀ x ∈ exchanges, x.Honours broker.registry) :
    RecordsAccepted broker acceptsIncomplete exchanges ∧
      AnswersAccepted acceptsIncomplete result := by
  cases h with
  | unread | refused | declined =>
    exact ⟨recordsAccepted_of_none (Exchange.eq_none_of_all rfl), answersAccepted_of_error _⟩
  | @unsaved record service plan vars hadmits outcome e
  | @unlogged record service plan vars hadmits outcome e =>
    have hnegotiated := negotiated_of_update outcome hadmits hhonours (by simp)
    exact ⟨recordsAccepted_of_outcome rfl (by simp) hnegotiated, answersAccepted_of_error _⟩
  | @completed record service plan vars hadmits outcome =>
    have hnegotiated := negotiated_of_update outcome hadmits hhonours (by simp)
    exact ⟨recordsAccepted_of_outcome rfl (by simp) hnegotiated,
      answersAccepted_of_outcome fun hpending ↦ (hnegotiated hpending).1⟩

theorem DeprovisionCourse.accepted {details : DeprovisionDetails}
    (h : DeprovisionCourse broker i details acceptsIncomplete exchanges result)
    (hhonours : ∀ x ∈ exchanges, x.Honours broker.registry) :
    RecordsAccepted broker acceptsIncomplete exchanges ∧
      AnswersAccepted acceptsIncomplete result := by
  cases h with
  | unread | refused | declined | undeleted =>
    exact ⟨recordsAccepted_of_none (Exchange.eq_none_of_all rfl), answersAccepted_of_error _⟩
  | deleted =>
    refine ⟨recordsAccepted_of_none (Exchange.eq_none_of_all rfl), ?_⟩
    rintro _ ⟨⟩ ⟨⟩
  | @unsaved record service hadmits token e =>
    have hnegotiated := negotiated_of_deprovision details token hadmits hhonours (by simp)
    exact ⟨recordsAccepted_of_only _ (by simp) fun _ ↦ hnegotiated, answersAccepted_of_error _⟩
  | @condemned record service hadmits token =>
    have hnegotiated := negotiated_of_deprovision details token hadmits hhonours (by simp)
    exact ⟨recordsAccepted_of_only _ (by simp) fun _ ↦ hnegotiated, fun _ _ _ ↦ hnegotiated.1⟩

theorem PollCourse.recordsAccepted {result : Except BrokerError LastOperation}
    (h : PollCourse broker i exchanges result) : RecordsAccepted broker false exchanges := by
  cases h with
  | unsettled hadmits hpending hcompletion reread refreshed e
  | settled hadmits hpending hcompletion reread refreshed =>
    exact recordsAccepted_of_only (settledRecord refreshed) (by simp)
      fun hpending ↦ nomatch hpending
  | _ => exact recordsAccepted_of_none (Exchange.eq_none_of_all rfl)

end Instances

theorem BindCourse.recordsAccepted {i b : String} {details : BindDetails}
    {result : Except BrokerError Binding} (h : BindCourse broker i b details exchanges result) :
    RecordsAccepted broker false exchanges := by
  cases h <;> exact recordsAccepted_of_none (Exchange.eq_none_of_all rfl)

theorem Clearing.recorded?_eq_none {name : String} {clearing : Dialogue}
    {failure : Option Vault.Error} (h : Clearing broker name clearing failure) :
    ∀ x ∈ clearing, x.recorded? = none := by
  cases h <;> exact Exchange.eq_none_of_all rfl

theorem UnbindCourse.recordsAccepted {i b : String} {result : Except BrokerError Unit}
    (h : UnbindCourse broker i b exchanges result) : RecordsAccepted broker false exchanges := by
  refine recordsAccepted_of_none ?_
  cases h with
  | unread | instanceUnread | unresolved => exact Exchange.eq_none_of_all rfl
  | uncleared binding record hresolve hclear | declined binding record hresolve hclear
  | undeleted binding record hresolve hclear | unbound binding record hresolve hclear =>
    simpa [or_imp, forall_and] using hclear.recorded?_eq_none

/-- Whether the caller accepts an operation that goes on in the background. -/
def Request.acceptsIncomplete : Request → Bool
  | .provision _ _ acceptsIncomplete | .update _ _ acceptsIncomplete
  | .deprovision _ _ acceptsIncomplete => acceptsIncomplete
  | .lastOperation _ _ | .bind _ _ _ | .unbind _ _ _ => false

/-- The caller is told that an operation goes on in the background. -/
def Request.toldPending : (request : Request) → Except BrokerError request.Answer → Bool
  | .provision _ _ _, .ok response | .update _ _ _, .ok response
  | .deprovision _ _ _, .ok response => OperationResponse.isAsync response
  | _, _ => false

theorem recordsAccepted_of_ends {request : Request} {result : Except BrokerError request.Answer}
    (h : (broker.serve request).Ends exchanges result)
    (hhonours : ∀ x ∈ exchanges, x.Honours broker.registry) :
    RecordsAccepted broker request.acceptsIncomplete exchanges := by
  cases request with
  | provision i details acceptsIncomplete =>
    exact ((ProvisionCourse.of_ends h).accepted hhonours).1
  | update i details acceptsIncomplete => exact ((UpdateCourse.of_ends h).accepted hhonours).1
  | deprovision i details acceptsIncomplete =>
    exact ((DeprovisionCourse.of_ends h).accepted hhonours).1
  | lastOperation i details => exact (PollCourse.of_ends details h).recordsAccepted
  | bind i b details => exact (BindCourse.of_ends h).recordsAccepted
  | unbind i b details => exact (UnbindCourse.of_ends details h).recordsAccepted

theorem toldPending_of_ends {request : Request} {result : Except BrokerError request.Answer}
    (h : (broker.serve request).Ends exchanges result)
    (hhonours : ∀ x ∈ exchanges, x.Honours broker.registry)
    (htold : request.toldPending result = true) : request.acceptsIncomplete = true := by
  cases result with
  | error e => cases request <;> cases htold
  | ok answer =>
    cases request with
    | provision i details acceptsIncomplete =>
      exact ((ProvisionCourse.of_ends h).accepted hhonours).2 answer rfl htold
    | update i details acceptsIncomplete =>
      exact ((UpdateCourse.of_ends h).accepted hhonours).2 answer rfl htold
    | deprovision i details acceptsIncomplete =>
      exact ((DeprovisionCourse.of_ends h).accepted hhonours).2 answer rfl htold
    | lastOperation | bind | unbind => cases htold

/-! ### Runs -/

section Run

variable {setting : Setting} {w w' : World} {q : Request}

/-- A request is served in a world, whatever came of what its store failed to do. -/
def Endures (broker : Broker) (setting : Setting) (w : World) (call : Served) (w' : World) :
    Prop :=
  (broker.serve call.request).Ends call.exchanges call.result ∧
    Steps setting.Tolerates w call.exchanges w'

/-- The service of every instance with a pending operation can be polled. -/
def PendingCanBePolled (broker : Broker) (w : World) : Prop :=
  ∀ i record, w.store.instances.get? i = some record → record.operation.isSome = true →
    broker.CanBePolled record

/-- At any moment of a call a pending operation was there before, or was accepted by the caller
and can be polled. -/
theorem kept_or_accepted_of_reaches (hhonours : setting.HonoursFlags broker.registry)
    {asked : Dialogue} {rest : Call q.Answer} (hreaches : (broker.serve q).Reaches asked rest)
    (hsteps : Steps setting.Tolerates w asked w') {i : String} {record : InstanceRecord}
    (hfound : w'.store.instances.get? i = some record) (hpending : record.operation.isSome = true) :
    w.store.instances.get? i = some record ∨
      q.acceptsIncomplete = true ∧ broker.CanBePolled record := by
  rcases Setting.recorded_or_kept_of_steps hsteps hfound with hkept | ⟨x, hx, written, hx', hsame⟩
  · exact .inl hkept
  right
  -- the call is followed to an end before which every provider fails, and so honours its flags
  obtain ⟨later, result, hrest, hlater⟩ := rest.exists_ends_replying Action.unavailable
  have hhonoured : ∀ y ∈ asked ++ later, y.Honours broker.registry := by
    intro y hy
    rcases List.mem_append.1 hy with hasked | hafter
    · obtain ⟨-, v, v', -, hy⟩ := hsteps.exists_of_mem hasked
      exact hy.honours hhonours
    · obtain ⟨question, reply⟩ := y
      obtain rfl : reply = question.unavailable := hlater _ hafter
      cases question with
      | store | vault => trivial
      | provider q => cases q <;> trivial
  have haccepted := recordsAccepted_of_ends (hreaches.trans hrest) hhonoured x
    (List.mem_append_left _ hx) written hx'
  have hoperation : record.operation = written.operation := by
    show record.unstamped.operation = written.unstamped.operation
    rw [hsame]
  have hservice : record.serviceId = written.serviceId := by
    show record.unstamped.serviceId = written.unstamped.serviceId
    rw [hsame]
  rw [hoperation] at hpending
  obtain ⟨haccepts, service, hresolve, hasync⟩ := haccepted hpending
  exact ⟨haccepts, service, by rw [hservice, hresolve], hasync⟩

theorem PendingCanBePolled.of_reaches (h : PendingCanBePolled broker w)
    (hhonours : setting.HonoursFlags broker.registry) {asked : Dialogue} {rest : Call q.Answer}
    (hreaches : (broker.serve q).Reaches asked rest)
    (hsteps : Steps setting.Tolerates w asked w') : PendingCanBePolled broker w' := by
  intro i record hfound hpending
  rcases kept_or_accepted_of_reaches hhonours hreaches hsteps hfound hpending with
    hkept | ⟨-, hpolled⟩
  · exact h i record hkept hpending
  · exact hpolled

theorem pendingCanBePolled_of_history (hhonours : setting.HonoursFlags broker.registry)
    {calls : List Served} (hrun : Steps (broker.Endures setting) {} calls w) :
    PendingCanBePolled broker w :=
  hrun.preserves (P := PendingCanBePolled broker)
    (fun _ _ _ _ hv hserves ↦ hv.of_reaches hhonours hserves.1 hserves.2)
    (fun _ _ hfound ↦ nomatch hfound)

/-- A poll of an instance whose service can be polled is not refused. -/
theorem not_asyncRequired_of_canBePolled {i : String} {record : InstanceRecord}
    (hfound : w.store.instances.get? i = some record) (hpolled : broker.CanBePolled record)
    {details : PollDetails} {result : Except BrokerError LastOperation}
    (hends : (broker.lastOperation i details).Ends exchanges result)
    (hsteps : Steps setting.Tolerates w exchanges w') : result ≠ .error .asyncRequired := by
  rintro rfl
  obtain ⟨service, hresolve, hasync⟩ := hpolled
  generalize hresult : (Except.error .asyncRequired : Except BrokerError LastOperation) = result
    at hends
  cases PollCourse.of_ends details hends with
  | unread e =>
    unfold unreadInstance at hresult
    split at hresult <;> cases hresult
  | @refused read e hadmits =>
    cases hresult
    obtain ⟨v, hread, -⟩ := Steps.cons_iff.1 hsteps
    cases hread.answers_of_ok.getInstance_ok.symm.trans hfound
    simp [admitPoll, hresolve, hasync] at hadmits
  | _ => cases hresult

/-- Where providers leave operations pending only as the registry says they may, every operation
recorded as pending at any moment of any history lies with a service that can be polled, and a poll
of it is not refused. A call whose caller does not accept an operation in the background is not
told of one, and leaves none that was not there before. -/
theorem pending_only_as_negotiated (hhonours : setting.HonoursFlags broker.registry)
    {calls : List Served} (hrun : Steps (broker.Endures setting) {} calls w) {asked : Dialogue}
    {rest : Call q.Answer} (hreaches : (broker.serve q).Reaches asked rest)
    (hsteps : Steps setting.Tolerates w asked w') :
    (∀ i record, w'.store.instances.get? i = some record → record.operation.isSome = true →
      (∃ service, broker.registry.resolve record.serviceId = .ok service ∧
        service.isAsync = true) ∧
      ∀ details exchanges result v, (broker.lastOperation i details).Ends exchanges result →
        Steps setting.Tolerates w' exchanges v → result ≠ .error .asyncRequired) ∧
    (q.acceptsIncomplete = false →
      (∀ result, rest = .done result → q.toldPending result = false) ∧
      ∀ i record, w'.store.instances.get? i = some record → record.operation.isSome = true →
        w.store.instances.get? i = some record) := by
  have hbefore := pendingCanBePolled_of_history hhonours hrun
  refine ⟨fun i record hfound hpending ↦ ?_, fun hrefuses ↦ ⟨?_, fun i record hfound hpending ↦ ?_⟩⟩
  · have hpolled := hbefore.of_reaches hhonours hreaches hsteps i record hfound hpending
    exact ⟨hpolled, fun details exchanges result v ↦
      not_asyncRequired_of_canBePolled hfound hpolled⟩
  · rintro result rfl
    have hhonoured : ∀ x ∈ asked, x.Honours broker.registry := by
      intro x hx
      obtain ⟨-, v, v', -, hstep⟩ := hsteps.exists_of_mem hx
      exact hstep.honours hhonours
    refine Bool.eq_false_iff.2 fun htold ↦ ?_
    exact absurd (toldPending_of_ends hreaches hhonoured htold) (by simp [hrefuses])
  · rcases kept_or_accepted_of_reaches hhonours hreaches hsteps hfound hpending with
      hkept | ⟨haccepts, -⟩
    · exact hkept
    · exact absurd haccepts (by simp [hrefuses])

end Run

/-! ### A broker of one service -/

theorem database_honoursFlags :
    (Setting.faulty databaseProvider).HonoursFlags (databaseBroker false).registry := by
  rintro q reply rfl
  have hasync : ∀ id service, (databaseBroker false).registry.resolve id = .ok service →
      service = databaseService :=
    fun id service hresolve ↦ List.mem_singleton.1 (Registry.resolve_ok hresolve).1
  cases q with
  | provision id vars =>
    intro service hresolve
    rw [hasync id service hresolve]
    rfl
  | deprovision id record details =>
    intro service hresolve
    rw [hasync id service hresolve]
    rfl
  | _ => trivial

/-- An instance whose provision is pending although the request for it could not be recorded. -/
def unloggedDatabase : List Served × World :=
  (databaseBroker false).faultyHistory "now" databaseProvider
    [(.provision "i-1" { serviceId := "db", planId := "small" } true, [.createRequest])] {}

/-- A deprovision of it by a caller that does not accept an operation in the background is refused
and leaves it as it was: with a pending operation that can be polled. -/
theorem pending_only_as_negotiated_of_unloggedDatabase :
    let q : Request := .deprovision "i-1" { serviceId := "db", planId := "small" } false
    let respond := World.respondFailing [] "later" databaseProvider
    let w := unloggedDatabase.2
    let served := ((databaseBroker false).serve q).run respond w
    q.acceptsIncomplete = false ∧ q.toldPending served.1 = false ∧
      ∃ record, served.2.store.instances.get? "i-1" = some record ∧
        record.operation.isSome = true ∧ w.store.instances.get? "i-1" = some record ∧
        ∃ service, (databaseBroker false).registry.resolve record.serviceId = .ok service ∧
          service.isAsync = true := by
  intro q respond w served
  have hrun : Steps ((databaseBroker false).Endures (.faulty databaseProvider)) {}
      unloggedDatabase.1 w :=
    (steps_faultyHistory "now" databaseProvider (databaseBroker false) _ {}).mono
      fun _ _ _ h ↦ ⟨h.1, h.2.mono fun _ _ _ ↦ .allowed⟩
  have hsteps : Steps (Setting.faulty databaseProvider).Tolerates w
      (((databaseBroker false).serve q).trace respond w) served.2 :=
    (Program.steps_trace respond _ w).mono
      fun _ _ _ h ↦ .allowed (allows_of_respondFailing "later" databaseProvider h)
  obtain ⟨hpolled, hrefuses⟩ := pending_only_as_negotiated database_honoursFlags hrun
    (Program.ends_trace respond _ w) hsteps
  obtain ⟨htold, hkept⟩ := hrefuses rfl
  exact ⟨rfl, htold _ rfl, _, rfl, rfl, hkept "i-1" _ rfl rfl, (hpolled "i-1" _ rfl rfl).1⟩

end Broker

end Brokerage
