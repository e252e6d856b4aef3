import Brokerage.Proofs.Agreement
import Brokerage.Proofs.Course.Bind
import Brokerage.Proofs.Course.Deprovision
import Brokerage.Proofs.Course.LastOperation
import Brokerage.Proofs.Course.Provision
import Brokerage.Proofs.Course.Unbind
import Brokerage.Proofs.Course.Update
import Brokerage.Proofs.Serving
import Brokerage.Proofs.Variables

/-!
Serving a request changes nothing that the request is not made for, neither in the records nor in
where the providers stand. The ids a call passes on are those it was called with, since records lie
under their own ids and a provider that refreshes a record does not give it another one.
-/

set_option autoImplicit false

namespace Brokerage

/-- A provider that refreshes a record keeps its id. -/
def Setting.RefreshKeepsId (setting : Setting) : Prop :=
  ∀ serviceId record refreshed,
    setting.provider (.refresh serviceId record) (.ok refreshed) → refreshed.id = record.id

theorem Setting.provider_of_mem {setting : Setting} {w w' : World} {exchanges : Dialogue}
    {q : Provider.Request} {reply : q.Reply} (h : Steps setting.Allows w exchanges w')
    (hx : .provider q reply ∈ exchanges) : setting.provider q reply := by
  obtain ⟨before, v, v', -, hstep⟩ := h.exists_of_mem hx
  exact (Setting.allows_provider_iff.1 hstep).1

/-- Every exchange is about nothing or about this subject. -/
def OnlyAffects (exchanges : Dialogue) (subject : Subject) : Prop :=
  ∀ x ∈ exchanges, x.affected? = none ∨ x.affected? = some subject

theorem OnlyAffects.of_silent {exchanges : Dialogue} {subject : Subject}
    (h : ∀ x ∈ exchanges, x.affected? = none) : OnlyAffects exchanges subject :=
  fun x hx ↦ .inl (h x hx)

@[simp] theorem onlyAffects_nil (subject : Subject) : OnlyAffects [] subject :=
  fun _ h ↦ absurd h List.not_mem_nil

@[simp] theorem onlyAffects_cons {x : Exchange Action.Reply} {exchanges : Dialogue}
    {subject : Subject} :
    OnlyAffects (x :: exchanges) subject ↔
      (x.affected? = none ∨ x.affected? = some subject) ∧ OnlyAffects exchanges subject :=
  List.forall_mem_cons

theorem onlyAffects_append {first second : Dialogue} {subject : Subject} :
    OnlyAffects (first ++ second) subject ↔
      OnlyAffects first subject ∧ OnlyAffects second subject :=
  List.forall_mem_append

namespace Broker

variable {broker : Broker} {i b : String} {setting : Setting} {w w' : World} {exchanges : Dialogue}

theorem ProvisionCourse.onlyAffects {details : ProvisionDetails} {acceptsIncomplete : Bool}
    {result : Except BrokerError OperationResponse}
    (h : ProvisionCourse broker i details acceptsIncomplete exchanges result) :
    OnlyAffects exchanges (.instance i) := by
  have htold {service : RegisteredService} {plan : ServicePlan} {vars : Variables}
      (hadmits : broker.admitProvision i details acceptsIncomplete = .ok (service, plan, vars)) :
      (Json.object vars).textAt "instance_id" = i :=
    ServiceDefinition.instanceId_of_provisionVariables (admitProvision_ok hadmits).2
  cases h with
  | unchecked | taken | refused | declined => exact .of_silent (Exchange.eq_none_of_all rfl)
  | unrecorded hadmits | unlogged hadmits | recorded hadmits =>
    simp only [onlyAffects_cons, onlyAffects_nil, Exchange.affected?, Store.Request.subject?,
      Provider.Request.subject?, htold hadmits, provisionedRecord, reduceCtorEq, or_false,
      or_true, and_self]

theorem UpdateCourse.onlyAffects {details : UpdateDetails} {acceptsIncomplete : Bool}
    {result : Except BrokerError OperationResponse}
    (h : UpdateCourse broker i details acceptsIncomplete exchanges result)
    (hsteps : Steps setting.Allows w exchanges w') (hw : w.store.Keyed) :
    OnlyAffects exchanges (.instance i) := by
  have htold {record : InstanceRecord} {service : RegisteredService} {plan : ServicePlan}
      {vars : Variables}
      (hadmits : broker.admitUpdate i record details acceptsIncomplete =
        .ok (service, plan, vars)) :
      (Json.object vars).textAt "instance_id" = record.id :=
    ServiceDefinition.instanceId_of_updateVariables (admitUpdate_ok hadmits).2.2.1
  cases h with
  | unread | refused | declined => exact .of_silent (Exchange.eq_none_of_all rfl)
  | @unsaved record _ _ _ hadmits | @unlogged record _ _ _ hadmits
  | @completed record _ _ _ hadmits =>
    have hid : record.id = i := Setting.id_of_read hsteps hw (by simp)
    simp only [onlyAffects_cons, onlyAffects_nil, Exchange.affected?, Store.Request.subject?,
      Provider.Request.subject?, htold hadmits, updatedRecord, hid, reduceCtorEq, or_false,
      or_true, and_self]

theorem DeprovisionCourse.onlyAffects {details : DeprovisionDetails} {acceptsIncomplete : Bool}
    {result : Except BrokerError OperationResponse}
    (h : DeprovisionCourse broker i details acceptsIncomplete exchanges result)
    (hsteps : Steps setting.Allows w exchanges w') (hw : w.store.Keyed) :
    OnlyAffects exchanges (.instance i) := by
  cases h with
  | unread | refused | declined => exact .of_silent (Exchange.eq_none_of_all rfl)
  | @undeleted record | @deleted record | @unsaved record | @condemned record =>
    have hid : record.id = i := Setting.id_of_read hsteps hw (by simp)
    simp only [onlyAffects_cons, onlyAffects_nil, Exchange.affected?, Store.Request.subject?,
      Provider.Request.subject?, condemnedRecord, hid, reduceCtorEq, or_false, or_true, and_self]

theorem PollCourse.onlyAffects {result : Except BrokerError LastOperation}
    (h : PollCourse broker i exchanges result) (hrefresh : setting.RefreshKeepsId)
    (hsteps : Steps setting.Allows w exchanges w') (hw : w.store.Keyed) :
    OnlyAffects exchanges (.instance i) := by
  cases h with
  | unread | refused | idle | unanswered | unfinished =>
    exact .of_silent (Exchange.eq_none_of_all rfl)
  | @removed record _ _ _ _ _ reply =>
    have hid : record.id = i := Setting.id_of_read hsteps hw (by simp)
    cases reply <;>
      simp only [onlyAffects_cons, onlyAffects_nil, Exchange.affected?, Store.Request.subject?,
        Provider.Request.subject?, hid, reduceCtorEq, or_false, or_true, and_self]
  | @unremoved record | @unreread record | @unrefreshed record =>
    have hid : record.id = i := Setting.id_of_read hsteps hw (by simp)
    simp only [onlyAffects_cons, onlyAffects_nil, Exchange.affected?, Store.Request.subject?,
      Provider.Request.subject?, hid, reduceCtorEq, or_false, or_true, and_self]
  | @unsettled record service _ _ _ _ reread refreshed
  | @settled record service _ _ _ _ reread refreshed =>
    have hid : record.id = i := Setting.id_of_read hsteps hw (by simp)
    have hreread : reread.id = i := Setting.id_of_read hsteps hw (by simp)
    have hrefreshed : refreshed.id = reread.id :=
      hrefresh service.definition.id _ _ (Setting.provider_of_mem hsteps (by simp))
    simp only [onlyAffects_cons, onlyAffects_nil, Exchange.affected?, Store.Request.subject?,
      Provider.Request.subject?, settledRecord, hid, hreread, hrefreshed, reduceCtorEq, or_false,
      or_true, and_self]

theorem BindCourse.onlyAffects {details : BindDetails} {result : Except BrokerError Binding}
    (h : BindCourse broker i b details exchanges result)
    (hsteps : Steps setting.Allows w exchanges w') (hw : w.store.Keyed) :
    OnlyAffects exchanges (.binding i b) := by
  have htold {record : InstanceRecord} {service : RegisteredService} {reader : Option String}
      {vars : Variables}
      (hadmits : broker.admitBind record b details = .ok (service, reader, vars)) :
      (Json.object vars).textAt "instance_id" = record.id ∧
        (Json.object vars).textAt "binding_id" = b := by
    obtain ⟨plan, -, -, hvars⟩ := admitBind_ok hadmits
    exact ServiceDefinition.ids_of_bindVariables hvars
  cases h with
  | unchecked | taken | unread | refused | declined =>
    exact .of_silent (Exchange.eq_none_of_all rfl)
  | @unrecorded record _ _ _ hadmits | @unbuilt record _ _ _ hadmits | @bound record _ _ hadmits
  | @unstored record _ _ _ hadmits | @ungranted record _ _ _ hadmits
  | @handedOff record _ _ _ hadmits =>
    have hid : record.id = i := Setting.id_of_read hsteps hw (by simp)
    simp only [onlyAffects_cons, onlyAffects_nil, Exchange.affected?, Store.Request.subject?,
      Provider.Request.subject?, issuedRecord, htold hadmits, hid, reduceCtorEq, or_false, or_true,
      and_self]

theorem Clearing.onlyAffects {name : String} {failure : Option Vault.Error} {subject : Subject}
    (h : Clearing broker name exchanges failure) : OnlyAffects exchanges subject := by
  cases h <;> exact .of_silent (Exchange.eq_none_of_all rfl)

theorem UnbindCourse.onlyAffects {result : Except BrokerError Unit}
    (h : UnbindCourse broker i b exchanges result)
    (hsteps : Steps setting.Allows w exchanges w') (hw : w.store.Keyed) :
    OnlyAffects exchanges (.binding i b) := by
  cases h with
  | unread | instanceUnread | unresolved => exact .of_silent (Exchange.eq_none_of_all rfl)
  | uncleared _ _ _ hclear =>
    simp only [onlyAffects_cons, Exchange.affected?, Store.Request.subject?, hclear.onlyAffects,
      reduceCtorEq, or_false, and_self]
  | declined _ _ _ hclear =>
    simp only [onlyAffects_cons, onlyAffects_append, onlyAffects_nil, Exchange.affected?,
      Store.Request.subject?, hclear.onlyAffects, reduceCtorEq, or_false, and_self]
  | undeleted binding record _ hclear | unbound binding record _ hclear =>
    have hid : record.id = i := Setting.id_of_read hsteps hw (by simp)
    have hbinding : binding.bindingId = b :=
      Setting.bindingId_of_read hsteps hw (List.mem_cons_self ..)
    simp only [onlyAffects_cons, onlyAffects_append, onlyAffects_nil, Exchange.affected?,
      Store.Request.subject?, Provider.Request.subject?, hclear.onlyAffects, hid, hbinding,
      reduceCtorEq, or_false, or_true, and_self]

/-- A binding that is recorded is not bound again. -/
theorem BindCourse.refused_of_recorded {details : BindDetails} {result : Except BrokerError Binding}
    (h : BindCourse broker i b details exchanges result)
    (hsteps : Steps setting.Allows w exchanges w')
    (hrecorded : (w.store.bindings.get? (i, b)).isSome = true) :
    (∃ reply, exchanges = [.store (.bindingExists i b) reply]) ∧
      (result = .error (.bindingAlreadyExists i b) ∨ ∃ e, result = .error (.storage e)) := by
  have htaken {found : Bool} {rest : Dialogue}
      (hsteps : Steps setting.Allows w (.store (.bindingExists i b) (.ok found) :: rest) w') :
      found = true := by
    obtain ⟨v, hstep, -⟩ := Steps.cons_iff.1 hsteps
    rw [hstep.answers.bindingExists_ok, hrecorded]
  cases h with
  | unchecked e => exact ⟨⟨.error e, rfl⟩, .inr ⟨e, rfl⟩⟩
  | taken => exact ⟨⟨.ok true, rfl⟩, .inl rfl⟩
  | _ => cases htaken hsteps

/-- A call is about nothing but what its request is made for. -/
theorem Serves.onlyAffects {call : Served} (h : broker.Serves setting w call w')
    (hrefresh : setting.RefreshKeepsId) (hw : w.store.Keyed) :
    OnlyAffects call.exchanges call.request.subject := by
  obtain ⟨request, exchanges, result⟩ := call
  obtain ⟨hends, hsteps⟩ := h
  cases request with
  | provision => exact (ProvisionCourse.of_ends hends).onlyAffects
  | update => exact (UpdateCourse.of_ends hends).onlyAffects hsteps hw
  | deprovision => exact (DeprovisionCourse.of_ends hends).onlyAffects hsteps hw
  | lastOperation i details =>
    exact (PollCourse.of_ends details hends).onlyAffects hrefresh hsteps hw
  | bind => exact (BindCourse.of_ends hends).onlyAffects hsteps hw
  | unbind i b details => exact (UnbindCourse.of_ends details hends).onlyAffects hsteps hw

theorem PollCourse.affects_no_binding {result : Except BrokerError LastOperation}
    (h : PollCourse broker i exchanges result) {j c : String} :
    ∀ x ∈ exchanges, x.affected? ≠ some (.binding j c) := by
  have hnone : ∀ x ∈ exchanges, x.affected?.bind Subject.binding? = none := by
    cases h with
    | @removed record _ _ _ _ _ reply => cases reply <;> exact Exchange.eq_none_of_all rfl
    | _ => exact Exchange.eq_none_of_all rfl
  intro x hx heq
  have hx := hnone x hx
  rw [heq] at hx
  cases hx

/-- A call is about no binding but the one its request is made for, also where providers give
records other ids. -/
theorem Serves.affects_no_other {call : Served} (h : broker.Serves setting w call w')
    (hw : w.store.Keyed) (hsubject : call.request.subject ≠ .binding i b) :
    ∀ x ∈ call.exchanges, x.affected? ≠ some (.binding i b) := by
  have hother (honly : OnlyAffects call.exchanges call.request.subject) :
      ∀ x ∈ call.exchanges, x.affected? ≠ some (.binding i b) :=
    Exchange.ne_some_of_only honly hsubject
  obtain ⟨request, exchanges, result⟩ := call
  obtain ⟨hends, hsteps⟩ := h
  cases request with
  | provision => exact hother (ProvisionCourse.of_ends hends).onlyAffects
  | update => exact hother ((UpdateCourse.of_ends hends).onlyAffects hsteps hw)
  | deprovision => exact hother ((DeprovisionCourse.of_ends hends).onlyAffects hsteps hw)
  | lastOperation j details => exact (PollCourse.of_ends details hends).affects_no_binding
  | bind => exact hother ((BindCourse.of_ends hends).onlyAffects hsteps hw)
  | unbind j c details =>
    exact hother ((UnbindCourse.of_ends details hends).onlyAffects hsteps hw)

/-- A recorded binding stays as it is until it is asked to be unbound. -/
theorem Serves.binding_stays {call : Served} (h : broker.Serves setting w call w')
    (hw : w.store.Keyed) (hkept : ∀ details, call.request ≠ .unbind i b details)
    {record : BindingRecord} (hfound : w.store.bindings.get? (i, b) = some record) :
    w'.store.bindings.get? (i, b) = some record := by
  rw [← hfound]
  by_cases hsubject : call.request.subject = .binding i b
  · obtain ⟨request, exchanges, result⟩ := call
    cases request with
    | bind j c details =>
      cases hsubject
      obtain ⟨hends, hsteps⟩ := h
      obtain ⟨⟨reply, rfl⟩, -⟩ :=
        (BindCourse.of_ends hends).refused_of_recorded hsteps (by rw [hfound]; rfl)
      refine (sameRecord_of_steps hsteps ?_).of_binding
      cases reply <;> exact Exchange.ne_some_of_all rfl
    | unbind j c details =>
      cases hsubject
      exact absurd rfl (hkept details)
    | _ => cases hsubject
  · exact (sameRecord_of_steps h.2 (h.affects_no_other hw hsubject)).of_binding

end Broker

end Brokerage
