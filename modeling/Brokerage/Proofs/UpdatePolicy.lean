import Brokerage.Proofs.Configuration
import Brokerage.Proofs.LifeCycle
import Brokerage.Proofs.Negotiation
import Brokerage.Proofs.Parameters

/-!
What an update may not change. A service may fix the plan of its instances, and some of their
parameters. Its provider is asked for an update only if that asks for neither, however the keys of
the parameters are written; the caller of any other is told what may not be changed. So an instance
keeps its plan for as long as it is recorded.
-/

set_option autoImplicit false

namespace Brokerage

/-- The text of a payload is an object with a key that stands for the name. The key may be written
with or without escapes. -/
def Parameters.Mentions (payload : Option String) (name : String) : Prop :=
  ∃ raw members, content? payload = some raw ∧ (Json.Tree.object members).Spells raw ∧
    ∃ member ∈ members, Json.content? member.1 = some name

/-- The keys of the map of a payload are the names that its text mentions. -/
theorem Parameters.contains_iff_mentions {payload : Option String} {user : Members}
    (h : parse payload = .ok user) (name : String) :
    user.contains name = true ↔ Mentions payload name := by
  cases hcontent : content? payload with
  | none =>
    obtain rfl : [] = user := by simpa [parse, hcontent] using h
    simp [Mentions, hcontent, Members.contains]
  | some raw =>
    obtain ⟨tree, htree, ⟨rfl, rfl⟩ | ⟨members, rfl, hmembers⟩⟩ := exists_tree_of_parse hcontent h
    · refine iff_of_false Bool.false_ne_true ?_
      rintro ⟨other, members, hother, hobject, -⟩
      cases hcontent.symm.trans hother
      cases Json.Tree.spells_unique htree hobject
    · rw [Json.Tree.contains_of_valueMembers? hmembers]
      constructor
      · intro hfound
        have hkey := hfound.resolve_left Bool.false_ne_true
        exact ⟨raw, members, hcontent, htree, hkey⟩
      · rintro ⟨other, others, hother, hobject, hname⟩
        cases hcontent.symm.trans hother
        cases Json.Tree.spells_unique htree hobject
        exact .inr hname

namespace ServiceDefinition

/-- An update that names no plan, the plan that the instance has or, where plans may change,
whichever. -/
def PlanPermitted (definition : ServiceDefinition) (current : String) (details : UpdateDetails) :
    Prop :=
  details.planId = none ∨ details.planId = some current ∨ definition.planUpdateable = true

instance (definition : ServiceDefinition) (current : String) (details : UpdateDetails) :
    Decidable (definition.PlanPermitted current details) :=
  inferInstanceAs (Decidable (_ ∨ _ ∨ _))

variable {definition : ServiceDefinition} {current : String} {details : UpdateDetails}

theorem changesPlan_iff :
    definition.changesPlan current details = true ↔ ¬ definition.PlanPermitted current details := by
  unfold changesPlan PlanPermitted
  cases details.planId <;> simp

theorem prohibitedChanges_ok_iff {changes : List String} :
    definition.prohibitedChanges current details = .ok changes ↔
      ∃ user, Parameters.parse details.rawParameters = .ok user ∧
        changes = (if definition.PlanPermitted current details then [] else ["plan_id"]) ++
          definition.nonUpdatableParameters.filter user.contains := by
  unfold prohibitedChanges
  cases Parameters.parse details.rawParameters with
  | error e => simp
  | ok user =>
    by_cases hplan : definition.PlanPermitted current details
    · have hsame := mt changesPlan_iff.1 (not_not_intro hplan)
      simp [hplan, hsame, eq_comm]
    · simp [hplan, changesPlan_iff.2 hplan, eq_comm]

/-- An update is allowed just if nothing prohibited is asked for. -/
theorem isUpdateAllowed_iff :
    definition.isUpdateAllowed current details = .ok true ↔
      definition.prohibitedChanges current details = .ok [] := by
  unfold isUpdateAllowed
  cases definition.prohibitedChanges current details <;> simp [Except.map]

theorem kind_of_acceptBy {schema? : Option Json} {user : Members} {e : BrokerError}
    (h : definition.acceptBy schema? user = .error e) : e.kind = .validation := by
  unfold acceptBy at h
  cases schema? with
  | none => cases h
  | some source =>
    cases hschema : Schema.ofJson source with
    | error defect =>
      simp only [hschema] at h
      cases h
      rfl
    | ok schema =>
      cases hcheck : schema.check (.object user) with
      | nil => simp [hschema, hcheck] at h
      | cons violation rest =>
        simp only [hschema, hcheck] at h
        cases h
        rfl

/-- Whatever a service refuses parameters for, it is held to be the caller's mistake. -/
theorem kind_of_acceptedParameters {schema? : Option Json} {payload : Option String}
    {e : BrokerError} (h : definition.acceptedParameters schema? payload = .error e) :
    e.kind = .validation := by
  unfold acceptedParameters at h
  split at h
  next hparse =>
    cases h
    obtain ⟨reason, rfl⟩ := Parameters.parse_error hparse
    rfl
  next =>
    split at h
    next haccept =>
      cases h
      exact kind_of_acceptBy haccept
    next => cases h

/-- Nothing prohibited is asked for if the plan may be had and no fixed parameter is mentioned. -/
theorem permitted_of_allowed (h : definition.prohibitedChanges current details = .ok []) :
    definition.PlanPermitted current details ∧
      (∃ user, Parameters.parse details.rawParameters = .ok user) ∧
      ∀ name ∈ definition.nonUpdatableParameters,
        ¬ Parameters.Mentions details.rawParameters name := by
  obtain ⟨user, hparse, hnone⟩ := prohibitedChanges_ok_iff.1 h
  obtain ⟨hplan, hfilter⟩ := List.append_eq_nil_iff.1 hnone.symm
  refine ⟨?_, ⟨user, hparse⟩, fun name hname hmentions ↦ ?_⟩
  · by_contra hforbidden
    simp [hforbidden] at hplan
  · have hcontains := (Parameters.contains_iff_mentions hparse name).2 hmentions
    exact List.filter_eq_nil_iff.1 hfilter name hname hcontains

end ServiceDefinition

/-- The service whose provider is asked for an update, and the variables that it is told. -/
def Exchange.updates? : Exchange Action.Reply → Option (String × Variables)
  | ⟨.provider (.update serviceId vars), _⟩ => some (serviceId, vars)
  | _ => none

namespace Setting

variable {setting : Setting} {w w' : World} {rest : Dialogue}

/-! ### Readings beside a store that may have done what it failed to do -/

theorem Tolerates.keyed {x : Exchange Action.Reply} (h : setting.Tolerates w x w')
    (hw : w.store.Keyed) : w'.store.Keyed := by
  cases h with
  | allowed h => exact keyed_of_steps (Steps.singleton_iff.2 h) hw
  | @unacknowledged q e now hfails =>
    have hdone : w.store.Answers setting.storeFails q _ _ := .inl ⟨now, rfl⟩
    exact hdone.keyed hw

theorem keyed_of_tolerated {exchanges : Dialogue} (h : Steps setting.Tolerates w exchanges w')
    (hw : w.store.Keyed) : w'.store.Keyed :=
  h.preserves (P := fun v ↦ v.store.Keyed) (fun _ _ _ _ hv hstep ↦ hstep.keyed hv) hw

/-- What was read of an instance was there, and still is. -/
theorem read_of_tolerated {i : String} {record : InstanceRecord}
    (h : Steps setting.Tolerates w (.store (.getInstance i) (.ok record) :: rest) w') :
    w.store.instances.get? i = some record ∧ Steps setting.Tolerates w rest w' := by
  obtain ⟨v, hread, hrest⟩ := Steps.cons_iff.1 h
  cases hread with
  | allowed hread =>
    obtain ⟨after, hanswer, rfl⟩ := allows_store_iff.1 hread
    rw [hanswer.of_read rfl] at hrest
    exact ⟨hanswer.getInstance_ok, hrest⟩

theorem replied_of_tolerated {q : Provider.Request} {reply : q.Reply}
    (h : Steps setting.Tolerates w (.provider q reply :: rest) w') :
    setting.provider q reply ∧ Steps setting.Tolerates w rest w' := by
  obtain ⟨v, hasked, hrest⟩ := Steps.cons_iff.1 h
  obtain ⟨hreply, rfl⟩ := hasked.provider_replies
  exact ⟨hreply, hrest⟩

end Setting

namespace Broker

variable {broker : Broker} {i : String} {record : InstanceRecord} {details : UpdateDetails}
  {acceptsIncomplete : Bool}

/-! ### What an update is admitted for -/

/-- An update is refused for prohibited changes only if the service finds some. -/
theorem changes_of_admitUpdate {changes : List String}
    (h : broker.admitUpdate i record details acceptsIncomplete =
      .error (.prohibitedUpdate changes)) :
    ∃ service, broker.registry.resolve record.serviceId = .ok service ∧
      service.definition.prohibitedChanges record.planId details = .ok changes ∧ changes ≠ [] := by
  cases admitUpdate_error h with
  | unresolved hresolve => cases kind_of_resolve_error hresolve
  | malformed hformed =>
    obtain ⟨reason, hreason⟩ := Parameters.ensureWellFormed_error hformed
    cases hreason
  | uncompared hchanges =>
    obtain ⟨reason, hreason⟩ := ServiceDefinition.prohibitedChanges_error hchanges
    cases hreason
  | prohibited hresolve hchanges hsome =>
    exact ⟨_, registry_resolve_of_resolve hresolve, hchanges, hsome⟩
  | unvaried _ hvars =>
    cases ServiceDefinition.kind_of_acceptedParameters
      (ServiceDefinition.updateVariables_error hvars)

/-! ### What the provider is asked -/

section Asked

variable {exchanges : Dialogue}

theorem ProvisionCourse.updates?_eq_none {details : ProvisionDetails}
    {result : Except BrokerError OperationResponse}
    (h : ProvisionCourse broker i details acceptsIncomplete exchanges result) :
    ∀ x ∈ exchanges, x.updates? = none := by
  cases h <;> exact Exchange.eq_none_of_all rfl

theorem DeprovisionCourse.updates?_eq_none {details : DeprovisionDetails}
    {result : Except BrokerError OperationResponse}
    (h : DeprovisionCourse broker i details acceptsIncomplete exchanges result) :
    ∀ x ∈ exchanges, x.updates? = none := by
  cases h <;> exact Exchange.eq_none_of_all rfl

theorem PollCourse.updates?_eq_none {result : Except BrokerError LastOperation}
    (h : PollCourse broker i exchanges result) : ∀ x ∈ exchanges, x.updates? = none := by
  cases h <;> exact Exchange.eq_none_of_all rfl

theorem BindCourse.updates?_eq_none {b : String} {details : BindDetails}
    {result : Except BrokerError Binding} (h : BindCourse broker i b details exchanges result) :
    ∀ x ∈ exchanges, x.updates? = none := by
  cases h <;> exact Exchange.eq_none_of_all rfl

theorem Clearing.updates?_eq_none {name : String} {clearing : Dialogue}
    {failure : Option Vault.Error} (h : Clearing broker name clearing failure) :
    ∀ x ∈ clearing, x.updates? = none := by
  cases h <;> exact Exchange.eq_none_of_all rfl

theorem UnbindCourse.updates?_eq_none {b : String} {result : Except BrokerError Unit}
    (h : UnbindCourse broker i b exchanges result) : ∀ x ∈ exchanges, x.updates? = none := by
  cases h with
  | unread | instanceUnread | unresolved => exact Exchange.eq_none_of_all rfl
  | uncleared binding record hresolve hclear =>
    exact List.forall_mem_cons.2 ⟨rfl, List.forall_mem_cons.2 ⟨rfl, hclear.updates?_eq_none⟩⟩
  | declined binding record hresolve hclear | undeleted binding record hresolve hclear
  | unbound binding record hresolve hclear =>
    refine List.forall_mem_cons.2 ⟨rfl, List.forall_mem_cons.2 ⟨rfl, ?_⟩⟩
    exact List.forall_mem_append.2 ⟨hclear.updates?_eq_none, Exchange.eq_none_of_all rfl⟩

end Asked

/-! ### What is recorded -/

/-- The broker knows no service under the id whose plans may change. -/
def FixesPlan (broker : Broker) (serviceId : String) : Prop :=
  ∀ service, broker.registry.resolve serviceId = .ok service →
    service.definition.planUpdateable = false

/-- A record that is to be saved over another keeps its service, and its plan if that is fixed. -/
structure KeepsPlan (broker : Broker) (asked record : InstanceRecord) : Prop where
  id : asked.id = record.id
  serviceId : asked.serviceId = record.serviceId
  planId : broker.FixesPlan record.serviceId → asked.planId = record.planId

section Recorded

variable {setting : Setting} {w w' : World} {exchanges : Dialogue} {x : Exchange Action.Reply}
  {asked : InstanceRecord}

theorem not_recorded_of_none {P : Prop} (hnone : ∀ x ∈ exchanges, x.recorded? = none)
    (hx : x ∈ exchanges) (hasked : x.recorded? = some asked) : P := by
  cases (hnone x hx).symm.trans hasked

attribute [local simp] Store.Request.recorded?

theorem ProvisionCourse.recorded_absent {details : ProvisionDetails}
    {result : Except BrokerError OperationResponse}
    (h : ProvisionCourse broker i details acceptsIncomplete exchanges result)
    (hsteps : Steps setting.Tolerates w exchanges w') (hx : x ∈ exchanges)
    (hasked : x.recorded? = some asked) : asked.id = i ∧ w.store.instances.get? i = none := by
  cases h with
  | unchecked | taken | refused | declined =>
    exact not_recorded_of_none (Exchange.eq_none_of_all rfl) hx hasked
  | @unrecorded service plan vars hadmits outcome | @unlogged service plan vars hadmits outcome
  | @recorded service plan vars hadmits outcome =>
    obtain rfl : asked = provisionedRecord i details service plan outcome :=
      Exchange.eq_of_only (by simp) hx hasked
    obtain ⟨v, hlooked, -⟩ := Steps.cons_iff.1 hsteps
    have habsent := hlooked.answers_of_ok.instanceExists_ok
    exact ⟨rfl, Option.isNone_iff_eq_none.1 (Option.isSome_eq_false_iff.1 habsent.symm)⟩

theorem UpdateCourse.recorded_over {result : Except BrokerError OperationResponse}
    (h : UpdateCourse broker i details acceptsIncomplete exchanges result)
    (hsteps : Steps setting.Tolerates w exchanges w') (hx : x ∈ exchanges)
    (hasked : x.recorded? = some asked) :
    ∃ record, w.store.instances.get? i = some record ∧ broker.KeepsPlan asked record := by
  cases h with
  | unread | refused | declined =>
    exact not_recorded_of_none (Exchange.eq_none_of_all rfl) hx hasked
  | @unsaved record service plan vars hadmits outcome
  | @unlogged record service plan vars hadmits outcome
  | @completed record service plan vars hadmits outcome =>
    obtain rfl : asked = updatedRecord record plan outcome :=
      Exchange.eq_of_only (by simp) hx hasked
    refine ⟨record, (Setting.read_of_tolerated hsteps).1, rfl, rfl, fun hfixed ↦ ?_⟩
    have hresolve := (admitUpdate_ok hadmits).1
    have hplan : plan.id = details.planId.getD record.planId := planId_of_resolve hresolve
    show plan.id = record.planId
    rcases (ServiceDefinition.permitted_of_allowed (admitUpdate_ok hadmits).2.2.2).1 with
      hnone | hsame | hupdateable
    · rw [hplan, hnone, Option.getD_none]
    · rw [hplan, hsame, Option.getD_some]
    · rw [hfixed service (registry_resolve_of_resolve hresolve)] at hupdateable
      cases hupdateable

theorem DeprovisionCourse.recorded_over {details : DeprovisionDetails}
    {result : Except BrokerError OperationResponse}
    (h : DeprovisionCourse broker i details acceptsIncomplete exchanges result)
    (hsteps : Steps setting.Tolerates w exchanges w') (hx : x ∈ exchanges)
    (hasked : x.recorded? = some asked) :
    ∃ record, w.store.instances.get? i = some record ∧ broker.KeepsPlan asked record := by
  cases h with
  | unread | refused | declined | undeleted | deleted =>
    exact not_recorded_of_none (Exchange.eq_none_of_all rfl) hx hasked
  | @unsaved record service hadmits token | @condemned record service hadmits token =>
    obtain rfl : asked = condemnedRecord record token := Exchange.eq_of_only (by simp) hx hasked
    exact ⟨record, (Setting.read_of_tolerated hsteps).1, rfl, rfl, fun _ ↦ rfl⟩

theorem PollCourse.recorded_over {result : Except BrokerError LastOperation}
    (h : PollCourse broker i exchanges result) (hrefresh : setting.RefreshOnlyDetails)
    (hsteps : Steps setting.Tolerates w exchanges w') (hx : x ∈ exchanges)
    (hasked : x.recorded? = some asked) :
    ∃ record, w.store.instances.get? i = some record ∧ broker.KeepsPlan asked record := by
  cases h with
  | unsettled hadmits hpending hcompletion reread refreshed
  | settled hadmits hpending hcompletion reread refreshed =>
    obtain rfl : asked = settledRecord refreshed := Exchange.eq_of_only (by simp) hx hasked
    -- what is saved is made of the second reading, which the refresh was given
    obtain ⟨-, hsteps⟩ := Setting.read_of_tolerated hsteps
    obtain ⟨-, hsteps⟩ := Setting.replied_of_tolerated hsteps
    obtain ⟨hreread, hsteps⟩ := Setting.read_of_tolerated hsteps
    obtain ⟨otherDetails, rfl⟩ := hrefresh _ _ _ (Setting.replied_of_tolerated hsteps).1
    exact ⟨reread, hreread, rfl, rfl, fun _ ↦ rfl⟩
  | _ => exact not_recorded_of_none (Exchange.eq_none_of_all rfl) hx hasked

theorem BindCourse.recorded?_eq_none {b : String} {details : BindDetails}
    {result : Except BrokerError Binding} (h : BindCourse broker i b details exchanges result) :
    ∀ x ∈ exchanges, x.recorded? = none := by
  cases h <;> exact Exchange.eq_none_of_all rfl

theorem UnbindCourse.recorded?_eq_none {b : String} {result : Except BrokerError Unit}
    (h : UnbindCourse broker i b exchanges result) : ∀ x ∈ exchanges, x.recorded? = none := by
  cases h with
  | unread | instanceUnread | unresolved => exact Exchange.eq_none_of_all rfl
  | uncleared binding record hresolve hclear | declined binding record hresolve hclear
  | undeleted binding record hresolve hclear | unbound binding record hresolve hclear =>
    simpa [or_imp, forall_and] using hclear.recorded?_eq_none

/-- What a call asks to be recorded of an instance that is there keeps its service, and its plan if
that is fixed. -/
theorem Endures.recorded_over {call : Served} (h : broker.Endures setting w call w')
    (hrefresh : setting.RefreshOnlyDetails) (hw : w.store.Keyed) (hx : x ∈ call.exchanges)
    (hasked : x.recorded? = some asked) (hfound : w.store.instances.get? asked.id = some record) :
    broker.KeepsPlan asked record := by
  obtain ⟨request, exchanges, result⟩ := call
  obtain ⟨hends, hsteps⟩ := h
  have hover {j : String} (hover : ∃ record, w.store.instances.get? j = some record ∧
      broker.KeepsPlan asked record) : broker.KeepsPlan asked record := by
    obtain ⟨read, hread, hkeeps⟩ := hover
    rw [hkeeps.id, hw.get?_id hread] at hfound
    cases hfound
    exact hkeeps
  cases request with
  | provision =>
    obtain ⟨rfl, habsent⟩ := (ProvisionCourse.of_ends hends).recorded_absent hsteps hx hasked
    cases habsent.symm.trans hfound
  | update => exact hover ((UpdateCourse.of_ends hends).recorded_over hsteps hx hasked)
  | deprovision => exact hover ((DeprovisionCourse.of_ends hends).recorded_over hsteps hx hasked)
  | lastOperation i details =>
    exact hover ((PollCourse.of_ends details hends).recorded_over hrefresh hsteps hx hasked)
  | bind => exact not_recorded_of_none (BindCourse.of_ends hends).recorded?_eq_none hx hasked
  | unbind i b details =>
    exact not_recorded_of_none (UnbindCourse.of_ends details hends).recorded?_eq_none hx hasked

/-- An instance that is there before a call and after it keeps its service, and its plan if that is
fixed. -/
theorem Endures.plan_stays {call : Served} (h : broker.Endures setting w call w')
    (hrefresh : setting.RefreshOnlyDetails) (hw : w.store.Keyed)
    (hfound : w.store.instances.get? i = some record) {after : InstanceRecord}
    (hafter : w'.store.instances.get? i = some after) :
    after.serviceId = record.serviceId ∧
      (broker.FixesPlan record.serviceId → after.planId = record.planId) := by
  rcases Setting.recorded_or_kept_of_steps h.2 hafter with hkept | ⟨x, hx, asked, hasked, hsame⟩
  · cases hkept.symm.trans hfound
    exact ⟨rfl, fun _ ↦ rfl⟩
  · have hid : after.id = i := (Setting.keyed_of_tolerated h.2 hw).instances i after hafter
    have haskedId : asked.id = i := (congrArg InstanceRecord.id hsame).symm.trans hid
    rw [← haskedId] at hfound
    have hkeeps := h.recorded_over hrefresh hw hx hasked hfound
    have hserviceId : after.unstamped.serviceId = asked.unstamped.serviceId := by rw [hsame]
    have hplanId : after.unstamped.planId = asked.unstamped.planId := by rw [hsame]
    exact ⟨hserviceId.trans hkeeps.serviceId, fun hfixed ↦ hplanId.trans (hkeeps.planId hfixed)⟩

end Recorded

/-! ### Runs -/

section Runs

variable {setting : Setting} {w w' : World}

/-- An update of an instance asks for nothing that the service of its record does not allow: it
leaves the recorded plan, or plans may change, and it mentions no parameter that may not. -/
def UpdatePermitted (broker : Broker) (s : Store) (i : String) (details : UpdateDetails)
    (serviceId : String) : Prop :=
  ∃ record service, s.instances.get? i = some record ∧ record.serviceId = serviceId ∧
    broker.registry.resolve serviceId = .ok service ∧
    service.definition.PlanPermitted record.planId details ∧
    (∃ user, Parameters.parse details.rawParameters = .ok user) ∧
    ∀ name ∈ service.definition.nonUpdatableParameters,
      ¬ Parameters.Mentions details.rawParameters name

/-- What the caller of an update is told not to be allowed: the plan, if it asked for another and
plans may not change, and then the parameters that it mentions and may not change, in the order in
which the service lists them. -/
def ToldProhibited (broker : Broker) (s : Store) (i : String) (details : UpdateDetails)
    (changes : List String) : Prop :=
  ∃ record service user, s.instances.get? i = some record ∧
    broker.registry.resolve record.serviceId = .ok service ∧
    Parameters.parse details.rawParameters = .ok user ∧
    (∀ name, user.contains name = true ↔ Parameters.Mentions details.rawParameters name) ∧
    changes =
      (if service.definition.PlanPermitted record.planId details then [] else ["plan_id"]) ++
        service.definition.nonUpdatableParameters.filter user.contains ∧
    changes ≠ []

theorem Endures.asks_permitted {call : Served} (h : broker.Endures setting w call w')
    {serviceId : String} {vars : Variables} {reply : (Provider.Request.update serviceId vars).Reply}
    (hasked : .provider (.update serviceId vars) reply ∈ call.exchanges) :
    ∃ i details acceptsIncomplete, call.request = .update i details acceptsIncomplete ∧
      broker.UpdatePermitted w.store i details serviceId := by
  obtain ⟨request, exchanges, result⟩ := call
  obtain ⟨hends, hsteps⟩ := h
  have hnot {P : Prop} (hnone : ∀ x ∈ exchanges, x.updates? = none) : P := by
    cases hnone _ hasked
  cases request with
  | provision => exact hnot (ProvisionCourse.of_ends hends).updates?_eq_none
  | deprovision => exact hnot (DeprovisionCourse.of_ends hends).updates?_eq_none
  | lastOperation i details => exact hnot (PollCourse.of_ends details hends).updates?_eq_none
  | bind => exact hnot (BindCourse.of_ends hends).updates?_eq_none
  | unbind i b details => exact hnot (UnbindCourse.of_ends details hends).updates?_eq_none
  | update i details acceptsIncomplete =>
    refine ⟨i, details, acceptsIncomplete, rfl, ?_⟩
    cases UpdateCourse.of_ends hends with
    | unread | refused => simp at hasked
    | @declined record service plan vars hadmits | @unsaved record service plan vars hadmits
    | @unlogged record service plan vars hadmits | @completed record service plan vars hadmits =>
      have hresolve := registry_resolve_of_resolve (admitUpdate_ok hadmits).1
      have hserviceId := serviceId_of_resolve hresolve
      obtain rfl : serviceId = service.definition.id := by simp at hasked; exact hasked.1.1
      exact ⟨record, service, (Setting.read_of_tolerated hsteps).1, hserviceId.symm,
        resolve_own_id hresolve,
        ServiceDefinition.permitted_of_allowed (admitUpdate_ok hadmits).2.2.2⟩

theorem Endures.told_prohibited {details : UpdateDetails} {exchanges : Dialogue}
    {changes : List String} (h : broker.Endures setting w
      ⟨.update i details acceptsIncomplete, exchanges, .error (.prohibitedUpdate changes)⟩ w') :
    broker.ToldProhibited w.store i details changes := by
  obtain ⟨hends, hsteps⟩ := h
  generalize hresult : (Except.error (.prohibitedUpdate changes) :
    Except BrokerError OperationResponse) = result at hends
  cases UpdateCourse.of_ends hends with
  | unread e =>
    unfold unreadInstance at hresult
    split at hresult <;> cases hresult
  | @refused record e hadmits =>
    cases hresult
    obtain ⟨service, hresolve, hchanges, hsome⟩ := changes_of_admitUpdate hadmits
    obtain ⟨user, hparse, heq⟩ := ServiceDefinition.prohibitedChanges_ok_iff.1 hchanges
    exact ⟨record, service, user, (Setting.read_of_tolerated hsteps).1, hresolve, hparse,
      Parameters.contains_iff_mentions hparse, heq, hsome⟩
  | _ => cases hresult

/-- While an instance of a service whose plans may not change is recorded, so is its plan. -/
theorem plan_of_history (hrefresh : setting.RefreshOnlyDetails) (hw : w.store.Keyed)
    {later : List Served} (hfound : w.store.instances.get? i = some record)
    (hfixed : broker.FixesPlan record.serviceId)
    (hrun : Steps (fun v call v' ↦ broker.Endures setting v call v' ∧ v'.store.Has (.instance i))
      w later w') :
    ∃ after, w'.store.instances.get? i = some after ∧ after.planId = record.planId := by
  -- the service has to stay as well, or the next call could be one of another service
  suffices hkeeps : w'.store.Keyed ∧ ∃ after, w'.store.instances.get? i = some after ∧
      after.serviceId = record.serviceId ∧ after.planId = record.planId by
    obtain ⟨-, after, hafter, -, hplan⟩ := hkeeps
    exact ⟨after, hafter, hplan⟩
  refine hrun.preserves (P := fun v ↦ v.store.Keyed ∧ ∃ after,
    v.store.instances.get? i = some after ∧ after.serviceId = record.serviceId ∧
      after.planId = record.planId) ?_ ⟨hw, record, hfound, rfl, rfl⟩
  rintro v call v' - ⟨hv, before, hbefore, hservice, hplan⟩ ⟨hserves, after, hafter⟩
  obtain ⟨hsameService, hsamePlan⟩ := hserves.plan_stays hrefresh hv hbefore hafter
  refine ⟨Setting.keyed_of_tolerated hserves.2 hv, after, hafter, hsameService.trans hservice, ?_⟩
  exact (hsamePlan (hservice ▸ hfixed)).trans hplan

/-- The update policy of every service is enforced over whole runs. After any run, the provider of a
service is asked for an update only by a call that updates an instance of the service and asks for
nothing that the policy does not allow; an instance of a service whose plans may not change keeps
its plan for as long as it is recorded; and a caller that is told of prohibited changes is told of
those that it asked for. An update is said to be allowed just if it asks for none. Assumes:
providers whose refresh touches only their own details. The store may have done what it failed to
do. -/
theorem update_policy_enforced (hrefresh : setting.RefreshOnlyDetails) {calls : List Served}
    (hrun : Steps (broker.Endures setting) {} calls w) :
    (∀ call w' serviceId vars reply, broker.Endures setting w call w' →
      .provider (.update serviceId vars) reply ∈ call.exchanges →
      ∃ i details acceptsIncomplete, call.request = .update i details acceptsIncomplete ∧
        broker.UpdatePermitted w.store i details serviceId) ∧
    (∀ i record later w', w.store.instances.get? i = some record →
      broker.FixesPlan record.serviceId →
      Steps (fun v call v' ↦ broker.Endures setting v call v' ∧ v'.store.Has (.instance i))
        w later w' →
      ∃ after, w'.store.instances.get? i = some after ∧ after.planId = record.planId) ∧
    (∀ i details acceptsIncomplete exchanges changes w', broker.Endures setting w
      ⟨.update i details acceptsIncomplete, exchanges, .error (.prohibitedUpdate changes)⟩ w' →
      broker.ToldProhibited w.store i details changes) ∧
    ∀ (definition : ServiceDefinition) current details,
      definition.isUpdateAllowed current details = .ok true ↔
        definition.prohibitedChanges current details = .ok [] := by
  have hw : w.store.Keyed := hrun.preserves (P := fun v ↦ v.store.Keyed)
    (fun _ _ _ _ hv hserves ↦ Setting.keyed_of_tolerated hserves.2 hv) Store.keyed_empty
  refine ⟨fun call w' serviceId vars reply hserves hasked ↦ hserves.asks_permitted hasked,
    fun i record later w' hfound hfixed hlater ↦
      plan_of_history hrefresh hw hfound hfixed hlater,
    fun i details acceptsIncomplete exchanges changes w' hserves ↦ hserves.told_prohibited,
    fun definition current details ↦ ServiceDefinition.isUpdateAllowed_iff⟩

/-- A service with two plans, between which an instance may not change, and a size of the disk that
may not change either. -/
def fixedBroker : Broker where
  registry := ⟨[{ databaseService with definition :=
    { databaseService.definition with
      plans := [{ id := "small", name := "small" }, { id := "large", name := "large" }]
      nonUpdatableParameters := ["ram", "disk"] } }]⟩

/-- A database of the small plan. -/
def fixedLife : List Request :=
  [.provision "i-1" { serviceId := "db", planId := "small" } true, .lastOperation "i-1" {}]

/-- Asks for the other plan and for another disk, the key of which is written with an escape. -/
def escapedUpdate : UpdateDetails where
  serviceId := "db"
  planId := some "large"
  rawParameters := some "\x7b\"\\u0064isk\": 20\x7d"

theorem endures_run {now : String} {provider : (q : Provider.Request) → q.Reply} {q : Request}
    {result : Except BrokerError q.Answer}
    (h : ((broker.serve q).run (World.respond now provider) w).1 = result) :
    broker.Endures (.faithful provider) w
      ⟨q, (broker.serve q).trace (World.respond now provider) w, result⟩
      ((broker.serve q).run (World.respond now provider) w).2 := by
  subst h
  exact ⟨Program.ends_trace _ _ w, (Program.steps_trace _ _ w).mono fun _ _ _ h ↦
    .allowed (allows_of_respond now provider h)⟩

theorem update_policy_of_escapedUpdate :
    let served := fixedBroker.history "now" databaseProvider fixedLife {}
    let next := (fixedBroker.serve (.update "i-1" escapedUpdate true)).run
      (World.respond "now" databaseProvider) served.2
    (Setting.faithful databaseProvider).RefreshOnlyDetails ∧
      Steps (fixedBroker.Endures (.faithful databaseProvider)) {} served.1 served.2 ∧
      next.1 = .error (.prohibitedUpdate ["plan_id", "disk"]) ∧
      fixedBroker.ToldProhibited served.2.store "i-1" escapedUpdate ["plan_id", "disk"] ∧
      ∃ after, next.2.store.instances.get? "i-1" = some after ∧ after.planId = "small" := by
  intro served next
  have hrefresh : (Setting.faithful databaseProvider).RefreshOnlyDetails := by
    rintro serviceId record refreshed ⟨⟩
    exact ⟨_, rfl⟩
  have hrun : Steps (fixedBroker.Endures (.faithful databaseProvider)) {} served.1 served.2 :=
    (steps_history "now" databaseProvider fixedBroker fixedLife {}).mono
      fun _ _ _ h ↦ ⟨h.1, h.2.mono fun _ _ _ ↦ .allowed⟩
  have hresult : next.1 = .error (.prohibitedUpdate ["plan_id", "disk"]) := by decide +kernel
  have hnext := endures_run hresult
  obtain ⟨-, hstays, htold, -⟩ := update_policy_enforced hrefresh hrun
  have hfound : (served.2.store.instances.get? "i-1").map InstanceRecord.planId = some "small" := by
    decide +kernel
  obtain ⟨record, hrecord, hplan⟩ := Option.map_eq_some_iff.1 hfound
  have hfixed : fixedBroker.FixesPlan record.serviceId := by
    intro service hresolve
    obtain rfl := List.mem_singleton.1 (Registry.resolve_ok hresolve).1
    rfl
  have hafter : (next.2.store.instances.get? "i-1").isSome = true := by decide +kernel
  obtain ⟨after, hafter, hsame⟩ := hstays "i-1" record _ next.2 hrecord hfixed
    (Steps.singleton_iff.2 ⟨hnext, Option.isSome_iff_exists.1 hafter⟩)
  exact ⟨hrefresh, hrun, hresult, htold _ _ _ _ _ _ hnext, after, hafter, hsame.trans hplan⟩

end Runs

end Broker

end Brokerage
