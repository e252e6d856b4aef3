import Brokerage.Proofs.Frame

/-!
The records agree with the providers, or the caller was told. A call that does not report a partial
failure either changes nothing that it is made for or changes the record and the standing of it
together, so over a history a record can part from where its subject stands only through a call
that said so.
-/

set_option autoImplicit false

namespace Brokerage

namespace Broker

variable {broker : Broker} {i b : String} {setting : Setting} {w w' : World} {exchanges : Dialogue}
  {standing : Standing}

/-! ### What a call is made for -/

theorem ProvisionCourse.agrees {details : ProvisionDetails} {acceptsIncomplete : Bool}
    {result : Except BrokerError OperationResponse}
    (h : ProvisionCourse broker i details acceptsIncomplete exchanges result)
    (hstore : setting.FailsAsBackend) (hsteps : Steps setting.Allows w exchanges w')
    (hwhole : ∀ e, result = .error e → e.isPartialFailure = false)
    (hagrees : Agrees w.store standing (.instance i)) :
    Agrees w'.store (standing.afterAll exchanges) (.instance i) := by
  cases h with
  | unchecked | taken | refused | declined =>
    exact hagrees.unaffected hsteps (Exchange.ne_some_of_all rfl)
  | unrecorded hadmits outcome e =>
    simp only [Steps.cons_iff, Steps.nil_iff, Setting.allows_store_iff,
      Setting.allows_provider_iff] at hsteps
    obtain ⟨_, ⟨s₁, hexists, rfl⟩, _, ⟨-, rfl⟩, _, ⟨s₂, hcreate, rfl⟩, rfl⟩ := hsteps
    have hnone : w.store.instances.get? i = none := by
      simpa using hexists.instanceExists_ok
    have hsame : s₁ = w.store := hexists.of_read rfl
    have hfails : setting.storeFails e := hcreate.createInstance_error (by rw [hsame]; exact hnone)
    -- the store did not lie, so this was no conflict
    have htold := hwhole _ rfl
    rw [hstore.not_conflict hfails] at htold
    cases htold
  | unlogged => cases hwhole _ rfl
  | recorded hadmits outcome =>
    simp only [Steps.cons_iff, Steps.nil_iff, Setting.allows_store_iff,
      Setting.allows_provider_iff] at hsteps
    obtain ⟨_, ⟨s₁, hexists, rfl⟩, _, ⟨-, rfl⟩, _, ⟨s₂, hcreate, rfl⟩, _, ⟨s₃, hlog, rfl⟩, rfl⟩ :=
      hsteps
    have hnone : w.store.instances.get? i = none := by
      simpa using hexists.instanceExists_ok
    have hidle : standing.outstanding i = none := hagrees.quiet (hagrees.not_present hnone)
    have htold := ServiceDefinition.instanceId_of_provisionVariables (admitProvision_ok hadmits).2
    obtain ⟨now, hcreated⟩ := hcreate.instance_of_createInstance
    have hlogged : s₂.SameRecord s₃ (.instance i) := hlog.sameRecord (by rintro ⟨⟩)
    refine .of_some (hlogged.of_instance.trans hcreated) ?_ ?_
    · simp [Standing.after, Standing.answered, htold]
    · simp [Standing.after, Standing.answered, htold, Standing.begun_outstanding hidle,
        provisionedRecord]

theorem UpdateCourse.agrees {details : UpdateDetails} {acceptsIncomplete : Bool}
    {result : Except BrokerError OperationResponse}
    (h : UpdateCourse broker i details acceptsIncomplete exchanges result)
    (hw : w.store.Keyed) (hsteps : Steps setting.Allows w exchanges w')
    (hwhole : ∀ e, result = .error e → e.isPartialFailure = false)
    (hagrees : Agrees w.store standing (.instance i)) :
    Agrees w'.store (standing.afterAll exchanges) (.instance i) := by
  cases h with
  | unread | refused | declined =>
    exact hagrees.unaffected hsteps (Exchange.ne_some_of_all rfl)
  | unsaved | unlogged => cases hwhole _ rfl
  | completed hadmits outcome =>
    simp only [Steps.cons_iff, Steps.nil_iff, Setting.allows_store_iff,
      Setting.allows_provider_iff] at hsteps
    obtain ⟨_, ⟨s₁, hget, rfl⟩, _, ⟨-, rfl⟩, _, ⟨s₂, hsave, rfl⟩, _, ⟨s₃, hlog, rfl⟩, rfl⟩ :=
      hsteps
    obtain ⟨-, hidle, hvars, -⟩ := admitUpdate_ok hadmits
    have hread := hget.getInstance_ok
    have hid := hw.instances i _ hread
    have htold := ServiceDefinition.instanceId_of_updateVariables hvars
    have hquiet : standing.outstanding i = none := by
      rw [← hagrees.operation _ hread, hidle]
    have hpresent : standing.present i := hagrees.present.1 ⟨_, hread⟩
    obtain ⟨created, now, hsaved⟩ := hsave.instance_of_saveInstance
    have hlogged : s₂.SameRecord s₃ (.instance i) := hlog.sameRecord (by rintro ⟨⟩)
    rw [updatedRecord, hid] at hsaved
    refine .of_some (hlogged.of_instance.trans hsaved) ?_ ?_
    · simpa [Standing.after, Standing.answered, Standing.begun_present] using hpresent
    · simp [Standing.after, Standing.answered, htold, hid, Standing.begun_outstanding hquiet]

theorem DeprovisionCourse.agrees {details : DeprovisionDetails} {acceptsIncomplete : Bool}
    {result : Except BrokerError OperationResponse}
    (h : DeprovisionCourse broker i details acceptsIncomplete exchanges result)
    (hw : w.store.Keyed) (hsteps : Steps setting.Allows w exchanges w')
    (hwhole : ∀ e, result = .error e → e.isPartialFailure = false)
    (hagrees : Agrees w.store standing (.instance i)) :
    Agrees w'.store (standing.afterAll exchanges) (.instance i) := by
  cases h with
  | unread | refused | declined =>
    exact hagrees.unaffected hsteps (Exchange.ne_some_of_all rfl)
  | undeleted | unsaved => cases hwhole _ rfl
  | deleted hadmits =>
    simp only [Steps.cons_iff, Steps.nil_iff, Setting.allows_store_iff,
      Setting.allows_provider_iff] at hsteps
    obtain ⟨_, ⟨s₁, hget, rfl⟩, _, ⟨-, rfl⟩, _, ⟨s₂, hdelete, rfl⟩, rfl⟩ := hsteps
    have hid := hw.instances i _ hget.getInstance_ok
    refine .of_none hdelete.instance_of_deleteInstance ?_ ?_
    · simp [Standing.after, Standing.answered, Standing.gone, hid]
    · simp [Standing.after, Standing.answered, Standing.gone, hid]
  | condemned hadmits token =>
    simp only [Steps.cons_iff, Steps.nil_iff, Setting.allows_store_iff,
      Setting.allows_provider_iff] at hsteps
    obtain ⟨_, ⟨s₁, hget, rfl⟩, _, ⟨-, rfl⟩, _, ⟨s₂, hsave, rfl⟩, rfl⟩ := hsteps
    have hread := hget.getInstance_ok
    have hid := hw.instances i _ hread
    have hpresent : standing.present i := hagrees.present.1 ⟨_, hread⟩
    obtain ⟨created, now, hsaved⟩ := hsave.instance_of_saveInstance
    rw [condemnedRecord, hid] at hsaved
    refine .of_some hsaved ?_ ?_
    · simpa [Standing.after, Standing.answered, Standing.begun] using hpresent
    · simp [Standing.after, Standing.answered, Standing.begun, hid]

theorem PollCourse.agrees {result : Except BrokerError LastOperation}
    (h : PollCourse broker i exchanges result) (hstore : setting.FailsAsBackend)
    (hrefresh : setting.RefreshKeepsId) (hw : w.store.Keyed)
    (hsteps : Steps setting.Allows w exchanges w')
    (hwhole : ∀ e, result = .error e → e.isPartialFailure = false)
    (hagrees : Agrees w.store standing (.instance i)) :
    Agrees w'.store (standing.afterAll exchanges) (.instance i) := by
  cases h with
  | unread | refused | idle | unanswered | unfinished =>
    exact hagrees.unaffected hsteps (Exchange.ne_some_of_all rfl)
  | unremoved | unreread | unrefreshed | unsettled => cases hwhole _ rfl
  | removed hadmits hpending hcompletion reply hreply =>
    simp only [Steps.cons_iff, Steps.nil_iff, Setting.allows_store_iff,
      Setting.allows_provider_iff] at hsteps
    obtain ⟨_, ⟨s₁, hget, rfl⟩, _, ⟨-, rfl⟩, _, ⟨s₂, hdelete, rfl⟩, rfl⟩ := hsteps
    have hread := hget.getInstance_ok
    have hid := hw.instances i _ hread
    have hsame : s₁ = w.store := hget.of_read rfl
    rcases hreply with rfl | ⟨e, hnotFound, rfl⟩
    · have hkind := deprovision_of_deleteRecord hcompletion
      refine .of_none hdelete.instance_of_deleteInstance ?_ ?_
      · simp [Standing.after, Standing.answered, Standing.done, hpending, hkind, Standing.gone, hid]
      · simp [Standing.after, Standing.answered, Standing.done, hpending, hkind, Standing.gone, hid]
    · -- the record was read a moment ago, so a store that says it is not there lies
      have hfails : setting.storeFails e :=
        hdelete.deleteInstance_error (by rw [hsame]; exact hread)
      rw [hstore.not_notFound hfails] at hnotFound
      cases hnotFound
  | settled hadmits hpending hcompletion reread refreshed =>
    simp only [Steps.cons_iff, Steps.nil_iff, Setting.allows_store_iff,
      Setting.allows_provider_iff] at hsteps
    obtain ⟨_, ⟨s₁, hget, rfl⟩, _, ⟨-, rfl⟩, _, ⟨s₂, hreget, rfl⟩, _, ⟨hrefreshed, rfl⟩, _,
      ⟨s₃, hsave, rfl⟩, rfl⟩ := hsteps
    have hread := hget.getInstance_ok
    have hid := hw.instances i _ hread
    have hreread : reread.id = i := (hget.keyed hw).instances i _ hreget.getInstance_ok
    have hrefreshedId : refreshed.id = i := (hrefresh _ _ _ hrefreshed).trans hreread
    have hkind := not_deprovision_of_refreshDetails hcompletion
    have hpresent : standing.present i := hagrees.present.1 ⟨_, hread⟩
    have houtstanding := hagrees.operation _ hread
    rw [hpending] at houtstanding
    obtain ⟨created, now, hsaved⟩ := hsave.instance_of_saveInstance
    rw [settledRecord, hrefreshedId] at hsaved
    refine .of_some hsaved ?_ ?_
    · simpa [Standing.after, Standing.answered, Standing.done, hpending, hkind, hid,
        ← houtstanding] using hpresent
    · simp [Standing.after, Standing.answered, Standing.done, hpending, hkind, hid,
        ← houtstanding]

/-! ### Bindings -/

/-- Once the binding is recorded, nothing that a bind still does parts it from where it stands. -/
theorem agrees_of_issued {record : InstanceRecord} {details : BindDetails}
    {service : RegisteredService} {reader : Option String} {vars : Variables} {issued : Json}
    {rest : Dialogue} (hadmits : broker.admitBind record b details = .ok (service, reader, vars))
    (hw : w.store.Keyed)
    (hsteps : Steps setting.Allows w
      (.store (.bindingExists i b) (.ok false) :: .store (.getInstance i) (.ok record) ::
        .provider (.bind service.definition.id vars) (.ok issued) ::
        .store (.createBinding (issuedRecord i b service issued)) (.ok ()) :: rest) w')
    (hrest : ∀ x ∈ rest, x.affected? ≠ some (.binding i b)) :
    Agrees w'.store (standing.afterAll
      (.store (.bindingExists i b) (.ok false) :: .store (.getInstance i) (.ok record) ::
        .provider (.bind service.definition.id vars) (.ok issued) ::
        .store (.createBinding (issuedRecord i b service issued)) (.ok ()) :: rest))
      (.binding i b) := by
  simp only [Steps.cons_iff, Setting.allows_store_iff, Setting.allows_provider_iff] at hsteps
  obtain ⟨_, ⟨s₁, hexists, rfl⟩, _, ⟨s₂, hget, rfl⟩, _, ⟨-, rfl⟩, v, ⟨s₃, hcreate, rfl⟩, htail⟩ :=
    hsteps
  obtain ⟨plan, -, -, hvars⟩ := admitBind_ok hadmits
  obtain ⟨htoldInstance, htoldBinding⟩ := ServiceDefinition.ids_of_bindVariables hvars
  have hid : record.id = i := (hexists.keyed hw).instances i _ hget.getInstance_ok
  obtain ⟨now, hcreated⟩ := hcreate.binding_of_createBinding
  simp only [Standing.afterAll_cons]
  refine Agrees.unaffected ?_ htail hrest
  show (∃ found, s₃.bindings.get? (i, b) = some found) ↔ _
  refine iff_of_true ⟨_, hcreated⟩ ?_
  simp [Standing.after, Standing.answered, htoldInstance, htoldBinding, hid]

theorem BindCourse.agrees {details : BindDetails} {result : Except BrokerError Binding}
    (h : BindCourse broker i b details exchanges result)
    (hstore : setting.FailsAsBackend) (hw : w.store.Keyed)
    (hsteps : Steps setting.Allows w exchanges w')
    (hwhole : ∀ e, result = .error e → e.isPartialFailure = false)
    (hagrees : Agrees w.store standing (.binding i b)) :
    Agrees w'.store (standing.afterAll exchanges) (.binding i b) := by
  cases h with
  | unchecked | taken | unread | refused | declined =>
    exact hagrees.unaffected hsteps (Exchange.ne_some_of_all rfl)
  | unrecorded hadmits issued e =>
    simp only [Steps.cons_iff, Steps.nil_iff, Setting.allows_store_iff,
      Setting.allows_provider_iff] at hsteps
    obtain ⟨_, ⟨s₁, hexists, rfl⟩, _, ⟨s₂, hget, rfl⟩, _, ⟨-, rfl⟩, _, ⟨s₃, hcreate, rfl⟩, rfl⟩ :=
      hsteps
    have hnone : w.store.bindings.get? (i, b) = none := by
      simpa using hexists.bindingExists_ok
    have hsame₁ : s₁ = w.store := hexists.of_read rfl
    have hsame₂ : s₂ = s₁ := hget.of_read rfl
    have hfails : setting.storeFails e :=
      hcreate.createBinding_error (by rw [hsame₂, hsame₁]; exact hnone)
    have htold := hwhole _ rfl
    rw [unrecordedBinding, hstore.not_conflict hfails] at htold
    cases htold
  | unbuilt hadmits issued e | bound hadmits issued binding | unstored hadmits issued binding e
  | ungranted hadmits issued binding version e | handedOff hadmits issued binding version =>
    exact agrees_of_issued hadmits hw hsteps (Exchange.ne_some_of_all rfl)

theorem UnbindCourse.agrees {result : Except BrokerError Unit}
    (h : UnbindCourse broker i b exchanges result) (hw : w.store.Keyed)
    (hsteps : Steps setting.Allows w exchanges w')
    (hwhole : ∀ e, result = .error e → e.isPartialFailure = false)
    (hagrees : Agrees w.store standing (.binding i b)) :
    Agrees w'.store (standing.afterAll exchanges) (.binding i b) := by
  have hclearing {name : String} {clearing : Dialogue} {failure : Option Vault.Error}
      (hclear : Clearing broker name clearing failure) :
      ∀ x ∈ clearing, x.affected? ≠ some (.binding i b) := by
    cases hclear <;> exact Exchange.ne_some_of_all rfl
  cases h with
  | unread | instanceUnread | unresolved =>
    exact hagrees.unaffected hsteps (Exchange.ne_some_of_all rfl)
  | uncleared binding record hresolve hclear =>
    refine hagrees.unaffected hsteps ?_
    rw [List.forall_mem_cons, List.forall_mem_cons]
    exact ⟨by rintro ⟨⟩, by rintro ⟨⟩, hclearing hclear⟩
  | declined binding record hresolve hclear e =>
    refine hagrees.unaffected hsteps ?_
    rw [List.forall_mem_cons, List.forall_mem_cons, List.forall_mem_append]
    exact ⟨by rintro ⟨⟩, by rintro ⟨⟩, hclearing hclear, Exchange.ne_some_of_all rfl⟩
  | undeleted => cases hwhole _ rfl
  | unbound binding record hresolve hclear =>
    have hid : record.id = i := Setting.id_of_read hsteps hw (by simp)
    have hbinding : binding.bindingId = b :=
      Setting.bindingId_of_read hsteps hw (List.mem_cons_self ..)
    simp only [Steps.cons_iff, Steps.append_iff, Steps.nil_iff, Setting.allows_store_iff,
      Setting.allows_provider_iff] at hsteps
    obtain ⟨_, -, _, -, _, -, _, -, _, ⟨s, hdelete, rfl⟩, rfl⟩ := hsteps
    show (∃ found, s.bindings.get? (i, b) = some found) ↔ _
    refine iff_of_false ?_ ?_
    · rw [hdelete.binding_of_deleteBinding]
      rintro ⟨found, hfound⟩
      cases hfound
    · simp [Standing.after, Standing.answered, hid, hbinding]

/-! ### Histories -/

/-- A call that reports no partial failure keeps what it is made for agreed, and any call keeps
what it is not made for agreed. -/
theorem Serves.agrees {call : Served} {subject : Subject} (h : broker.Serves setting w call w')
    (hstore : setting.FailsAsBackend) (hrefresh : setting.RefreshKeepsId) (hw : w.store.Keyed)
    (hwhole : call.request.subject = subject → call.isPartialFailure = false)
    (hagrees : Agrees w.store standing subject) :
    Agrees w'.store (standing.afterAll call.exchanges) subject := by
  have haffects := h.onlyAffects hrefresh hw
  obtain ⟨hends, hsteps⟩ := h
  by_cases hsubject : call.request.subject = subject
  · subst hsubject
    have hwhole : ∀ e, call.result = .error e → e.isPartialFailure = false := by
      intro e he
      have hcall := hwhole rfl
      rwa [Served.isPartialFailure, he] at hcall
    obtain ⟨request, exchanges, result⟩ := call
    cases request with
    | provision => exact (ProvisionCourse.of_ends hends).agrees hstore hsteps hwhole hagrees
    | update => exact (UpdateCourse.of_ends hends).agrees hw hsteps hwhole hagrees
    | deprovision => exact (DeprovisionCourse.of_ends hends).agrees hw hsteps hwhole hagrees
    | lastOperation i details =>
      exact (PollCourse.of_ends details hends).agrees hstore hrefresh hw hsteps hwhole hagrees
    | bind => exact (BindCourse.of_ends hends).agrees hstore hw hsteps hwhole hagrees
    | unbind i b details =>
      exact (UnbindCourse.of_ends details hends).agrees hw hsteps hwhole hagrees
  · exact hagrees.unaffected hsteps (Exchange.ne_some_of_only haffects hsubject)

/-- No call made for a subject has ended in a partial failure. -/
def Unreported (calls : List Served) (subject : Subject) : Prop :=
  ∀ call ∈ calls, call.request.subject = subject → call.isPartialFailure = false

instance (calls : List Served) (subject : Subject) : Decidable (Unreported calls subject) :=
  inferInstanceAs (Decidable (∀ call ∈ calls, _ → _))

/-- Where the providers stand after a history that began with nothing at them. -/
def standingAfter (calls : List Served) : Standing :=
  Standing.idle.afterAll (calls.flatMap Served.exchanges)

theorem agrees_of_history {calls : List Served} {subject : Subject}
    (hrun : Steps (broker.Serves setting) w calls w') (hstore : setting.FailsAsBackend)
    (hrefresh : setting.RefreshKeepsId) (hw : w.store.Keyed)
    (hunreported : Unreported calls subject) (hagrees : Agrees w.store standing subject) :
    Agrees w'.store (standing.afterAll (calls.flatMap Served.exchanges)) subject := by
  induction hrun generalizing standing with
  | nil w => exact hagrees
  | @cons w v w' call calls head tail ih =>
    rw [List.flatMap_cons, Standing.afterAll_append]
    refine ih (Setting.keyed_of_steps head.2 hw) ?_ ?_
    · exact fun later hlater ↦ hunreported later (List.mem_cons_of_mem _ hlater)
    · exact head.agrees hstore hrefresh hw (hunreported call (List.mem_cons_self ..)) hagrees

/-- After any history from an empty store and idle providers, an instance is recorded just when its
provider has it, with the operation under way there, and a binding is recorded just when it was
issued, unless a call made for it reported a partial failure. Assumes: a store that answers
faithfully or fails as a backend and without effect, and providers that keep the id of a record
they refresh; they may answer anything else, and the vault may do anything. -/
theorem agrees_unless_reported (broker : Broker) {setting : Setting}
    (hstore : setting.FailsAsBackend) (hrefresh : setting.RefreshKeepsId) {v : Vault}
    {calls : List Served} {w : World}
    (hrun : Steps (broker.Serves setting) ⟨Store.empty, v⟩ calls w) :
    (∀ i, Unreported calls (.instance i) →
      ((∃ record, w.store.instances.get? i = some record) ↔ (standingAfter calls).present i) ∧
      ∀ record, w.store.instances.get? i = some record →
        record.operation = (standingAfter calls).outstanding i) ∧
    ∀ i b, Unreported calls (.binding i b) →
      ((∃ record, w.store.bindings.get? (i, b) = some record) ↔
        (standingAfter calls).bound (i, b)) := by
  have hagrees : ∀ subject, Unreported calls subject →
      Agrees w.store (standingAfter calls) subject := fun subject hunreported ↦
    agrees_of_history hrun hstore hrefresh Store.keyed_empty hunreported (agrees_empty subject)
  constructor
  · intro i hunreported
    have h : InstanceAgrees w.store (standingAfter calls) i := hagrees (.instance i) hunreported
    exact ⟨h.present, h.operation⟩
  · intro i b hunreported
    exact hagrees (.binding i b) hunreported

/-- The whole life of an instance, up to a deprovision that is under way. -/
def instanceLife : List Request :=
  [.provision "i-1" { serviceId := "db", planId := "small" } true, .lastOperation "i-1" {},
   .bind "i-1" "b-1" { serviceId := "db", planId := "small" },
   .unbind "i-1" "b-1" { serviceId := "db", planId := "small" },
   .deprovision "i-1" { serviceId := "db", planId := "small" } true]

theorem agrees_after_instanceLife :
    let served := (databaseBroker false).history "now" databaseProvider instanceLife {}
    (Setting.faithful databaseProvider).FailsAsBackend ∧
      (Setting.faithful databaseProvider).RefreshKeepsId ∧
      Unreported served.1 (.instance "i-1") ∧ Unreported served.1 (.binding "i-1" "b-1") ∧
      (standingAfter served.1).present "i-1" ∧
      (∃ record, served.2.store.instances.get? "i-1" = some record ∧
        record.operation = some ⟨"op-2", .deprovision⟩) ∧
      ((∃ record, served.2.store.bindings.get? ("i-1", "b-1") = some record) ↔
        (standingAfter served.1).bound ("i-1", "b-1")) := by
  intro served
  have hstore : (Setting.faithful databaseProvider).FailsAsBackend := by
    intro e hfails
    exact absurd hfails id
  have hrefresh : (Setting.faithful databaseProvider).RefreshKeepsId := by
    intro serviceId record refreshed h
    cases h
    rfl
  have hinstance : Unreported served.1 (.instance "i-1") := by decide +kernel
  have hbinding : Unreported served.1 (.binding "i-1" "b-1") := by decide +kernel
  obtain ⟨hinstances, hbindings⟩ := agrees_unless_reported (databaseBroker false) hstore hrefresh
    (steps_history "now" databaseProvider _ instanceLife {})
  obtain ⟨hpresent, hoperation⟩ := hinstances "i-1" hinstance
  have hrecord : (served.2.store.instances.get? "i-1").isSome = true := by decide +kernel
  obtain ⟨record, hfound⟩ := Option.isSome_iff_exists.1 hrecord
  refine ⟨hstore, hrefresh, hinstance, hbinding, hpresent.1 ⟨record, hfound⟩,
    ⟨record, hfound, ?_⟩, hbindings "i-1" "b-1" hbinding⟩
  rw [hoperation record hfound]
  rfl

end Broker

end Brokerage
