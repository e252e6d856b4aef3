import Brokerage.Proofs.Configuration
import Brokerage.Proofs.Parameters

/-!
Refusals come before effects. What refuses a request is found out by reading records, so a call
that ends in a refusal has asked neither a provider nor the vault and written nothing. A record
that is already there is found out so too; only one that was created since the call looked is
told of by the record store, when the provider has acted.
-/

set_option autoImplicit false

namespace Brokerage

/-- The errors by which a request is refused. -/
def BrokerError.isRefusal : BrokerError → Bool
  | .operationInProgress _ _ => true
  | e =>
    match e.kind with
    | .validation | .notFound | .asyncRequired | .prohibitedUpdate | .persistence => true
    | _ => false

/-- What is asked for is already there. -/
def BrokerError.isTaken : BrokerError → Bool
  | .instanceAlreadyExists _ | .bindingAlreadyExists _ _ => true
  | _ => false

namespace Exchange

/-- A question to the record store that writes nothing, whatever the answer. -/
def isReading : Exchange Action.Reply → Bool
  | ⟨.store q, _⟩ => !q.isWrite
  | _ => false

/-- The service whose provider is asked. -/
def service? : Exchange Action.Reply → Option String
  | ⟨.provider q, _⟩ => some q.serviceId
  | _ => none

@[simp] theorem service?_store (q : Store.Request) (reply : q.Reply) :
    (store q reply).service? = none := rfl

@[simp] theorem service?_vault (q : Vault.Request) (reply : q.Reply) :
    (vault q reply).service? = none := rfl

@[simp] theorem service?_provider (q : Provider.Request) (reply : q.Reply) :
    (provider q reply).service? = some q.serviceId := rfl

/-- What the record store says there is no record of. -/
def absent? : Exchange Action.Reply → Option Subject
  | ⟨.store (.instanceExists i), .ok false⟩ => some (.instance i)
  | ⟨.store (.bindingExists i b), .ok false⟩ => some (.binding i b)
  | _ => none

end Exchange

/-! ### Conflicts told of late -/

/-- The store says that there is no record and then, although nothing created one in between, that
it cannot create it because there is one. -/
inductive Contested (subject : Subject) : Dialogue → Prop
  | intro {x : Exchange Action.Reply} {between after : Dialogue} {q : Store.Request}
    {e : Store.Error} (habsent : x.absent? = some subject)
    (hnone : ∀ y ∈ between, y.created? ≠ some subject) (hcreates : q.created? = some subject)
    (hconflict : e.isConflict = true) :
    Contested subject (x :: (between ++ .store q (q.refuse e) :: after))

namespace Setting

variable {setting : Setting} {w w' : World} {subject : Subject}

theorem Allows.absent_of_absent? {x : Exchange Action.Reply} (h : setting.Allows w x w')
    (habsent : x.absent? = some subject) : ¬ w'.store.Has subject := by
  cases h with
  | @store q reply after h =>
    cases q with
    | instanceExists i =>
      cases reply with
      | error e => cases habsent
      | ok found =>
        cases found with
        | true => cases habsent
        | false =>
          cases habsent
          rw [h.of_read rfl]
          exact Store.not_has_instance_iff.2 (by simpa using h.instanceExists_ok)
    | bindingExists i b =>
      cases reply with
      | error e => cases habsent
      | ok found =>
        cases found with
        | true => cases habsent
        | false =>
          cases habsent
          rw [h.of_read rfl]
          exact Store.not_has_binding_iff.2 (by simpa using h.bindingExists_ok)
    | _ => cases habsent
  | vault h => cases habsent
  | provider h => cases habsent

/-- A store that contradicts itself so has failed. -/
theorem fails_of_contested {exchanges : Dialogue} (h : Contested subject exchanges)
    (hsteps : Steps setting.Allows w exchanges w') :
    ∃ e, setting.storeFails e ∧ e.isConflict = true := by
  cases h with
  | @intro x between after q e habsent hnone hcreates hconflict =>
    obtain ⟨v, hx, hrest⟩ := Steps.cons_iff.1 hsteps
    obtain ⟨v', hbetween, hrefused⟩ := Steps.append_iff.1 hrest
    obtain ⟨v'', hcreate, -⟩ := Steps.cons_iff.1 hrefused
    have hstill : ¬ v'.store.Has subject :=
      absent_of_steps hbetween hnone (hx.absent_of_absent? habsent)
    rcases hcreate.answers.fails_or_conflict hcreates with hfails | ⟨hhas, -⟩
    · exact ⟨e, hfails, hconflict⟩
    · exact absurd hhas hstill

end Setting

/-! ### Checks before effects -/

/-- A call either only reads, or goes on to what cannot end in a refusal, nor in the report of a
conflict unless the store contradicts itself. -/
inductive ChecksFirst {α : Type} (subject : Subject) (exchanges : Dialogue)
    (result : Except BrokerError α) : Prop
  | quiet (hreads : ∀ x ∈ exchanges, x.isReading = true)
  | acted (hresult : ∀ e, result = .error e →
      e.isRefusal = false ∧ (e.isTaken = true → Contested subject exchanges))

section ChecksFirst

variable {α : Type} {subject : Subject} {exchanges : Dialogue} {result : Except BrokerError α}

theorem ChecksFirst.of_all (h : exchanges.all Exchange.isReading = true) :
    ChecksFirst subject exchanges result :=
  .quiet (List.all_eq_true.1 h)

theorem ChecksFirst.of_ok (x : α) : ChecksFirst subject exchanges (.ok x) :=
  .acted fun _ h ↦ nomatch h

theorem ChecksFirst.of_error {e : BrokerError} (hrefusal : e.isRefusal = false)
    (htaken : e.isTaken = false) :
    ChecksFirst subject exchanges (.error e : Except BrokerError α) := by
  refine .acted ?_
  rintro _ ⟨⟩
  exact ⟨hrefusal, fun h ↦ absurd h (by simp [htaken])⟩

end ChecksFirst

namespace Broker

variable {broker : Broker} {exchanges : Dialogue}

section Instances

variable {i : String} {acceptsIncomplete : Bool}

theorem ProvisionCourse.checksFirst {details : ProvisionDetails}
    {result : Except BrokerError OperationResponse}
    (h : ProvisionCourse broker i details acceptsIncomplete exchanges result) :
    ChecksFirst (.instance i) exchanges result := by
  cases h with
  | unchecked | taken | refused => exact .of_all rfl
  | declined | unlogged => exact .of_error rfl rfl
  | recorded => exact .of_ok _
  | unrecorded hadmits outcome e =>
    cases hconflict : e.isConflict with
    | false =>
      rw [if_neg Bool.false_ne_true]
      exact .of_error rfl rfl
    | true =>
      rw [if_pos rfl]
      refine .acted ?_
      rintro _ ⟨⟩
      refine ⟨rfl, fun _ ↦ ?_⟩
      exact @Contested.intro _ _ [_] [] _ _ rfl (Exchange.ne_some_of_all rfl) rfl hconflict

theorem UpdateCourse.checksFirst {details : UpdateDetails}
    {result : Except BrokerError OperationResponse}
    (h : UpdateCourse broker i details acceptsIncomplete exchanges result) :
    ChecksFirst (.instance i) exchanges result := by
  cases h with
  | unread | refused => exact .of_all rfl
  | declined | unsaved | unlogged => exact .of_error rfl rfl
  | completed => exact .of_ok _

theorem DeprovisionCourse.checksFirst {details : DeprovisionDetails}
    {result : Except BrokerError OperationResponse}
    (h : DeprovisionCourse broker i details acceptsIncomplete exchanges result) :
    ChecksFirst (.instance i) exchanges result := by
  cases h with
  | unread | refused => exact .of_all rfl
  | declined | undeleted | unsaved => exact .of_error rfl rfl
  | deleted | condemned => exact .of_ok _

theorem PollCourse.checksFirst {result : Except BrokerError LastOperation}
    (h : PollCourse broker i exchanges result) : ChecksFirst (.instance i) exchanges result := by
  cases h with
  | unread | refused => exact .of_all rfl
  | idle | unanswered | unfinished | removed | settled => exact .of_ok _
  | unremoved | unreread | unrefreshed | unsettled => exact .of_error rfl rfl

end Instances

section Bindings

variable {i b : String}

theorem BindCourse.checksFirst {details : BindDetails} {result : Except BrokerError Binding}
    (h : BindCourse broker i b details exchanges result) :
    ChecksFirst (.binding i b) exchanges result := by
  cases h with
  | unchecked | taken | unread | refused => exact .of_all rfl
  | declined | unbuilt | unstored | ungranted => exact .of_error rfl rfl
  | bound | handedOff => exact .of_ok _
  | unrecorded hadmits issued e =>
    unfold unrecordedBinding
    cases hconflict : e.isConflict with
    | false =>
      rw [if_neg Bool.false_ne_true]
      exact .of_error rfl rfl
    | true =>
      rw [if_pos rfl]
      refine .acted ?_
      rintro _ ⟨⟩
      refine ⟨rfl, fun _ ↦ ?_⟩
      exact @Contested.intro _ _ [_, _] [] _ _ rfl (Exchange.ne_some_of_all rfl) rfl hconflict

theorem UnbindCourse.checksFirst {result : Except BrokerError Unit}
    (h : UnbindCourse broker i b exchanges result) :
    ChecksFirst (.binding i b) exchanges result := by
  cases h with
  | unread | instanceUnread | unresolved => exact .of_all rfl
  | uncleared | declined | undeleted => exact .of_error rfl rfl
  | unbound => exact .of_ok _

end Bindings

theorem checksFirst {request : Request} {result : Except BrokerError request.Answer}
    (h : (broker.serve request).Ends exchanges result) :
    ChecksFirst request.subject exchanges result := by
  cases request with
  | provision i details acceptsIncomplete => exact (ProvisionCourse.of_ends h).checksFirst
  | update i details acceptsIncomplete => exact (UpdateCourse.of_ends h).checksFirst
  | deprovision i details acceptsIncomplete => exact (DeprovisionCourse.of_ends h).checksFirst
  | lastOperation i details => exact (PollCourse.of_ends details h).checksFirst
  | bind i b details => exact (BindCourse.of_ends h).checksFirst
  | unbind i b details => exact (UnbindCourse.of_ends details h).checksFirst

/-! ### Parameters that reach a provider -/

/-- The parameters of a request can be read into a map, which a service accepts. -/
structure Request.Fits (request : Request) (definition : ServiceDefinition) : Prop where
  usable : ∀ raw, Parameters.content? request.payload = some raw →
    ∃ tree : Json.Tree, tree.Spells raw ∧ ¬ tree.Unusable
  accepted : ∃ user, Parameters.parse request.payload = .ok user ∧
    ∀ source ∈ request.schema? definition, ∃ schema, Schema.ofJson source = .ok schema ∧
      schema.check (.object user) = []

theorem Request.fits_of_acceptedParameters {request : Request} {definition : ServiceDefinition}
    {user : Members}
    (h : definition.acceptedParameters (request.schema? definition) request.payload = .ok user) :
    request.Fits definition := by
  unfold ServiceDefinition.acceptedParameters at h
  split at h
  next => cases h
  next parsed hparse =>
    split at h
    next => cases h
    next haccepted =>
      refine ⟨fun raw hraw ↦ Parameters.exists_usable_of_parse hraw hparse, parsed, hparse, ?_⟩
      intro source hsource
      rw [Option.mem_def.1 hsource, ServiceDefinition.acceptBy] at haccepted
      split at haccepted
      next => cases haccepted
      next schema hschema =>
        split at haccepted
        next hcheck => exact ⟨schema, hschema, hcheck⟩
        next => cases haccepted

/-- A request that comes without parameters has nothing that a service could refuse. -/
theorem Request.fits_of_none {request : Request} {definition : ServiceDefinition}
    (hpayload : request.payload = none) (hschema : request.schema? definition = none) :
    request.Fits definition := by
  refine ⟨fun raw hraw ↦ ?_, [], ?_, fun source hsource ↦ ?_⟩
  · rw [hpayload] at hraw
    cases hraw
  · rw [hpayload]
    rfl
  · rw [hschema] at hsource
    cases hsource

/-- Only the provider of a service that the request fits is asked. -/
def AsksFitting (broker : Broker) (request : Request) (exchanges : Dialogue) : Prop :=
  ∀ x ∈ exchanges, ∀ serviceId, x.service? = some serviceId →
    ∃ service, broker.registry.resolve serviceId = .ok service ∧ request.Fits service.definition

theorem asksFitting_of_none {request : Request} (h : ∀ x ∈ exchanges, x.service? = none) :
    AsksFitting broker request exchanges := by
  intro x hx serviceId hasked
  rw [h x hx] at hasked
  cases hasked

theorem asksFitting_of_only {request : Request} {serviceId : String} {service : RegisteredService}
    (hresolve : broker.registry.resolve serviceId = .ok service)
    (hfits : request.Fits service.definition)
    (honly : ∀ x ∈ exchanges, x.service? = none ∨ x.service? = some service.definition.id) :
    AsksFitting broker request exchanges := by
  intro x hx asked hasked
  rcases honly x hx with hnone | hsome
  · cases hnone.symm.trans hasked
  · cases hsome.symm.trans hasked
    exact ⟨service, resolve_own_id hresolve, hfits⟩

section Instances

variable {i : String} {acceptsIncomplete : Bool}

theorem fits_of_admitProvision {details : ProvisionDetails} {service : RegisteredService}
    {plan : ServicePlan} {vars : Variables}
    (h : broker.admitProvision i details acceptsIncomplete = .ok (service, plan, vars)) :
    broker.registry.resolve details.serviceId = .ok service ∧
      (Request.provision i details acceptsIncomplete).Fits service.definition := by
  obtain ⟨hresolve, hvars⟩ := admitProvision_ok h
  unfold ServiceDefinition.provisionVariables at hvars
  split at hvars
  next => cases hvars
  next haccepted =>
    exact ⟨registry_resolve_of_resolve hresolve, Request.fits_of_acceptedParameters haccepted⟩

theorem fits_of_admitUpdate {record : InstanceRecord} {details : UpdateDetails}
    {service : RegisteredService} {plan : ServicePlan} {vars : Variables}
    (h : broker.admitUpdate i record details acceptsIncomplete = .ok (service, plan, vars)) :
    broker.registry.resolve record.serviceId = .ok service ∧
      (Request.update i details acceptsIncomplete).Fits service.definition := by
  obtain ⟨hresolve, -, hvars, -⟩ := admitUpdate_ok h
  unfold ServiceDefinition.updateVariables at hvars
  split at hvars
  next => cases hvars
  next haccepted =>
    exact ⟨registry_resolve_of_resolve hresolve, Request.fits_of_acceptedParameters haccepted⟩

theorem fits_of_admitBind {b : String} {record : InstanceRecord} {details : BindDetails}
    {service : RegisteredService} {reader : Option String} {vars : Variables}
    (h : broker.admitBind record b details = .ok (service, reader, vars)) :
    broker.registry.resolve record.serviceId = .ok service ∧
      (Request.bind i b details).Fits service.definition := by
  obtain ⟨plan, hresolve, -, hvars⟩ := admitBind_ok h
  unfold ServiceDefinition.bindVariables at hvars
  split at hvars
  next => cases hvars
  next haccepted =>
    exact ⟨registry_resolve_of_resolve hresolve, Request.fits_of_acceptedParameters haccepted⟩

theorem ProvisionCourse.asksFitting {details : ProvisionDetails}
    {result : Except BrokerError OperationResponse}
    (h : ProvisionCourse broker i details acceptsIncomplete exchanges result) :
    AsksFitting broker (.provision i details acceptsIncomplete) exchanges := by
  cases h with
  | unchecked | taken | refused => exact asksFitting_of_none (Exchange.eq_none_of_all rfl)
  | declined hadmits | unrecorded hadmits | unlogged hadmits | recorded hadmits =>
    obtain ⟨hresolve, hfits⟩ := fits_of_admitProvision hadmits
    exact asksFitting_of_only hresolve hfits (by simp [Provider.Request.serviceId])

theorem UpdateCourse.asksFitting {details : UpdateDetails}
    {result : Except BrokerError OperationResponse}
    (h : UpdateCourse broker i details acceptsIncomplete exchanges result) :
    AsksFitting broker (.update i details acceptsIncomplete) exchanges := by
  cases h with
  | unread | refused => exact asksFitting_of_none (Exchange.eq_none_of_all rfl)
  | declined hadmits | unsaved hadmits | unlogged hadmits | completed hadmits =>
    obtain ⟨hresolve, hfits⟩ := fits_of_admitUpdate hadmits
    exact asksFitting_of_only hresolve hfits (by simp [Provider.Request.serviceId])

theorem DeprovisionCourse.asksFitting {details : DeprovisionDetails}
    {result : Except BrokerError OperationResponse}
    (h : DeprovisionCourse broker i details acceptsIncomplete exchanges result) :
    AsksFitting broker (.deprovision i details acceptsIncomplete) exchanges := by
  cases h with
  | unread | refused => exact asksFitting_of_none (Exchange.eq_none_of_all rfl)
  | declined hadmits | undeleted hadmits | deleted hadmits | unsaved hadmits
  | condemned hadmits =>
    exact asksFitting_of_only (admitDeprovision_ok hadmits).1 (Request.fits_of_none rfl rfl)
      (by simp [Provider.Request.serviceId])

theorem PollCourse.asksFitting {details : PollDetails} {result : Except BrokerError LastOperation}
    (h : PollCourse broker i exchanges result) :
    AsksFitting broker (.lastOperation i details) exchanges := by
  cases h with
  | unread | refused | idle => exact asksFitting_of_none (Exchange.eq_none_of_all rfl)
  | unanswered hadmits | unfinished hadmits | removed hadmits | unremoved hadmits
  | unreread hadmits | unrefreshed hadmits | unsettled hadmits | settled hadmits =>
    exact asksFitting_of_only (admitPoll_ok hadmits).1 (Request.fits_of_none rfl rfl)
      (by simp [Provider.Request.serviceId])

end Instances

section Bindings

variable {i b : String}

theorem BindCourse.asksFitting {details : BindDetails} {result : Except BrokerError Binding}
    (h : BindCourse broker i b details exchanges result) :
    AsksFitting broker (.bind i b details) exchanges := by
  cases h with
  | unchecked | taken | unread | refused =>
    exact asksFitting_of_none (Exchange.eq_none_of_all rfl)
  | declined hadmits | unrecorded hadmits | unbuilt hadmits | bound hadmits | unstored hadmits
  | ungranted hadmits | handedOff hadmits =>
    obtain ⟨hresolve, hfits⟩ := fits_of_admitBind hadmits
    exact asksFitting_of_only hresolve hfits (by simp [Provider.Request.serviceId])

theorem Clearing.service?_eq_none {name : String} {clearing : Dialogue}
    {failure : Option Vault.Error} (h : Clearing broker name clearing failure) :
    ∀ x ∈ clearing, x.service? = none := by
  cases h <;> exact Exchange.eq_none_of_all rfl

theorem UnbindCourse.asksFitting {details : UnbindDetails} {result : Except BrokerError Unit}
    (h : UnbindCourse broker i b exchanges result) :
    AsksFitting broker (.unbind i b details) exchanges := by
  cases h with
  | unread | instanceUnread | unresolved =>
    exact asksFitting_of_none (Exchange.eq_none_of_all rfl)
  | uncleared binding record hresolve hclear =>
    refine asksFitting_of_none ?_
    simpa using hclear.service?_eq_none
  | @declined binding record service hresolve clearing hclear
  | @undeleted binding record service hresolve clearing hclear
  | @unbound binding record service hresolve clearing hclear =>
    refine asksFitting_of_only hresolve (Request.fits_of_none rfl rfl) ?_
    have hcleared : ∀ x ∈ clearing, x.service? = none ∨ x.service? = some service.definition.id :=
      fun x hx ↦ .inl (hclear.service?_eq_none x hx)
    simpa [or_imp, forall_and, Provider.Request.serviceId] using hcleared

end Bindings

theorem asksFitting {request : Request} {result : Except BrokerError request.Answer}
    (h : (broker.serve request).Ends exchanges result) : AsksFitting broker request exchanges := by
  cases request with
  | provision i details acceptsIncomplete => exact (ProvisionCourse.of_ends h).asksFitting
  | update i details acceptsIncomplete => exact (UpdateCourse.of_ends h).asksFitting
  | deprovision i details acceptsIncomplete => exact (DeprovisionCourse.of_ends h).asksFitting
  | lastOperation i details => exact (PollCourse.of_ends details h).asksFitting
  | bind i b details => exact (BindCourse.of_ends h).asksFitting
  | unbind i b details => exact (UnbindCourse.of_ends details h).asksFitting

/-! ### Refusals -/

/-- A call that ends in a refusal has only read. So has one that finds what is asked for there
already, unless the store fails by saying so. No provider is asked on behalf of a service that
the parameters do not fit. -/
theorem reads_only_of_refusal {request : Request} {result : Except BrokerError request.Answer}
    (h : (broker.serve request).Ends exchanges result) :
    (∀ e, result = .error e → e.isRefusal = true → ∀ x ∈ exchanges, x.isReading = true) ∧
      (∀ (setting : Setting) (w w' : World),
        (∀ e, setting.storeFails e → e.isConflict = false) →
        Steps setting.Allows w exchanges w' →
        ∀ e, result = .error e → e.isTaken = true → ∀ x ∈ exchanges, x.isReading = true) ∧
      ∀ x ∈ exchanges, ∀ serviceId, x.service? = some serviceId →
        ∃ service, broker.registry.resolve serviceId = .ok service ∧
          request.Fits service.definition := by
  refine ⟨fun e he hrefusal ↦ ?_, fun setting w w' hfails hsteps e he htaken ↦ ?_, asksFitting h⟩
  · cases checksFirst h with
    | quiet hreads => exact hreads
    | acted hresult => exact absurd (hresult e he).1 (by simp [hrefusal])
  · cases checksFirst h with
    | quiet hreads => exact hreads
    | acted hresult =>
      obtain ⟨failure, hfailure, hconflict⟩ :=
        Setting.fails_of_contested ((hresult e he).2 htaken) hsteps
      exact absurd (hfails failure hfailure) (by simp [hconflict])

/-- A provision of the database service. -/
def databaseProvision (i : String) (rawParameters : Option String) : Request :=
  .provision i { serviceId := "db", planId := "small", rawParameters } true

/-- Parameters that are a list are refused, and so is an instance that is there; parameters that
are a map reach the provider of a service that they fit. -/
theorem reads_only_of_list_and_taken :
    let respond := World.respond "now" databaseProvider
    let call (request : Request) := (databaseBroker false).serve request
    let asked (request : Request) := (call request).trace respond databaseWorld
    let result (request : Request) := ((call request).run respond databaseWorld).1
    ((∃ e, result (databaseProvision "i-2" (some "[1]")) = .error e ∧ e.isRefusal = true) ∧
        ∀ x ∈ asked (databaseProvision "i-2" (some "[1]")), x.isReading = true) ∧
      ((∃ e, result (databaseProvision "i-1" none) = .error e ∧ e.isTaken = true) ∧
        ∀ x ∈ asked (databaseProvision "i-1" none), x.isReading = true) ∧
      (∃ x ∈ asked (databaseProvision "i-2" (some "\x7b\x7d")), x.service? = some "db") ∧
      ∃ service, (databaseBroker false).registry.resolve "db" = .ok service ∧
        (databaseProvision "i-2" (some "\x7b\x7d")).Fits service.definition := by
  intro respond call asked result
  have hends (request : Request) : (call request).Ends (asked request) (result request) :=
    Program.ends_trace respond (call request) databaseWorld
  have hsteps : Steps (Setting.faithful databaseProvider).Allows databaseWorld
      (asked (databaseProvision "i-1" none)) _ :=
    (Program.steps_trace respond (call (databaseProvision "i-1" none)) databaseWorld).mono
      fun _ _ _ h ↦ allows_of_respond "now" databaseProvider h
  have hasked : ∃ x ∈ asked (databaseProvision "i-2" (some "\x7b\x7d")),
      x.service? = some "db" := ⟨_, List.getElem_mem (n := 1) (by decide), rfl⟩
  refine ⟨⟨⟨_, rfl, rfl⟩, ?_⟩, ⟨⟨_, rfl, rfl⟩, ?_⟩, hasked, ?_⟩
  · exact (reads_only_of_refusal (hends (databaseProvision "i-2" (some "[1]")))).1 _ rfl rfl
  · exact (reads_only_of_refusal (hends (databaseProvision "i-1" none))).2.1
      (.faithful databaseProvider) _ _ (fun _ h ↦ h.elim) hsteps _ rfl rfl
  · obtain ⟨x, hx, hservice⟩ := hasked
    exact (reads_only_of_refusal (hends (databaseProvision "i-2" (some "\x7b\x7d")))).2.2 x hx
      "db" hservice

end Broker

end Brokerage
