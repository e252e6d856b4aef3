import Brokerage.Proofs.Course.Bind
import Brokerage.Proofs.Course.Deprovision
import Brokerage.Proofs.Course.LastOperation
import Brokerage.Proofs.Course.Provision
import Brokerage.Proofs.Course.Unbind
import Brokerage.Proofs.Course.Update
import Brokerage.Proofs.Output
import Brokerage.Proofs.Registration
import Brokerage.Proofs.Serving

/-!
A configuration, the check of it and the broker that it sets up. The registry takes the services
that the check has nothing to say about, and a broker with that registry knows the services and
shows the catalog that the configuration does. Its schemas have been tried, so that a call
refuses parameters only for what a schema finds wrong with them.
-/

set_option autoImplicit false

namespace Brokerage

/-! ### Parameters that a service refuses -/

theorem Parameters.ensureWellFormed_error {payload : Option String} {e : BrokerError}
    (h : ensureWellFormed payload = .error e) : ∃ reason, e = .invalidParameters reason := by
  unfold ensureWellFormed at h
  split at h
  next => cases h
  next =>
    split at h
    next => cases h
    next =>
      cases h
      exact ⟨_, rfl⟩

theorem Parameters.parse_error {payload : Option String} {e : BrokerError}
    (h : parse payload = .error e) : ∃ reason, e = .invalidParameters reason := by
  unfold parse at h
  split at h
  next => cases h
  next =>
    split at h
    next =>
      cases h
      exact ⟨_, rfl⟩
    next => cases h
    next => cases h
    next =>
      cases h
      exact ⟨_, rfl⟩

namespace ServiceDefinition

/-- A schema finds the parameters of a payload wrong, for the given reasons. -/
def Unfit (schema? : Option Json) (payload : Option String) (reasons : List String) : Prop :=
  ∃ source schema parameters, schema? = some source ∧ Schema.ofJson source = .ok schema ∧
    Parameters.parse payload = .ok parameters ∧
    reasons = (schema.check (.object parameters)).map Schema.Violation.message ∧ reasons ≠ []

variable {definition : ServiceDefinition} {schema? : Option Json} {payload : Option String}

theorem prohibitedChanges_error {current : String} {details : UpdateDetails} {e : BrokerError}
    (h : definition.prohibitedChanges current details = .error e) :
    ∃ reason, e = .invalidParameters reason := by
  unfold prohibitedChanges at h
  split at h
  next hparse =>
    cases h
    exact Parameters.parse_error hparse
  next => cases h

/-- The variables of an update are refused only for its parameters. -/
theorem updateVariables_error {record : InstanceRecord} {details : UpdateDetails}
    {plan : ServicePlan} {e : BrokerError}
    (h : definition.updateVariables record details plan = .error e) :
    definition.acceptedParameters definition.provisionInput details.rawParameters = .error e := by
  unfold updateVariables at h
  split at h
  next hrefused => rw [hrefused, Except.error.inj h]
  next => cases h

theorem unfit_of_acceptedParameters {id : String} {reasons : List String}
    (husable : ∀ source ∈ schema?, ∃ schema, Schema.ofJson source = .ok schema)
    (h : definition.acceptedParameters schema? payload = .error (.schemaViolation id reasons)) :
    id = definition.id ∧ Unfit schema? payload reasons := by
  unfold acceptedParameters at h
  split at h
  next e hparse =>
    cases h
    obtain ⟨reason, hreason⟩ := Parameters.parse_error hparse
    cases hreason
  next parameters hparse =>
    unfold acceptBy at h
    cases schema? with
    | none => cases h
    | some source =>
      obtain ⟨schema, hschema⟩ := husable source rfl
      simp only [hschema] at h
      cases hviolations : schema.check (.object parameters) with
      | nil =>
        rw [hviolations] at h
        cases h
      | cons violation rest =>
        rw [hviolations] at h
        cases h
        refine ⟨rfl, source, schema, parameters, rfl, hschema, hparse, ?_, ?_⟩
        · rw [hviolations]
        · exact List.cons_ne_nil _ _

end ServiceDefinition

namespace Broker

/-- The schema of a service that the parameters of a request have to fit. -/
def Request.schema? (definition : ServiceDefinition) : Request → Option Json
  | .provision _ _ _ | .update _ _ _ => definition.provisionInput
  | .bind _ _ _ => definition.bindInput
  | .deprovision _ _ _ | .lastOperation _ _ | .unbind _ _ _ => none

/-- The parameters that come with a request. -/
def Request.payload : Request → Option String
  | .provision _ details _ => details.rawParameters
  | .update _ details _ => details.rawParameters
  | .bind _ _ details => details.rawParameters
  | .deprovision _ _ _ | .lastOperation _ _ | .unbind _ _ _ => none

theorem Request.usable_schema? {definition : ServiceDefinition} (h : definition.SchemasUsable)
    (request : Request) :
    ∀ source ∈ request.schema? definition, ∃ schema, Schema.ofJson source = .ok schema := by
  cases request with
  | provision | update => exact h.provision
  | bind => exact h.bind
  | deprovision | lastOperation | unbind => exact fun source hsource ↦ nomatch hsource

/-- The named service of a broker finds the parameters of a request wrong. -/
def Finds (broker : Broker) (request : Request) (serviceId : String) (reasons : List String) :
    Prop :=
  ∃ service ∈ broker.registry.services, service.definition.id = serviceId ∧
    ServiceDefinition.Unfit (request.schema? service.definition) request.payload reasons

variable {broker : Broker} {serviceId : String} {reasons : List String}

theorem registry_resolve_error {registry : Registry} {id : String} {e : BrokerError}
    (h : registry.resolve id = .error e) : e = .serviceNotFound id := by
  unfold Registry.resolve at h
  split at h
  next => cases h
  next =>
    cases h
    rfl

theorem kind_of_resolve_error {id planId : String} {e : BrokerError}
    (h : broker.resolve id planId = .error e) : e.kind = .notFound := by
  unfold resolve at h
  split at h
  next hservice =>
    cases h
    rw [registry_resolve_error hservice]
    rfl
  next =>
    split at h
    next hplan =>
      cases h
      unfold ServiceDefinition.resolvePlan at hplan
      split at hplan
      next => cases hplan
      next =>
        cases hplan
        rfl
    next => cases h

theorem unreadInstance_ne_schemaViolation (i : String) (e : Store.Error) :
    unreadInstance i e ≠ .schemaViolation serviceId reasons := by
  unfold unreadInstance
  split <;> simp

theorem admitDeprovision_ne_schemaViolation {i : String} {record : InstanceRecord}
    {acceptsIncomplete : Bool} :
    broker.admitDeprovision i record acceptsIncomplete ≠
      .error (.schemaViolation serviceId reasons) := by
  intro h
  unfold admitDeprovision at h
  split at h
  next hresolve =>
    cases h
    cases registry_resolve_error hresolve
  next =>
    split at h
    next => cases h
    next => split at h <;> cases h

theorem admitPoll_ne_schemaViolation {record : InstanceRecord} :
    broker.admitPoll record ≠ .error (.schemaViolation serviceId reasons) := by
  intro h
  unfold admitPoll at h
  split at h
  next hresolve =>
    cases h
    cases registry_resolve_error hresolve
  next => split at h <;> cases h

section Admission

variable (husable : ∀ service ∈ broker.registry.services, service.definition.SchemasUsable)
include husable

/-- What the schema of a resolved service finds is what the broker finds. -/
theorem finds_of_acceptedParameters {id planId : String} {service : RegisteredService}
    {plan : ServicePlan} {request : Request}
    (hresolve : broker.resolve id planId = .ok (service, plan))
    (haccepted : service.definition.acceptedParameters (request.schema? service.definition)
      request.payload = .error (.schemaViolation serviceId reasons)) :
    broker.Finds request serviceId reasons := by
  have hmem := (Registry.resolve_ok (registry_resolve_of_resolve hresolve)).1
  obtain ⟨hid, hunfit⟩ := ServiceDefinition.unfit_of_acceptedParameters
    (request.usable_schema? (husable service hmem)) haccepted
  exact ⟨service, hmem, hid.symm, hunfit⟩

theorem finds_of_admitProvision {i : String} {details : ProvisionDetails}
    {acceptsIncomplete : Bool}
    (h : broker.admitProvision i details acceptsIncomplete
      = .error (.schemaViolation serviceId reasons)) :
    broker.Finds (.provision i details acceptsIncomplete) serviceId reasons := by
  unfold admitProvision at h
  split at h
  next hresolve =>
    cases h
    cases kind_of_resolve_error hresolve
  next service plan hresolve =>
    split at h
    next => cases h
    next =>
      split at h
      next hformed =>
        cases h
        obtain ⟨reason, hreason⟩ := Parameters.ensureWellFormed_error hformed
        cases hreason
      next =>
        split at h
        next hvars =>
          cases h
          unfold ServiceDefinition.provisionVariables at hvars
          split at hvars
          next haccepted =>
            cases hvars
            exact finds_of_acceptedParameters husable hresolve haccepted
          next => cases hvars
        next => cases h

theorem finds_of_admitUpdate {i : String} {record : InstanceRecord} {details : UpdateDetails}
    {acceptsIncomplete : Bool}
    (h : broker.admitUpdate i record details acceptsIncomplete
      = .error (.schemaViolation serviceId reasons)) :
    broker.Finds (.update i details acceptsIncomplete) serviceId reasons := by
  cases admitUpdate_error h with
  | unresolved hresolve => cases kind_of_resolve_error hresolve
  | malformed hformed =>
    obtain ⟨reason, hreason⟩ := Parameters.ensureWellFormed_error hformed
    cases hreason
  | uncompared hchanges =>
    obtain ⟨reason, hreason⟩ := ServiceDefinition.prohibitedChanges_error hchanges
    cases hreason
  | unvaried hresolve hvars =>
    exact finds_of_acceptedParameters husable hresolve
      (ServiceDefinition.updateVariables_error hvars)

theorem finds_of_admitBind {i b : String} {record : InstanceRecord} {details : BindDetails}
    (h : broker.admitBind record b details = .error (.schemaViolation serviceId reasons)) :
    broker.Finds (.bind i b details) serviceId reasons := by
  unfold admitBind at h
  split at h
  next hresolve =>
    cases h
    cases kind_of_resolve_error hresolve
  next service plan hresolve =>
    split at h
    next hformed =>
      cases h
      obtain ⟨reason, hreason⟩ := Parameters.ensureWellFormed_error hformed
      cases hreason
    next =>
      split at h
      next hreader =>
        cases h
        unfold vaultReader at hreader
        split at hreader
        next => split at hreader <;> cases hreader
        next => cases hreader
      next =>
        split at h
        next hvars =>
          cases h
          unfold ServiceDefinition.bindVariables at hvars
          split at hvars
          next haccepted =>
            cases hvars
            exact finds_of_acceptedParameters husable hresolve haccepted
          next => cases hvars
        next => cases h

theorem finds_of_ends {request : Request} {exchanges : Dialogue}
    (h : (broker.serve request).Ends exchanges (.error (.schemaViolation serviceId reasons))) :
    broker.Finds request serviceId reasons := by
  -- of all the ways a call can end only a refusal before the provider is asked can be of this kind
  generalize hresult : Except.error (BrokerError.schemaViolation serviceId reasons) = result at h
  cases request with
  | provision i details acceptsIncomplete =>
    cases ProvisionCourse.of_ends h with
    | refused hadmits =>
      cases hresult
      exact finds_of_admitProvision husable hadmits
    | unrecorded _ _ e =>
      split at hresult <;> cases hresult
    | _ => cases hresult
  | update i details acceptsIncomplete =>
    cases UpdateCourse.of_ends h with
    | refused hadmits =>
      cases hresult
      exact finds_of_admitUpdate husable hadmits
    | unread e =>
      exact absurd (Except.error.inj hresult).symm (unreadInstance_ne_schemaViolation i e)
    | _ => cases hresult
  | deprovision i details acceptsIncomplete =>
    cases DeprovisionCourse.of_ends h with
    | refused hadmits =>
      cases hresult
      exact absurd hadmits admitDeprovision_ne_schemaViolation
    | unread e =>
      exact absurd (Except.error.inj hresult).symm (unreadInstance_ne_schemaViolation i e)
    | _ => cases hresult
  | lastOperation i details =>
    cases PollCourse.of_ends details h with
    | refused hadmits =>
      cases hresult
      exact absurd hadmits admitPoll_ne_schemaViolation
    | unread e =>
      exact absurd (Except.error.inj hresult).symm (unreadInstance_ne_schemaViolation i e)
    | _ => cases hresult
  | bind i b details =>
    cases BindCourse.of_ends h with
    | refused hadmits =>
      cases hresult
      exact finds_of_admitBind husable hadmits
    | unread e =>
      exact absurd (Except.error.inj hresult).symm (unreadInstance_ne_schemaViolation i e)
    | unrecorded hadmits issued e =>
      unfold unrecordedBinding at hresult
      split at hresult <;> cases hresult
    | _ => cases hresult
  | unbind i b details =>
    cases UnbindCourse.of_ends details h with
    | unread e =>
      unfold unreadBinding at hresult
      split at hresult <;> cases hresult
    | instanceUnread binding e =>
      exact absurd (Except.error.inj hresult).symm (unreadInstance_ne_schemaViolation i e)
    | unresolved binding record hresolve =>
      cases hresult
      cases registry_resolve_error hresolve
    | _ => cases hresult

end Admission

end Broker

/-! ### The registry of a configuration -/

/-- A registry gives to everyone who asks what the configuration of its services says. -/
structure Registry.Mirrors (registry : Registry) (config : Config) : Prop where
  /-- An id has the same definition for both, or none for either. -/
  resolves : ∀ id, (registry.resolve id).toOption.map RegisteredService.definition
    = config.service? id
  /-- The catalog has the enabled services in the order in which they were registered, and of each
  it shows what its definition says. -/
  catalog : registry.catalog = (config.services.filter ServiceDefinition.enabled).map
    fun definition ↦
      { id := definition.id, name := definition.name, description := definition.description
        bindable := definition.bindable, planUpdateable := definition.planUpdateable
        tags := definition.tags
        plans := definition.plans.map fun plan ↦
          { id := plan.id, name := plan.name, description := plan.description, free := plan.free } }
  /-- The catalog is what the tool prints, and all it prints. -/
  shown : ∀ manner,
    let report := Tool.Command.catalog.report manner config
    report.exitCode = 0 ∧ Tool.ShowsCatalog registry.catalog report.output manner ∧
      report.complaint = ""
  usable : ∀ service ∈ registry.services, service.definition.SchemasUsable
  /-- Parameters are refused only for what a schema finds wrong with them. -/
  refuses : ∀ (broker : Broker) (request : Broker.Request) (exchanges : Dialogue)
    (serviceId : String) (reasons : List String), broker.registry = registry →
      (broker.serve request).Ends exchanges (.error (.schemaViolation serviceId reasons)) →
      broker.Finds request serviceId reasons

theorem Registry.mirrors_of_registrable {registry : Registry} {config : Config}
    (hservices : registry.services.map RegisteredService.definition = config.services)
    (hregistrable : Registrable config.services) : registry.Mirrors config := by
  have hcatalog : registry.catalog = config.catalog := Registry.catalog_eq hservices
  have husable : ∀ service ∈ registry.services, service.definition.SchemasUsable :=
    fun service hmem ↦ ServiceDefinition.schemasUsable_of_valid
      (hregistrable.valid _ (hservices ▸ List.mem_map_of_mem hmem))
  refine ⟨definition_of_resolve hservices hregistrable, hcatalog, fun manner ↦ ?_, husable, ?_⟩
  · rw [hcatalog]
    exact ⟨rfl, Tool.showsCatalog_catalogLines config.catalog manner, rfl⟩
  · rintro broker request exchanges serviceId reasons rfl h
    exact Broker.finds_of_ends husable h

theorem Tool.exitCode_check_eq_zero_iff {manner : Manner} {config : Config} :
    (check manner config).exitCode = 0 ↔ config.problems = [] := by
  unfold check
  split
  next hnone => simp [hnone, Report.success]
  next hsome => exact iff_of_false (by simp [Report.failure]) hsome

/-- A configuration is accepted by the registry of its services just if it has no problem but,
perhaps, that of its vault, and it is checked as valid if it has not even that. The registry
refuses services for the first fault there is among them, and mirrors the configuration once
it accepts them. -/
theorem Registry.build_agrees {config : Config} {services : List RegisteredService}
    (hservices : services.map RegisteredService.definition = config.services) :
    ((∃ registry, build services = .ok registry) ↔
        ∀ problem ∈ config.problems, problem = Config.blankIdentifier) ∧
      (∀ manner, (Tool.Command.check.report manner config).exitCode = 0 ↔
        (∃ registry, build services = .ok registry) ∧
          (config.vault.enabled = false ∨
            Text.isBlank config.vault.clientIdentifier = false)) ∧
      (∀ fault, build services = .error fault ↔ FirstFault services fault) ∧
      ∀ registry, build services = .ok registry → registry.Mirrors config := by
  have hbuilt : (∃ registry, build services = .ok registry) ↔ Registrable config.services := by
    simp [build_eq_ok_iff, hservices]
  refine ⟨hbuilt.trans Config.registrable_services_iff, fun manner ↦ ?_, fun fault ↦
    build_eq_error_iff, fun registry hregistry ↦ ?_⟩
  · rw [hbuilt, ← Config.problems_eq_nil_iff]
    exact Tool.exitCode_check_eq_zero_iff
  · obtain ⟨hregistrable, rfl⟩ := build_eq_ok_iff.1 hregistry
    exact mirrors_of_registrable hservices (hservices ▸ hregistrable)

/-- A service that is no longer offered. -/
def retiredService : RegisteredService where
  definition :=
    { id := "legacy", name := "legacy database", enabled := false
      plans := [{ id := "only", name := "only" }] }

theorem Registry.mirrors_of_database_and_retired :
    build [Broker.databaseService, retiredService]
        = .ok ⟨[Broker.databaseService, retiredService]⟩ ∧
      Registry.Mirrors ⟨[Broker.databaseService, retiredService]⟩
        { services := [Broker.databaseService.definition, retiredService.definition] } := by
  have hbuild : build [Broker.databaseService, retiredService]
      = .ok ⟨[Broker.databaseService, retiredService]⟩ := by rfl
  exact ⟨hbuild, (build_agrees rfl).2.2.2 _ hbuild⟩

end Brokerage
