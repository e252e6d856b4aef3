import Brokerage.Catalog.Registry
import Brokerage.Tool.Catalog
import Mathlib.Data.List.Nodup

/-!
Registering the services of a configuration. The configuration lists every problem there is and the
registry stops at the first fault, but both find one for the same services: those of which one
is invalid or repeats an id. A registry that was built resolves each id to the service that the
configuration finds first, and its catalog is that of the configuration.
-/

set_option autoImplicit false

namespace Brokerage

/-- Services of which none is invalid and no two have one id. -/
structure Registrable (definitions : List ServiceDefinition) : Prop where
  valid : ∀ definition ∈ definitions, definition.problems = []
  distinct : (definitions.map ServiceDefinition.id).Nodup

theorem registrable_cons_iff {definition : ServiceDefinition} {rest : List ServiceDefinition} :
    Registrable (definition :: rest) ↔
      definition.problems = [] ∧ (∀ other ∈ rest, other.id ≠ definition.id) ∧
        Registrable rest := by
  constructor
  · rintro ⟨hvalid, hdistinct⟩
    rw [List.map_cons, List.nodup_cons] at hdistinct
    refine ⟨hvalid definition (List.mem_cons_self ..), ?_, ?_, hdistinct.2⟩
    · exact fun other hother heq ↦ hdistinct.1 (heq ▸ List.mem_map_of_mem hother)
    · exact fun other hother ↦ hvalid other (List.mem_cons_of_mem _ hother)
  · rintro ⟨hproblems, hother, hrest⟩
    refine ⟨List.forall_mem_cons.2 ⟨hproblems, hrest.valid⟩, ?_⟩
    rw [List.map_cons, List.nodup_cons]
    refine ⟨fun hmem ↦ ?_, hrest.distinct⟩
    obtain ⟨other, hmem, hid⟩ := List.mem_map.1 hmem
    exact hother other hmem hid

theorem Registrable.eq_of_id {definitions : List ServiceDefinition} (h : Registrable definitions)
    {first second : ServiceDefinition} (hfirst : first ∈ definitions)
    (hsecond : second ∈ definitions) (hid : first.id = second.id) : first = second :=
  List.inj_on_of_nodup_map h.distinct hfirst hsecond hid

/-! ### Problems of a definition

Every problem of a service names the service, so that none of them reads like the problem of the
vault. -/

/-- A text that begins by naming a service. -/
def NamesService (text : String) : Prop :=
  ∃ rest, text = "service " ++ rest

namespace NamesService

theorem append {text : String} (h : NamesService text) (rest : String) :
    NamesService (text ++ rest) := by
  obtain ⟨before, rfl⟩ := h
  exact ⟨before ++ rest, String.append_assoc ..⟩

theorem of_id (id : String) : NamesService ("service " ++ id) :=
  ⟨id, rfl⟩

theorem of_quote : NamesService "service '" :=
  ⟨"'", rfl⟩

end NamesService

namespace ServiceDefinition

theorem namesService_of_mem_planProblems {serviceId problem : String} {before : List ServicePlan}
    {plan : ServicePlan} (h : problem ∈ planProblems serviceId before plan) :
    NamesService problem := by
  simp only [planProblems, List.mem_append, List.mem_ite_nil_right, List.mem_singleton] at h
  rcases h with (⟨-, rfl⟩ | ⟨-, rfl⟩) | ⟨-, rfl⟩
  · exact ((((NamesService.of_id _).append _).append _).append _)
  · exact (((NamesService.of_id _).append _).append _)
  · exact (((NamesService.of_id _).append _).append _)

theorem namesService_of_mem_allPlanProblems {serviceId problem : String}
    {before plans : List ServicePlan} (h : problem ∈ allPlanProblems serviceId before plans) :
    NamesService problem := by
  induction plans generalizing before with
  | nil => cases h
  | cons plan rest ih =>
    rcases List.mem_append.1 h with hplan | hrest
    · exact namesService_of_mem_planProblems hplan
    · exact ih hrest

theorem namesService_of_mem_schemaProblems {serviceId label problem : String}
    {schema? : Option Json} (h : problem ∈ schemaProblems serviceId label schema?) :
    NamesService problem := by
  unfold schemaProblems at h
  split at h
  next => cases h
  next =>
    split at h
    next => cases h
    next =>
      rw [List.mem_singleton.1 h]
      exact ((((NamesService.of_id _).append _).append _).append _).append _

theorem namesService_of_mem_problems {definition : ServiceDefinition} {problem : String}
    (h : problem ∈ definition.problems) : NamesService problem := by
  simp only [problems, List.mem_append, List.mem_ite_nil_right, List.mem_singleton] at h
  rcases h with ((((⟨-, rfl⟩ | ⟨-, rfl⟩) | ⟨-, rfl⟩) | hplans) | hprovision) | hbind
  · exact (NamesService.of_quote.append _).append _
  · exact (NamesService.of_id _).append _
  · exact (NamesService.of_id _).append _
  · exact namesService_of_mem_allPlanProblems hplans
  · exact namesService_of_mem_schemaProblems hprovision
  · exact namesService_of_mem_schemaProblems hbind

theorem compiles_of_schemaProblems_eq_nil {serviceId label : String} {schema? : Option Json}
    (h : schemaProblems serviceId label schema? = []) :
    ∀ source ∈ schema?, ∃ schema, Schema.ofJson source = .ok schema := by
  rintro source rfl
  simp only [schemaProblems] at h
  split at h
  next schema hschema => exact ⟨schema, hschema⟩
  next => cases h

/-- The schemas of a definition are schemas. -/
structure SchemasUsable (definition : ServiceDefinition) : Prop where
  provision : ∀ source ∈ definition.provisionInput, ∃ schema, Schema.ofJson source = .ok schema
  bind : ∀ source ∈ definition.bindInput, ∃ schema, Schema.ofJson source = .ok schema

theorem schemasUsable_of_valid {definition : ServiceDefinition} (h : definition.problems = []) :
    definition.SchemasUsable := by
  rw [problems, List.append_eq_nil_iff, List.append_eq_nil_iff] at h
  exact ⟨compiles_of_schemaProblems_eq_nil h.1.2, compiles_of_schemaProblems_eq_nil h.2⟩

end ServiceDefinition

/-! ### Problems of a configuration -/

namespace Config

theorem serviceProblems_eq_nil_iff {before : List String} {definitions : List ServiceDefinition} :
    serviceProblems before definitions = [] ↔
      Registrable definitions ∧ ∀ definition ∈ definitions, definition.id ∉ before := by
  induction definitions generalizing before with
  | nil => simp [serviceProblems, Registrable.mk]
  | cons definition rest ih =>
    rw [List.forall_mem_cons]
    simp only [serviceProblems, List.append_eq_nil_iff, ih, registrable_cons_iff, List.mem_cons,
      not_or, List.contains_iff_mem, ite_eq_right_iff, List.cons_ne_self, imp_false]
    constructor
    · rintro ⟨⟨hnew, hproblems⟩, hrest, hlater⟩
      exact ⟨⟨hproblems, fun other hother ↦ (hlater other hother).1, hrest⟩, hnew,
        fun other hother ↦ (hlater other hother).2⟩
    · rintro ⟨⟨hproblems, hother, hrest⟩, hnew, hlater⟩
      exact ⟨⟨hnew, hproblems⟩, hrest, fun other hmem ↦ ⟨hother other hmem, hlater other hmem⟩⟩

theorem namesService_of_mem_serviceProblems {before : List String}
    {definitions : List ServiceDefinition} {problem : String}
    (h : problem ∈ serviceProblems before definitions) : NamesService problem := by
  induction definitions generalizing before with
  | nil => cases h
  | cons definition rest ih =>
    simp only [serviceProblems, List.mem_append, List.mem_ite_nil_right, List.mem_singleton] at h
    rcases h with (⟨-, rfl⟩ | hdefinition) | hrest
    · exact ((NamesService.of_id "id ").append _).append _
    · exact ServiceDefinition.namesService_of_mem_problems hdefinition
    · exact ih hrest

/-- What is said of a vault whose identifier is blank. -/
def blankIdentifier : String := "vault.client_identifier must not be empty"

theorem ne_blankIdentifier_of_namesService {problem : String} (h : NamesService problem) :
    problem ≠ blankIdentifier := by
  obtain ⟨rest, rfl⟩ := h
  intro heq
  have hhead := congrArg (fun text ↦ text.toList.head?) heq
  simp [blankIdentifier] at hhead

theorem mem_vaultProblems_iff {settings : VaultSettings} {problem : String} :
    problem ∈ vaultProblems settings ↔
      settings.enabled = true ∧ Text.isBlank settings.clientIdentifier = true ∧
        problem = blankIdentifier := by
  simp [vaultProblems, blankIdentifier, and_assoc]

/-- The services can be registered just if the configuration has no problem but that of its
vault. -/
theorem registrable_services_iff {config : Config} :
    Registrable config.services ↔ ∀ problem ∈ config.problems, problem = blankIdentifier := by
  have hnil : Registrable config.services ↔ serviceProblems [] config.services = [] := by
    simp [serviceProblems_eq_nil_iff]
  rw [hnil]
  constructor
  · intro hnone problem hproblem
    rw [problems, hnone, List.nil_append] at hproblem
    exact (mem_vaultProblems_iff.1 hproblem).2.2
  · intro hblank
    refine List.eq_nil_iff_forall_not_mem.2 fun problem hproblem ↦ ?_
    exact ne_blankIdentifier_of_namesService (namesService_of_mem_serviceProblems hproblem)
      (hblank problem (List.mem_append_left _ hproblem))

theorem problems_eq_nil_iff {config : Config} :
    config.problems = [] ↔ Registrable config.services ∧
      (config.vault.enabled = false ∨ Text.isBlank config.vault.clientIdentifier = false) := by
  rw [problems, List.append_eq_nil_iff, serviceProblems_eq_nil_iff, vaultProblems]
  cases config.vault.enabled <;> simp

end Config

/-! ### Faults of a registry -/

namespace Registry

/-- The fault of a service that follows services with the given ids. A service that is invalid
and repeats an id is invalid. -/
inductive FaultOf (known : List String) (service : RegisteredService) : RegistryError → Prop
  | invalid (hproblems : service.definition.problems ≠ []) :
    FaultOf known service
      (.invalidDefinition service.definition.id service.definition.problems)
  | repeated (hvalid : service.definition.problems = [])
    (hknown : service.definition.id ∈ known) :
    FaultOf known service (.duplicateService service.definition.id)

theorem FaultOf.of_subset {known other : List String} {service : RegisteredService}
    {fault : RegistryError} (h : FaultOf known service fault) (hsubset : known ⊆ other) :
    FaultOf other service fault := by
  cases h with
  | invalid hproblems => exact .invalid hproblems
  | repeated hvalid hknown => exact .repeated hvalid (hsubset hknown)

/-- The fault of the first service that has one. -/
def FirstFault (services : List RegisteredService) (fault : RegistryError) : Prop :=
  ∃ before service after, services = before ++ service :: after ∧
    Registrable (before.map RegisteredService.definition) ∧
    FaultOf (before.map fun earlier ↦ earlier.definition.id) service fault

theorem firstFault?_cons_eq_some_iff {known : List String} {service : RegisteredService}
    {rest : List RegisteredService} {fault : RegistryError} :
    firstFault? known (service :: rest) = some fault ↔
      FaultOf known service fault ∨
        service.definition.problems = [] ∧ service.definition.id ∉ known ∧
          firstFault? (service.definition.id :: known) rest = some fault := by
  rw [firstFault?]
  split
  next hvalid =>
    by_cases hknown : service.definition.id ∈ known
    · rw [if_pos (List.contains_iff_mem.2 hknown)]
      constructor
      · rintro ⟨⟩
        exact .inl (.repeated hvalid hknown)
      · rintro ((hproblems | -) | ⟨-, hnew, -⟩)
        · exact absurd hvalid hproblems
        · rfl
        · exact absurd hknown hnew
    · rw [if_neg fun hcontains ↦ hknown (List.contains_iff_mem.1 hcontains)]
      constructor
      · exact fun hrest ↦ .inr ⟨hvalid, hknown, hrest⟩
      · rintro ((hproblems | ⟨-, hmem⟩) | ⟨-, -, hrest⟩)
        · exact absurd hvalid hproblems
        · exact absurd hmem hknown
        · exact hrest
  next hinvalid =>
    have hproblems : service.definition.problems ≠ [] := hinvalid
    constructor
    · rintro ⟨⟩
      exact .inl (.invalid hproblems)
    · rintro ((- | hvalid) | ⟨hvalid, -⟩)
      · rfl
      · exact absurd hvalid hproblems
      · exact absurd hvalid hproblems

/-- A scan has no fault to report just if the services can be registered beside the known ones. -/
theorem firstFault?_eq_none_iff {known : List String} {services : List RegisteredService} :
    firstFault? known services = none ↔
      Registrable (services.map RegisteredService.definition) ∧
        ∀ service ∈ services, service.definition.id ∉ known := by
  induction services generalizing known with
  | nil => simp [firstFault?, Registrable.mk]
  | cons service rest ih =>
    rw [firstFault?, List.map_cons, registrable_cons_iff, List.forall_mem_cons,
      List.forall_mem_map]
    split
    next hvalid =>
      simp only [hvalid, true_and, List.contains_iff_mem]
      split
      next hknown => simp [hknown]
      next hnew =>
        simp only [hnew, ih, List.mem_cons, not_or, not_false_eq_true, true_and]
        constructor
        · rintro ⟨hrest, hlater⟩
          exact ⟨⟨fun other hmem ↦ (hlater other hmem).1, hrest⟩,
            fun other hmem ↦ (hlater other hmem).2⟩
        · rintro ⟨⟨hother, hrest⟩, hlater⟩
          exact ⟨hrest, fun other hmem ↦ ⟨hother other hmem, hlater other hmem⟩⟩
    next hinvalid =>
      have hproblems : service.definition.problems ≠ [] := hinvalid
      simp [hproblems]

theorem firstFault?_eq_some_iff {known : List String} {services : List RegisteredService}
    {fault : RegistryError} :
    firstFault? known services = some fault ↔
      ∃ before service after, services = before ++ service :: after ∧
        firstFault? known before = none ∧
        FaultOf (known ++ before.map fun earlier ↦ earlier.definition.id) service fault := by
  induction services generalizing known with
  | nil => simp [firstFault?]
  | cons service rest ih =>
    rw [firstFault?_cons_eq_some_iff, ih]
    constructor
    · rintro (hfault | ⟨hvalid, hnew, before, first, after, rfl, hnone, hfault⟩)
      · exact ⟨[], service, rest, rfl, rfl, by simpa using hfault⟩
      · refine ⟨service :: before, first, after, rfl, ?_, hfault.of_subset (by simp)⟩
        simpa [firstFault?, hvalid, hnew] using hnone
    · rintro ⟨before, first, after, heq, hnone, hfault⟩
      cases before with
      | nil =>
        cases heq
        exact .inl (by simpa using hfault)
      | cons earlier before =>
        cases heq
        have hearlier := firstFault?_eq_none_iff.1 hnone
        rw [List.map_cons, registrable_cons_iff, List.forall_mem_cons] at hearlier
        obtain ⟨⟨hvalid, -⟩, hnew, -⟩ := hearlier
        refine .inr ⟨hvalid, hnew, before, first, after, rfl, ?_, hfault.of_subset (by simp)⟩
        simpa [firstFault?, hvalid, hnew] using hnone

/-! ### Building a registry -/

variable {services : List RegisteredService}

theorem build_eq_ok_iff {registry : Registry} :
    build services = .ok registry ↔
      Registrable (services.map RegisteredService.definition) ∧ registry = ⟨services⟩ := by
  have hnone : firstFault? [] services = none ↔ _ := firstFault?_eq_none_iff
  unfold build
  split
  next hfault =>
    have hnot : ¬ Registrable (services.map RegisteredService.definition) := fun h ↦ by
      simp [hfault, h] at hnone
    simp [hnot]
  next hfault =>
    have hregistrable : Registrable (services.map RegisteredService.definition) :=
      (hnone.1 hfault).1
    simp [hregistrable, eq_comm]

theorem build_eq_error_iff {fault : RegistryError} :
    build services = .error fault ↔ FirstFault services fault := by
  have hsome : firstFault? [] services = some fault ↔ _ := firstFault?_eq_some_iff
  simp only [firstFault?_eq_none_iff, List.not_mem_nil, not_false_eq_true, implies_true, and_true,
    List.nil_append] at hsome
  rw [FirstFault, ← hsome, build]
  split
  next found hfound => simp [hfound]
  next hnone => simp [hnone]

/-- An id has the same definition for a registry and for the configuration of its services. -/
theorem definition_of_resolve {registry : Registry} {config : Config}
    (hservices : registry.services.map RegisteredService.definition = config.services)
    (hregistrable : Registrable config.services) (id : String) :
    (registry.resolve id).toOption.map RegisteredService.definition = config.service? id := by
  have hmem : ∀ service ∈ registry.services, service.definition ∈ config.services :=
    fun service h ↦ hservices ▸ List.mem_map_of_mem h
  cases hresolve : registry.resolve id with
  | ok service =>
    obtain ⟨hservice, rfl⟩ := resolve_ok hresolve
    cases hfound : config.service? service.definition.id with
    | none =>
      have hnone := List.find?_eq_none.1 hfound _ (hmem service hservice)
      simp at hnone
    | some found =>
      have hid : found.id = service.definition.id := by simpa using List.find?_some hfound
      rw [hregistrable.eq_of_id (List.mem_of_find?_eq_some hfound) (hmem service hservice) hid]
      rfl
  | error e =>
    have hnone : registry.index.get? id = none := by
      by_contra hsome
      obtain ⟨position, hposition⟩ := Option.ne_none_iff_exists'.1 hsome
      obtain ⟨service, hservice, -⟩ := getElem?_of_index hposition
      simp [resolve, hposition, hservice] at hresolve
    refine (List.find?_eq_none.2 fun definition hdefinition ↦ ?_).symm
    rw [← hservices] at hdefinition
    obtain ⟨service, hservice, rfl⟩ := List.mem_map.1 hdefinition
    simpa using index_eq_none_iff.1 hnone service hservice

theorem catalog_eq {registry : Registry} {config : Config}
    (hservices : registry.services.map RegisteredService.definition = config.services) :
    registry.catalog = config.catalog := by
  rw [catalog, enabledServices, Config.catalog, ← hservices, List.filter_map, List.map_map]
  rfl

end Registry

end Brokerage
