import Brokerage.Proofs.Configuration
import Brokerage.Proofs.Output

/-!
A dry run beside the provision it stands for. The dry run looks a service up among those of the
configuration and the broker in a registry that was built from them; from there on both check the
same things in the same order, and only the provision goes on to ask a provider. Both are compared
with one decision, `admitProvision`: the dry run shows what it admits or why it refuses, and the
provision asks the provider with the one and returns the other.
-/

set_option autoImplicit false

namespace Brokerage

/-- The service whose provider is asked to provision an instance, and the variables it is told. -/
def Exchange.provisions? : Exchange Action.Reply → Option (String × Variables)
  | ⟨.provider (.provision serviceId vars), _⟩ => some (serviceId, vars)
  | _ => none

namespace Broker

variable {broker : Broker}

/-! ### What a dry run finds -/

/-- A dry run finds what the broker decides about a provision that may be answered later, so that
no service is refused for being slow. -/
theorem preview_eq_admitProvision {config : Config}
    (hservices : broker.registry.services.map RegisteredService.definition = config.services)
    (hregistrable : Registrable config.services) (prospect : Prospect) :
    config.preview prospect =
      (broker.admitProvision prospect.instanceId prospect.details true).map (·.2.2) := by
  rw [Config.preview, ← Registry.definition_of_resolve hservices hregistrable, admitProvision,
    resolve, show prospect.details.serviceId = prospect.serviceId from rfl]
  cases hservice : broker.registry.resolve prospect.serviceId with
  | error e =>
    rw [registry_resolve_error hservice]
    rfl
  | ok service =>
    simp only [Except.toOption, Option.map_some, Bool.not_true, Bool.and_false,
      Bool.false_eq_true, if_false, Prospect.details]
    cases service.definition.resolvePlan prospect.planId with
    | error e => rfl
    | ok plan =>
      cases Parameters.ensureWellFormed prospect.parameters with
      | error e => rfl
      | ok _ =>
        simp only
        cases service.definition.provisionVariables _ _ plan <;> rfl

/-! ### What a provision asks -/

/-- All that a dialogue asks providers to provision. -/
def provisions (exchanges : Dialogue) : List (String × Variables) :=
  exchanges.filterMap Exchange.provisions?

/-- Where the store does not fail and has no record of the instance, a provision that is admitted
asks the provider once, and one that is refused asks nothing and returns the reason. -/
theorem ProvisionCourse.provisions_of_absent {i : String} {details : ProvisionDetails}
    {acceptsIncomplete : Bool} {exchanges : Dialogue}
    {result : Except BrokerError OperationResponse} {setting : Setting} {w w' : World}
    (h : ProvisionCourse broker i details acceptsIncomplete exchanges result)
    (hhealthy : ∀ e, ¬ setting.storeFails e) (habsent : w.store.instances.get? i = none)
    (hsteps : Steps setting.Allows w exchanges w') :
    (∃ service plan vars,
      broker.admitProvision i details acceptsIncomplete = .ok (service, plan, vars) ∧
        provisions exchanges = [(service.definition.id, vars)]) ∨
    ∃ e, broker.admitProvision i details acceptsIncomplete = .error e ∧
      provisions exchanges = [] ∧ result = .error e := by
  cases h with
  | unchecked e =>
    have hchecked := (Steps.singleton_iff.1 hsteps).answers
    exact absurd hchecked.instanceExists_error (hhealthy e)
  | taken =>
    have hfound := (Steps.singleton_iff.1 hsteps).answers.instanceExists_ok
    simp [habsent] at hfound
  | refused hadmits => exact .inr ⟨_, hadmits, rfl, rfl⟩
  | declined hadmits | unrecorded hadmits | unlogged hadmits | recorded hadmits =>
    exact .inl ⟨_, _, _, hadmits, rfl⟩

end Broker

/-! ### What is reported -/

namespace Tool

/-- A dry run shows the variables it finds, or gives the reason why it finds none. -/
theorem report_of_preview {invocation : Invocation} {prospect : Prospect}
    {found : Except Config.ReadFailure ByteArray} {identifier : Option String} {config : Config}
    (hcommand : invocation.command = .preview prospect)
    (hload : Config.load invocation.path found identifier = .ok config) :
    invocation.report found identifier =
      match config.preview prospect with
      | .ok vars => .success (variableLines invocation.manner.format vars)
      | .error e => .refusal invocation.manner e.message := by
  simp only [Invocation.report, hload, hcommand, Command.report, Tool.preview]
  cases config.preview prospect <;> rfl

/-- A dry run of a loaded configuration agrees with a provision of an instance that is not recorded,
by a broker of the same services, for a caller that accepts an answer later and names no space and
no organization. The provision can be served, and however it is, the dry run succeeds exactly if
the provision asks a provider, which it then asks only for the service of the prospect and with the
variables that the dry run prints, and the dry run prints nothing else; otherwise the dry run fails
and all it prints is the error that the provision returns. The provider and the vault may do
anything, and whether a provider is slow makes no difference.
Assumes: a store that does not fail, and some reply to whatever is asked. -/
theorem dryRun_agrees_with_provision {invocation : Invocation} {prospect : Prospect}
    {found : Except Config.ReadFailure ByteArray} {identifier : Option String} {config : Config}
    {services : List RegisteredService} {broker : Broker} {setting : Setting} {w : World}
    (hcommand : invocation.command = .preview prospect)
    (hquiet : invocation.manner.quiet = false)
    (hload : Config.load invocation.path found identifier = .ok config)
    (hservices : services.map RegisteredService.definition = config.services)
    (hbuild : Registry.build services = .ok broker.registry)
    (hhealthy : ∀ e, ¬ setting.storeFails e) (hresponds : setting.Responds)
    (habsent : w.store.instances.get? prospect.instanceId = none) :
    let report := invocation.report found identifier
    let request := Broker.Request.provision prospect.instanceId prospect.details true
    (∃ exchanges result w', broker.Serves setting w ⟨request, exchanges, result⟩ w') ∧
    ∀ exchanges result w', broker.Serves setting w ⟨request, exchanges, result⟩ w' →
      (report.exitCode = 0 ↔ Broker.provisions exchanges ≠ []) ∧
      (∀ serviceId vars, (serviceId, vars) ∈ Broker.provisions exchanges →
        serviceId = prospect.serviceId ∧
          ShowsVariables vars report.output invocation.manner.format ∧ report.complaint = "") ∧
      (Broker.provisions exchanges = [] → ∃ e, result = .error e ∧ report.exitCode = 1 ∧
        GivesReason e.message report.complaint invocation.manner.format ∧
          report.output = "") := by
  intro report request
  refine ⟨Broker.Serves.exists_of_responds hresponds broker request w,
    fun exchanges result w' hserves ↦ ?_⟩
  obtain ⟨hregistrable, hregistry⟩ := Registry.build_eq_ok_iff.1 hbuild
  have hlisted : broker.registry.services.map RegisteredService.definition = config.services := by
    rw [hregistry, hservices]
  have hpreview := Broker.preview_eq_admitProvision hlisted (hservices ▸ hregistrable) prospect
  have hreport : report = _ := report_of_preview hcommand hload
  rw [hpreview] at hreport
  have hcourse := Broker.ProvisionCourse.of_ends hserves.1
  rcases hcourse.provisions_of_absent hhealthy habsent hserves.2 with
    ⟨service, plan, vars, hadmits, hasked⟩ | ⟨e, hadmits, hasked, hresult⟩
  · have hservice := Broker.registry_resolve_of_resolve (Broker.admitProvision_ok hadmits).1
    have hid : service.definition.id = prospect.serviceId := (Registry.resolve_ok hservice).2
    have hshown : report = .success (variableLines invocation.manner.format vars) := by
      rw [hreport, hadmits]
      rfl
    rw [hasked, hshown, hid]
    refine ⟨by simp [Report.success], fun serviceId others hmem ↦ ?_, by simp⟩
    cases List.mem_singleton.1 hmem
    exact ⟨rfl, showsVariables_variableLines vars invocation.manner.format, rfl⟩
  · have hrefused : report = .refusal invocation.manner e.message := by
      rw [hreport, hadmits]
      rfl
    rw [hasked, hrefused, exitCode_refusal]
    exact ⟨by simp, by simp, fun _ ↦
      ⟨e, hresult, rfl, givesReason_refusal hquiet e.message, output_refusal _ _⟩⟩

/-- A file with the database service. -/
def databaseFile : Except Config.ReadFailure ByteArray :=
  .ok ("[[services]]\nid = \"db\"\nname = \"database\"\n" ++
    "[[services.plans]]\nid = \"small\"\nname = \"small\"\n").toUTF8

theorem load_databaseFile :
    Config.load "broker.toml" databaseFile none =
      .ok { services := [Broker.databaseService.definition] } := by
  have hloaded : (Config.load "broker.toml" databaseFile none).toOption =
      some { services := [Broker.databaseService.definition] } := by
    decide +kernel
  generalize Config.load "broker.toml" databaseFile none = loaded at hloaded ⊢
  cases loaded with
  | error failure => cases hloaded
  | ok config => exact congrArg Except.ok (Option.some.inj hloaded)

/-- A dry run beside that file. -/
def databaseDryRun (prospect : Prospect) : Invocation :=
  { command := .preview prospect, path := "broker.toml" }

theorem report_databaseDryRun (prospect : Prospect) :
    (databaseDryRun prospect).report databaseFile none =
      preview {} prospect { services := [Broker.databaseService.definition] } := by
  rw [Invocation.report, databaseDryRun, load_databaseFile]
  rfl

/-- An instance that can be provisioned. -/
def sizedDatabase : Prospect :=
  { serviceId := "db", planId := "small", parameters := some "\x7b\"size\": 2\x7d" }

theorem report_sizedDatabase :
    (databaseDryRun sizedDatabase).report databaseFile none =
      ⟨0, "instance_id = \"dry-run\"\norganization_guid = \"\"\nplan_id = \"small\"\n" ++
        "service_id = \"db\"\nsize = 2\nspace_guid = \"\"\n", ""⟩ :=
  (report_databaseDryRun sizedDatabase).trans (by decide +kernel)

/-- An instance of a plan that is not there, with parameters that are not JSON. -/
def wrongDatabase : Prospect :=
  { serviceId := "db", planId := "large", parameters := some "[1" }

theorem report_wrongDatabase :
    (databaseDryRun wrongDatabase).report databaseFile none =
      ⟨1, "", "plan large does not exist on service db\n"⟩ :=
  (report_databaseDryRun wrongDatabase).trans (by decide +kernel)

/-- The provider of a database is asked for what the dry run prints of it, and where both the plan
and the parameters are wrong, the dry run and the provision refuse the plan. -/
theorem dryRun_agrees_with_provision_database :
    let serves prospect exchanges result w' :=
      (Broker.databaseBroker false).Serves (.faithful Broker.databaseProvider) {}
        ⟨.provision prospect.instanceId prospect.details true, exchanges, result⟩ w'
    (∀ exchanges result w', serves sizedDatabase exchanges result w' →
      ∃ vars, ("db", vars) ∈ Broker.provisions exchanges ∧
        ShowsVariables vars ((databaseDryRun sizedDatabase).report databaseFile none).output
          .text) ∧
    ∀ exchanges result w', serves wrongDatabase exchanges result w' →
      Broker.provisions exchanges = [] ∧ ∃ e, result = .error e ∧
        e.message ++ "\n" = "plan large does not exist on service db\n" := by
  intro serves
  have hagrees (prospect : Prospect) :=
    @dryRun_agrees_with_provision (databaseDryRun prospect) prospect databaseFile none _
      [Broker.databaseService] (Broker.databaseBroker false) (.faithful Broker.databaseProvider) {}
      rfl rfl load_databaseFile rfl rfl (fun _ ↦ id)
      (Setting.responds_faithful Broker.databaseProvider) rfl
  constructor
  · intro exchanges result w' hserves
    obtain ⟨hexit, hshows, -⟩ := (hagrees sizedDatabase).2 exchanges result w' hserves
    rw [report_sizedDatabase] at hexit
    obtain ⟨⟨serviceId, vars⟩, hasked⟩ := List.exists_mem_of_ne_nil _ (hexit.1 rfl)
    obtain ⟨rfl, hshown, -⟩ := hshows serviceId vars hasked
    exact ⟨vars, hasked, hshown⟩
  · intro exchanges result w' hserves
    obtain ⟨hexit, -, hcomplains⟩ := (hagrees wrongDatabase).2 exchanges result w' hserves
    rw [report_wrongDatabase] at hexit hcomplains
    have hnone : Broker.provisions exchanges = [] := by
      by_contra hasked
      cases hexit.2 hasked
    obtain ⟨e, hresult, -, hreason, -⟩ := hcomplains hnone
    exact ⟨hnone, e, hresult, hreason.symm⟩

end Tool

end Brokerage
