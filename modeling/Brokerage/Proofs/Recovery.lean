import Brokerage.Proofs.Atomicity
import Brokerage.Proofs.HandOff

/-!
How a binding that was left half made is put right. Whatever lies under the name of its
credentials, an unbind clears the name and deletes the record, and a bind can then hand new
credentials off. The unbind clears the name that the binding has from the service it was made for;
the bind uses the name that it has from the service of the instance. Where these are one name, only
the application of the new binding may read it; where they are two, so may every application that
already could.
-/

set_option autoImplicit false

namespace Brokerage.Broker

variable {broker : Broker} {i b : String} {setting : Setting} {w w' : World}
  {exchanges : Dialogue}

/-! ### The unbind -/

/-- A binding is deleted and a name cleared, and all else is as it was. -/
structure Unbinds (i b name : String) (w w' : World) : Prop where
  store : w'.store = { w.store with bindings := w.store.bindings.remove (i, b) }
  vault : ∀ n, w'.vault.get? n = if n = name then none else w.vault.get? n

theorem Unbinds.binding {name : String} (h : Unbinds i b name w w') :
    w'.store.bindings.get? (i, b) = none := by
  rw [h.store, Table.get?_remove, if_pos rfl]

section Unbind

variable {binding : BindingRecord} {record : InstanceRecord} {service : RegisteredService}
  (hvault : broker.hasVault = true) (hmemory : setting.VaultInMemory)
  (hhealthy : ∀ e, ¬ setting.storeFails e)

include hvault hmemory in
/-- Clearing a name and having the provider revoke credentials leaves the records alone. -/
theorem Clearing.of_revoked {name : String} {clearing rest : Dialogue} {q : Provider.Request}
    {reply : q.Reply} (h : Clearing broker name clearing none)
    (hsteps : Steps setting.Allows w (clearing ++ .provider q reply :: rest) w') :
    setting.provider q reply ∧ ∃ v, v.store = w.store ∧
      (∀ n, v.vault.get? n = if n = name then none else w.vault.get? n) ∧
      Steps setting.Allows v rest w' := by
  obtain ⟨v, hclearing, hasked⟩ := Steps.append_iff.1 hsteps
  obtain ⟨hanswer, hrest⟩ := Setting.steps_provider_iff.1 hasked
  obtain ⟨-, -, -, hentries⟩ := h.get?_vault hvault hmemory hclearing
  exact ⟨hanswer, v, Setting.store_eq_of_steps hclearing h.any_writes, hentries, hrest⟩

include hvault hmemory hhealthy in
/-- An unbind of a recorded binding of a recorded instance goes all the way, whatever the vault
holds. -/
theorem UnbindCourse.unbinds {result : Except BrokerError Unit}
    (h : UnbindCourse broker i b exchanges result)
    (hbinding : w.store.bindings.get? (i, b) = some binding)
    (hinstance : w.store.instances.get? i = some record)
    (hresolve : broker.registry.resolve binding.serviceId = .ok service)
    (hrevokes : ∀ reply,
      setting.provider (.unbind service.definition.id record binding) reply → reply = .ok ())
    (hsteps : Steps setting.Allows w exchanges w') :
    result = .ok () ∧ Unbinds i b (broker.credentialNameFor service b) w w' := by
  have hloaded {read : BindingRecord} {found : InstanceRecord} {rest : Dialogue}
      (h : Steps setting.Allows w (.store (.getBinding i b) (.ok read) ::
        .store (.getInstance i) (.ok found) :: rest) w') :
      binding = read ∧ record = found ∧ Steps setting.Allows w rest w' := by
    rw [Setting.steps_getBinding_iff, Setting.steps_getInstance_iff] at h
    obtain ⟨hread, hfound, hrest⟩ := h
    exact ⟨Option.some.inj (hbinding.symm.trans hread),
      Option.some.inj (hinstance.symm.trans hfound), hrest⟩
  cases h with
  | unread e =>
    have hread := (Steps.singleton_iff.1 hsteps).answers
    exact absurd (hread.getBinding_error hbinding) (hhealthy e)
  | instanceUnread read e =>
    have hread := (Steps.singleton_iff.1 (Setting.steps_getBinding_iff.1 hsteps).2).answers
    rcases hread.getInstance_error with hfails | ⟨habsent, -⟩
    · exact absurd hfails (hhealthy e)
    · cases hinstance.symm.trans habsent
  | unresolved _ _ herror =>
    obtain ⟨rfl, -⟩ := hloaded hsteps
    cases hresolve.symm.trans herror
  | uncleared _ _ _ hclear =>
    obtain ⟨-, -, hclearing⟩ := hloaded hsteps
    obtain ⟨hnone, -⟩ := hclear.get?_vault hvault hmemory hclearing
    cases hnone
  | declined _ _ hfound hclear e =>
    obtain ⟨rfl, rfl, hrest⟩ := hloaded hsteps
    cases hresolve.symm.trans hfound
    cases hrevokes _ (hclear.of_revoked hvault hmemory hrest).1
  | undeleted _ _ _ hclear e =>
    obtain ⟨-, -, hrest⟩ := hloaded hsteps
    obtain ⟨-, v, hstore, -, hdeletion⟩ := hclear.of_revoked hvault hmemory hrest
    have hdeleted := (Steps.singleton_iff.1 hdeletion).answers
    exact absurd (hdeleted.deleteBinding_error (hstore ▸ hbinding)) (hhealthy e)
  | unbound _ _ hfound hclear =>
    obtain ⟨rfl, -, hrest⟩ := hloaded hsteps
    cases hresolve.symm.trans hfound
    obtain ⟨-, v, hstore, hentries, hdeletion⟩ := hclear.of_revoked hvault hmemory hrest
    obtain ⟨after, hanswer, rfl⟩ := Setting.allows_store_iff.1 (Steps.singleton_iff.1 hdeletion)
    obtain ⟨-, hafter⟩ := hanswer.deleteBinding_ok
    exact ⟨rfl, hafter.trans (by rw [hstore]), hentries⟩

end Unbind

/-! ### The bind -/

/-- A binding is recorded and its credentials handed off, and all else is as it was. -/
structure Rebinds (bound : BindingRecord) (handOff : HandOff) (w w' : World) : Prop where
  store : ∃ now, w'.store = { w.store with
    bindings := w.store.bindings.put handOff.pair { bound with createdAt := now } }
  vault : ∀ n, w'.vault.get? n =
    if n = handOff.name then some (handOff.entry (w.vault.get? n)) else w.vault.get? n

/-- After a hand-off its credentials are under the name; only its application may read them exactly
when no other one could before. -/
theorem Rebinds.exactly_iff {bound : BindingRecord} {handOff : HandOff}
    (h : Rebinds bound handOff w w') :
    HoldsExactly w'.vault handOff.name handOff.app handOff.credentials ↔
      ∀ p ∈ w.vault.permissions handOff.name, p.actor = appActor handOff.app := by
  have hentry := (h.vault handOff.name).trans (if_pos rfl)
  have hvalue : w'.vault.value? handOff.name = some (.object handOff.credentials) := by
    rw [Vault.value?, hentry]
    show some (Vault.written (w.vault.get? handOff.name) _).value = _
    cases w.vault.get? handOff.name <;> rfl
  have hpermissions : w'.vault.permissions handOff.name =
      (w.vault.permissions handOff.name).filter (fun p ↦ p.actor ≠ appActor handOff.app) ++
        [⟨appActor handOff.app, [readOperation]⟩] := by
    rw [Vault.permissions, hentry, Vault.permissions]
    cases w.vault.get? handOff.name <;> rfl
  rw [HoldsExactly, hpermissions]
  simp [hvalue]

section Bind

variable {details : BindDetails} {record : InstanceRecord} {service : RegisteredService}
  {plan : ServicePlan} {vars : Variables} {app : String}

theorem admitBind_of_accepted (hvault : broker.hasVault = true)
    (hresolve : broker.resolve record.serviceId details.planId = .ok (service, plan))
    (hformed : Parameters.ensureWellFormed details.rawParameters = .ok ())
    (hvars : service.definition.bindVariables record b details plan = .ok vars)
    (happ : details.appGuid = some app) (hblank : Text.isBlank app = false) :
    broker.admitBind record b details = .ok (service, some app, vars) := by
  have hreader : broker.vaultReader service.definition.id details.appGuid = .ok (some app) := by
    simp [vaultReader, hvault, happ, hblank, Option.filter]
  simp only [admitBind, hresolve, hformed, hreader, hvars]

/-- A bind that is admitted for an application where nothing is recorded goes all the way. -/
theorem BindCourse.rebinds {result : Except BrokerError Binding}
    (h : BindCourse broker i b details exchanges result) (hvault : broker.hasVault = true)
    (hmemory : setting.VaultInMemory) (hhealthy : ∀ e, ¬ setting.storeFails e)
    (habsent : w.store.bindings.get? (i, b) = none)
    (hinstance : w.store.instances.get? i = some record)
    (hadmits : broker.admitBind record b details = .ok (service, some app, vars))
    (hissues : ∀ reply, setting.provider (.bind service.definition.id vars) reply →
      ∃ issued, reply = .ok issued)
    (hbuilds : ∀ issued reply, setting.provider
      (.buildCredentials service.definition.id (issuedRecord i b service issued) record) reply →
        ∃ built, reply = .ok built)
    (hsteps : Steps setting.Allows w exchanges w') :
    ∃ issued credentials,
      .provider (.bind service.definition.id vars) (.ok issued) ∈ exchanges ∧
      builtCredentials? exchanges = some credentials ∧
      result = .ok (referenceTo (broker.credentialNameFor service b)) ∧
      Rebinds (issuedRecord i b service issued)
        ⟨(i, b), broker.credentialNameFor service b, app, credentials⟩ w w' := by
  have hopened {found : InstanceRecord} {rest : Dialogue}
      (h : Steps setting.Allows w (.store (.bindingExists i b) (.ok false) ::
        .store (.getInstance i) (.ok found) :: rest) w') :
      record = found ∧ Steps setting.Allows w rest w' := by
    rw [Setting.steps_bindingExists_iff, Setting.steps_getInstance_iff] at h
    exact ⟨Option.some.inj (hinstance.symm.trans h.2.1), h.2.2⟩
  -- a bind that asks a vault in memory is not failed by it
  have hreturns (hasked : ∃ x ∈ exchanges, x.vaultName? ≠ none) :
      (Served.handOff? ⟨.bind i b details, exchanges, result⟩).isSome = true := by
    obtain ⟨x, hx, hname⟩ := hasked
    rcases h.get?_vault hvault hmemory hsteps with ⟨hquiet, -⟩ | ⟨handOff, hcall, -⟩
    · exact absurd (hquiet x hx) hname
    · rw [hcall]
      rfl
  cases h with
  | unchecked e =>
    have hchecked := (Steps.singleton_iff.1 hsteps).answers
    exact absurd hchecked.bindingExists_error (hhealthy e)
  | taken =>
    have hfound := (Steps.singleton_iff.1 hsteps).answers.bindingExists_ok
    simp [habsent] at hfound
  | unread e =>
    have hread := (Steps.singleton_iff.1 (Setting.steps_bindingExists_iff.1 hsteps).2).answers
    rcases hread.getInstance_error with hfails | ⟨hnone, -⟩
    · exact absurd hfails (hhealthy e)
    · cases hinstance.symm.trans hnone
  | refused hrefused =>
    obtain ⟨rfl, -⟩ := hopened hsteps
    cases hadmits.symm.trans hrefused
  | declined hadmitted e =>
    obtain ⟨rfl, hasked⟩ := hopened hsteps
    cases hadmits.symm.trans hadmitted
    obtain ⟨issued, ⟨⟩⟩ := hissues _ (Setting.steps_provider_iff.1 hasked).1
  | unrecorded hadmitted issued e =>
    obtain ⟨-, hasked⟩ := hopened hsteps
    have hcreate := (Steps.singleton_iff.1 (Setting.steps_provider_iff.1 hasked).2).answers
    exact absurd (hcreate.createBinding_error habsent) (hhealthy e)
  | unbuilt hadmitted issued e =>
    obtain ⟨rfl, hasked⟩ := hopened hsteps
    cases hadmits.symm.trans hadmitted
    obtain ⟨v, -, hbuild⟩ := Steps.cons_iff.1 (Setting.steps_provider_iff.1 hasked).2
    obtain ⟨built, ⟨⟩⟩ := hbuilds _ _ (Setting.steps_provider_iff.1 hbuild).1
  | bound hadmitted =>
    obtain ⟨rfl, -⟩ := hopened hsteps
    cases hadmits.symm.trans hadmitted
  | unstored => cases hreturns ⟨_, List.getElem_mem (n := 5) (by simp), Option.some_ne_none _⟩
  | ungranted => cases hreturns ⟨_, List.getElem_mem (n := 5) (by simp), Option.some_ne_none _⟩
  | handedOff hadmitted issued built version =>
    obtain ⟨rfl, hasked⟩ := hopened hsteps
    cases hadmits.symm.trans hadmitted
    simp only [Steps.cons_iff, Steps.nil_iff, Setting.allows_store_iff,
      Setting.allows_provider_iff, Setting.allows_vault_iff] at hasked
    obtain ⟨_, ⟨-, rfl⟩, _, ⟨s, hcreate, rfl⟩, _, ⟨-, rfl⟩, _, ⟨v₁, hput, rfl⟩, _,
      ⟨v₂, hgrant, rfl⟩, rfl⟩ := hasked
    obtain ⟨-, hcreated⟩ := hcreate.createBinding_ok
    obtain ⟨-, -, hentries⟩ := get?_of_put_grant (hmemory _ _ _ _ hput) (hmemory _ _ _ _ hgrant)
    refine ⟨issued, built.credentials, by simp, rfl, rfl, hcreated, fun n ↦ ?_⟩
    rw [show v₂.get? n = _ from hentries n]
    split
    next hn =>
      rw [hn]
      rfl
    next => rfl

end Bind

/-! ### One after the other -/

/-- An unbind of a recorded binding of a recorded instance returns and leaves neither the record
nor anything under the name of the binding; other bindings and other names stay. A bind that
follows returns a reference to what the provider has then built, which only its application may
read if and only if the name is the one that was cleared, or no other application could read what
lay under it. The vault may hold anything to begin with.
Assumes: a healthy store, a vault in memory, providers that do what they are asked, services and a
plan that are found, parameters that are accepted and a guid that is not blank. -/
theorem unbind_bind_recovers (hvault : broker.hasVault = true) (hmemory : setting.VaultInMemory)
    (hhealthy : ∀ e, ¬ setting.storeFails e) (hresponds : setting.Responds)
    {binding : BindingRecord} {record : InstanceRecord} {service issuing : RegisteredService}
    {plan : ServicePlan} {vars : Variables} {app : String} {unbinding : UnbindDetails}
    {details : BindDetails}
    (hbinding : w.store.bindings.get? (i, b) = some binding)
    (hinstance : w.store.instances.get? i = some record)
    (hservice : broker.registry.resolve binding.serviceId = .ok service)
    (hrevokes : ∀ reply,
      setting.provider (.unbind service.definition.id record binding) reply → reply = .ok ())
    (hissuing : broker.resolve record.serviceId details.planId = .ok (issuing, plan))
    (hformed : Parameters.ensureWellFormed details.rawParameters = .ok ())
    (hvars : issuing.definition.bindVariables record b details plan = .ok vars)
    (happ : details.appGuid = some app) (hblank : Text.isBlank app = false)
    (hissues : ∀ reply, setting.provider (.bind issuing.definition.id vars) reply →
      ∃ issued, reply = .ok issued)
    (hbuilds : ∀ issued reply, setting.provider
      (.buildCredentials issuing.definition.id (issuedRecord i b issuing issued) record) reply →
        ∃ built, reply = .ok built) :
    let cleared := broker.credentialNameFor service b
    let name := broker.credentialNameFor issuing b
    (∃ exchanges result w₁,
      broker.Serves setting w ⟨.unbind i b unbinding, exchanges, result⟩ w₁) ∧
    ∀ exchanges result w₁,
      broker.Serves setting w ⟨.unbind i b unbinding, exchanges, result⟩ w₁ →
      result = .ok () ∧ Unbinds i b cleared w w₁ ∧
      (∃ exchanges result w₂,
        broker.Serves setting w₁ ⟨.bind i b details, exchanges, result⟩ w₂) ∧
      ∀ exchanges result w₂,
        broker.Serves setting w₁ ⟨.bind i b details, exchanges, result⟩ w₂ →
        result = .ok (referenceTo name) ∧ ∃ issued credentials,
          .provider (.bind issuing.definition.id vars) (.ok issued) ∈ exchanges ∧
          builtCredentials? exchanges = some credentials ∧
          Rebinds (issuedRecord i b issuing issued) ⟨(i, b), name, app, credentials⟩ w₁ w₂ ∧
          (HoldsExactly w₂.vault name app credentials ↔
            name = cleared ∨ ∀ p ∈ w.vault.permissions name, p.actor = appActor app) := by
  intro cleared name
  refine ⟨Serves.exists_of_responds hresponds broker _ w, fun exchanges result w₁ hunbind ↦ ?_⟩
  obtain ⟨hunbound, hunbinds⟩ := (UnbindCourse.of_ends unbinding hunbind.1).unbinds hvault hmemory
    hhealthy hbinding hinstance hservice hrevokes hunbind.2
  refine ⟨hunbound, hunbinds, Serves.exists_of_responds hresponds broker _ w₁,
    fun exchanges result w₂ hbind ↦ ?_⟩
  have hinstance₁ : w₁.store.instances.get? i = some record := by rw [hunbinds.store, hinstance]
  have hadmits := admitBind_of_accepted hvault hissuing hformed hvars happ hblank
  obtain ⟨issued, credentials, hissued, hbuilt, hreturned, hrebinds⟩ :=
    (BindCourse.of_ends hbind.1).rebinds hvault hmemory hhealthy hunbinds.binding hinstance₁
      hadmits hissues hbuilds hbind.2
  refine ⟨hreturned, issued, credentials, hissued, hbuilt, hrebinds, ?_⟩
  rw [hrebinds.exactly_iff]
  show (∀ p ∈ w₁.vault.permissions name, p.actor = appActor app) ↔ _
  by_cases hsame : name = cleared
  · have hnothing : w₁.vault.permissions name = [] := by
      rw [Vault.permissions, hunbinds.vault, if_pos hsame]
      rfl
    rw [hnothing]
    exact iff_of_true (fun _ hp ↦ absurd hp List.not_mem_nil) (.inl hsame)
  · have hkept : w₁.vault.permissions name = w.vault.permissions name := by
      rw [Vault.permissions, hunbinds.vault, if_neg hsame, Vault.permissions]
    rw [hkept, or_iff_right hsame]

/-- A bound instance whose binding another application may read in the vault. -/
def abandonedWorld : World where
  store := {
    instances := databaseWorld.store.instances
    bindings := [(("i-1", "b-1"),
      { instanceId := "i-1", bindingId := "b-1", serviceId := "db", otherDetails := "" })] }
  vault := [("/c/csb/database/b-1/secrets-and-services",
    ⟨.null, 3, [⟨appActor "app-0", [readOperation]⟩]⟩)]

theorem unbind_bind_recovers_abandoned :
    let name := "/c/csb/database/b-1/secrets-and-services"
    ∃ unbinding w₁ binding w₂ credentials,
      (databaseBroker true).Serves (.faithful databaseProvider) abandonedWorld
        ⟨.unbind "i-1" "b-1" { serviceId := "db", planId := "small" }, unbinding, .ok ()⟩ w₁ ∧
      (databaseBroker true).Serves (.faithful databaseProvider) w₁
        ⟨.bind "i-1" "b-1" { serviceId := "db", planId := "small", appGuid := some "app-1" },
          binding, .ok (referenceTo name)⟩ w₂ ∧
      HoldsExactly w₂.vault name "app-1" credentials := by
  intro name
  obtain ⟨⟨unbinding, unbound, w₁, hunbind⟩, hrecovers⟩ :=
    @unbind_bind_recovers (databaseBroker true) "i-1" "b-1" (.faithful databaseProvider)
      abandonedWorld rfl (fun _ _ _ _ h ↦ h) (fun _ h ↦ h)
      (Setting.responds_faithful databaseProvider) _ _ _ _ _ _ "app-1"
      { serviceId := "db", planId := "small" }
      { serviceId := "db", planId := "small", appGuid := some "app-1" } rfl rfl rfl
      (fun _ h ↦ h.symm) rfl rfl rfl rfl (by decide +kernel) (fun _ h ↦ ⟨_, h.symm⟩)
      (fun _ _ h ↦ ⟨_, h.symm⟩)
  obtain ⟨rfl, -, ⟨binding, bound, w₂, hbind⟩, hbinds⟩ := hrecovers _ _ _ hunbind
  obtain ⟨rfl, -, credentials, -, -, -, hexactly⟩ := hbinds _ _ _ hbind
  exact ⟨unbinding, w₁, binding, w₂, credentials, hunbind, hbind, hexactly.2 (.inl rfl)⟩

/-! ### An instance of another service -/

/-- A second service beside the databases, whose provider is done at once. -/
def queueService : RegisteredService where
  definition := { id := "mq", name := "queue", plans := [{ id := "small", name := "small" }] }

def twoServiceBroker : Broker where
  registry := ⟨[databaseService, queueService]⟩
  hasVault := true

def promptProvider : (q : Provider.Request) → q.Reply
  | .provision _ _ => .ok (.completed .null)
  | .deprovision _ _ _ => .ok (.completed ())
  | q => databaseProvider q

/-- A bound instance is deprovisioned and its id is given to an instance of another service, of
which an instance with a binding of the same id is bound for another application. -/
def reusedId : List Request :=
  [.provision "i-1" { serviceId := "db", planId := "small" } true,
   .bind "i-1" "b-1" { serviceId := "db", planId := "small", appGuid := some "app-1" },
   .deprovision "i-1" { serviceId := "db", planId := "small" } true,
   .provision "i-1" { serviceId := "mq", planId := "small" } true,
   .provision "i-2" { serviceId := "mq", planId := "small" } true,
   .bind "i-2" "b-1" { serviceId := "mq", planId := "small", appGuid := some "app-2" }]

/-- What a bind after an unbind hands off is not always for its application alone: the binding may
be of a service that the instance no longer is of, and then the name that is cleared is not the one
that is written under. -/
theorem not_unbind_bind_recovers :
    ¬ ∀ (broker : Broker) (setting : Setting) (before : List Served) (w w₁ w₂ : World)
      (i b app : String) (unbinding : UnbindDetails) (details : BindDetails)
      (binding : BindingRecord) (record : InstanceRecord) (service issuing : RegisteredService)
      (plan : ServicePlan) (unbound bound : Dialogue) (credentials : Members),
      Registry.build broker.registry.services = .ok broker.registry →
      broker.hasVault = true → setting.VaultInMemory → (∀ e, ¬ setting.storeFails e) →
      Steps (broker.Serves setting) {} before w →
      w.store.bindings.get? (i, b) = some binding →
      w.store.instances.get? i = some record →
      broker.registry.resolve binding.serviceId = .ok service →
      broker.resolve record.serviceId details.planId = .ok (issuing, plan) →
      details.appGuid = some app →
      broker.Serves setting w ⟨.unbind i b unbinding, unbound, .ok ()⟩ w₁ →
      broker.Serves setting w₁ ⟨.bind i b details, bound,
        .ok (referenceTo (broker.credentialNameFor issuing b))⟩ w₂ →
      builtCredentials? bound = some credentials →
      HoldsExactly w₂.vault (broker.credentialNameFor issuing b) app credentials := by
  intro h
  let before := twoServiceBroker.history "now" promptProvider reusedId {}
  let unbinding := twoServiceBroker.history "now" promptProvider
    [.unbind "i-1" "b-1" { serviceId := "db", planId := "small" }] before.2
  let binding := twoServiceBroker.history "now" promptProvider
    [.bind "i-1" "b-1" { serviceId := "mq", planId := "small", appGuid := some "app-1" }]
    unbinding.2
  have hbefore : Steps (twoServiceBroker.Serves (.faithful promptProvider)) {} before.1 before.2 :=
    steps_history "now" promptProvider twoServiceBroker reusedId {}
  have hunbind := Steps.singleton_iff.1
    (steps_history "now" promptProvider twoServiceBroker
      [.unbind "i-1" "b-1" { serviceId := "db", planId := "small" }] before.2)
  have hbind := Steps.singleton_iff.1
    (steps_history "now" promptProvider twoServiceBroker
      [.bind "i-1" "b-1" { serviceId := "mq", planId := "small", appGuid := some "app-1" }]
      unbinding.2)
  obtain ⟨-, hpermissions⟩ := h twoServiceBroker (.faithful promptProvider) before.1 before.2
    unbinding.2 binding.2 "i-1" "b-1" "app-1" _ _ _ _ databaseService queueService _ _ _ _ rfl rfl
    (fun _ _ _ _ h ↦ h) (fun _ h ↦ h) hbefore rfl rfl rfl rfl rfl hunbind hbind rfl
  exact absurd hpermissions (by decide +kernel)

end Brokerage.Broker
