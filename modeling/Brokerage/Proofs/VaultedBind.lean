import Brokerage.Proofs.Course.Bind
import Brokerage.Proofs.Serving

/-!
Binding with a vault. Credentials go to the vault as they were built for a binding that is already
recorded, the application that asked for them may read them once they are there, and the caller is
given a reference that does not depend on them.
-/

set_option autoImplicit false

namespace Brokerage

/-- The collaborator has not failed. -/
def Exchange.succeeded : Exchange Action.Reply → Bool
  | ⟨.store _, .ok _⟩ | ⟨.vault _, .ok _⟩ | ⟨.provider _, .ok _⟩ => true
  | _ => false

/-- What the vault has done that answers so. -/
def Exchange.vaulted? : Exchange Action.Reply → Option Vault.Method
  | ⟨.vault q, .ok _⟩ => some q.method
  | _ => none

namespace Broker

/-- A guid that may read vaulted credentials is not blank. -/
theorem not_blank_of_vaultReader {broker : Broker} {serviceId app : String}
    {appGuid : Option String} (h : broker.vaultReader serviceId appGuid = .ok (some app)) :
    Text.isBlank app = false := by
  unfold vaultReader at h
  split at h
  next =>
    split at h
    next guid hguid =>
      cases h
      simpa using (Option.filter_eq_some_iff.1 hguid).2
    next => cases h
  next => cases h

section Opening

variable (i b : String) (record : InstanceRecord) (service : RegisteredService) (vars : Variables)
  (issued : Json) (binding : Binding)

/-- What a bind has done when it turns to the vault. -/
def bindOpening : Dialogue :=
  [.store (.bindingExists i b) (.ok false), .store (.getInstance i) (.ok record),
   .provider (.bind service.definition.id vars) (.ok issued),
   .store (.createBinding (issuedRecord i b service issued)) (.ok ()),
   .provider
     (.buildCredentials service.definition.id (issuedRecord i b service issued) record)
     (.ok binding)]

variable {i b record service vars issued binding}

/-- The binding is recorded when a bind turns to the vault. -/
theorem recorded_of_bindOpening {setting : Setting} {w w' : World}
    (h : Steps setting.Tolerates w (bindOpening i b record service vars issued binding) w') :
    ∃ now, w'.store.bindings.get? (i, b) =
      some { issuedRecord i b service issued with createdAt := now } := by
  simp only [bindOpening, Steps.cons_iff, Steps.nil_iff] at h
  obtain ⟨_, -, _, -, v, -, v', hcreate, v'', hbuild, rfl⟩ := h
  obtain ⟨-, rfl⟩ := hbuild.provider_replies
  exact hcreate.answers_of_ok.binding_of_createBinding

end Opening

/-- What a bind may ask of the vault after a dialogue: to keep credentials that were built for the
binding that is recorded, and, once it keeps them, to let the application read them that the caller
has named. -/
inductive Entrusts (broker : Broker) (i b : String) (details : BindDetails) (before : Dialogue) :
    Vault.Request → Prop
  | put {service : RegisteredService} {record : InstanceRecord} {bound : BindingRecord}
    {binding : Binding} (hids : bound.instanceId = i ∧ bound.bindingId = b)
    (hcreated : .store (.createBinding bound) (.ok ()) ∈ before)
    (hrecorded : ∀ (setting : Setting) (w w' : World), Steps setting.Tolerates w before w' →
      ∃ now, w'.store.bindings.get? (i, b) = some { bound with createdAt := now })
    (hbuilt : .provider (.buildCredentials service.definition.id bound record) (.ok binding)
      ∈ before) :
    Entrusts broker i b details before
      (.put (broker.credentialNameFor service b) (.object binding.credentials))
  | grant {service : RegisteredService} {app version : String} {value : Json}
    (hput : .vault (.put (broker.credentialNameFor service b) value) (.ok version) ∈ before)
    (happ : details.appGuid = some app) (hnamed : Text.isBlank app = false) :
    Entrusts broker i b details before
      (.addPermission (broker.credentialNameFor service b) (appActor app) [readOperation])

/-! ### Handing credentials off -/

/-- What a dialogue asks of the vault after an opening in which it does not, it asks later. -/
theorem split_after_opening {opening later before after : Dialogue} {q : Vault.Request}
    {reply : q.Reply} (hquiet : ∀ x ∈ opening, x.vaultName? = none)
    (h : opening ++ later = before ++ .vault q reply :: after) :
    ∃ between, before = opening ++ between ∧ later = between ++ .vault q reply :: after := by
  rcases List.append_eq_append_iff.1 h with ⟨between, hbefore, hlater⟩ | ⟨rest, hopening, hrest⟩
  · exact ⟨between, hbefore, hlater⟩
  · cases rest with
    | nil => exact ⟨[], by simpa using hopening.symm, by simpa using hrest.symm⟩
    | cons x rest =>
      obtain ⟨rfl, -⟩ := List.cons.inj hrest
      cases hquiet (.vault q reply) (by simp [hopening])

/-- The ways in which credentials can be handed off. -/
inductive HandOffCourse (b name app : String) (binding : Binding) :
    Dialogue → Except BrokerError Binding → Prop
  | unstored (e : Vault.Error) :
    HandOffCourse b name app binding
      [.vault (.put name (.object binding.credentials)) (.error e)]
      (.error (.credentialHandoff b "store credentials" e))
  | ungranted (version : String) (e : Vault.Error) :
    HandOffCourse b name app binding
      [.vault (.put name (.object binding.credentials)) (.ok version),
       .vault (.addPermission name (appActor app) [readOperation]) (.error e)]
      (.error (.credentialHandoff b "grant read permission" e))
  | granted (version : String) :
    HandOffCourse b name app binding
      [.vault (.put name (.object binding.credentials)) (.ok version),
       .vault (.addPermission name (appActor app) [readOperation]) (.ok ())]
      (.ok (referenceTo name))

section HandOff

variable {b name app : String} {binding : Binding} {exchanges : Dialogue}
  {result : Except BrokerError Binding}

/-- The vault is asked first to keep the credentials and then, once it does, to let them be read. -/
theorem HandOffCourse.asked (h : HandOffCourse b name app binding exchanges result)
    {before after : Dialogue} {q : Vault.Request} {reply : q.Reply}
    (hsplit : exchanges = before ++ .vault q reply :: after) :
    before = [] ∧ q = .put name (.object binding.credentials) ∨
      ∃ version, before = [.vault (.put name (.object binding.credentials)) (.ok version)] ∧
        q = .addPermission name (appActor app) [readOperation] := by
  cases h with
  | unstored e =>
    rcases before with _ | ⟨x, before⟩
    · cases hsplit
      exact .inl ⟨rfl, rfl⟩
    · simp at hsplit
  | ungranted version e | granted version =>
    rcases before with _ | ⟨x, _ | ⟨y, before⟩⟩
    · cases hsplit
      exact .inl ⟨rfl, rfl⟩
    · cases hsplit
      exact .inr ⟨version, rfl, rfl⟩
    · simp at hsplit

end HandOff

/-! ### Binds of a broker with a vault -/

section Bind

variable {broker : Broker} {i b : String} {details : BindDetails} {exchanges : Dialogue}
  {result : Except BrokerError Binding}

/-- A bind of a broker with a vault fails before it asks the vault, or hands credentials off. -/
theorem BindCourse.fails_or_handsOff (hasVault : broker.hasVault = true)
    (h : BindCourse broker i b details exchanges result) :
    (∀ x ∈ exchanges, x.vaultName? = none) ∧ (∃ e, result = .error e) ∨
      ∃ record service app vars issued binding later,
        broker.admitBind record b details = .ok (service, some app, vars) ∧
        exchanges = bindOpening i b record service vars issued binding ++ later ∧
        HandOffCourse b (broker.credentialNameFor service b) app binding later result := by
  cases h with
  | unchecked | taken | unread | refused | declined | unrecorded | unbuilt =>
    exact .inl ⟨Exchange.eq_none_of_all rfl, _, rfl⟩
  | bound hadmits =>
    obtain ⟨-, -, hreader, -⟩ := admitBind_ok hadmits
    cases hasVault.symm.trans (hasVault_of_vaultReader hreader)
  | unstored hadmits issued binding e =>
    exact .inr ⟨_, _, _, _, issued, binding, _, hadmits, rfl, .unstored e⟩
  | ungranted hadmits issued binding version e =>
    exact .inr ⟨_, _, _, _, issued, binding, _, hadmits, rfl, .ungranted version e⟩
  | handedOff hadmits issued binding version =>
    exact .inr ⟨_, _, _, _, issued, binding, _, hadmits, rfl, .granted version⟩

theorem vaultName?_bindOpening {record : InstanceRecord} {service : RegisteredService}
    {vars : Variables} {issued : Json} {binding : Binding} :
    ∀ x ∈ bindOpening i b record service vars issued binding, x.vaultName? = none :=
  Exchange.eq_none_of_all rfl

/-- All that a bind asks of the vault is entrusted to it. -/
theorem BindCourse.entrusts (hasVault : broker.hasVault = true)
    (h : BindCourse broker i b details exchanges result) {before after : Dialogue}
    {q : Vault.Request} {reply : q.Reply} (hsplit : exchanges = before ++ .vault q reply :: after) :
    Entrusts broker i b details before q := by
  rcases h.fails_or_handsOff hasVault with
    ⟨hquiet, -⟩ | ⟨record, service, app, vars, issued, binding, later, hadmits, rfl, hhandOff⟩
  · cases hquiet (.vault q reply) (by simp [hsplit])
  obtain ⟨between, rfl, hlater⟩ := split_after_opening vaultName?_bindOpening hsplit
  obtain ⟨-, -, hreader, -⟩ := admitBind_ok hadmits
  rcases hhandOff.asked hlater with ⟨rfl, rfl⟩ | ⟨version, rfl, rfl⟩
  · rw [List.append_nil]
    exact .put ⟨rfl, rfl⟩ (by simp [bindOpening]) (fun _ _ _ ↦ recorded_of_bindOpening)
      (List.getElem_mem (n := 4) (by simp [bindOpening]))
  · exact .grant (List.mem_append_right _ List.mem_cons_self) (appGuid_of_vaultReader hreader)
      (not_blank_of_vaultReader hreader)

/-- A bind of a broker with a vault succeeds just if the vault does both things asked of it. -/
theorem BindCourse.ok_iff_vaulted (hasVault : broker.hasVault = true)
    (h : BindCourse broker i b details exchanges result) :
    (∃ binding, result = .ok binding) ↔
      (∃ x ∈ exchanges, x.vaulted? = some .put) ∧
        ∃ x ∈ exchanges, x.vaulted? = some .addPermission := by
  cases h with
  | bound hadmits =>
    obtain ⟨-, -, hreader, -⟩ := admitBind_ok hadmits
    cases hasVault.symm.trans (hasVault_of_vaultReader hreader)
  | _ => simp [Exchange.vaulted?, Vault.Request.method]

/-- A bind that succeeds is one in which nobody has failed. -/
theorem BindCourse.succeeded_of_ok {binding : Binding}
    (h : BindCourse broker i b details exchanges (.ok binding)) :
    ∀ x ∈ exchanges, x.succeeded = true := by
  have hall : exchanges.all Exchange.succeeded = true := by cases h <;> rfl
  exact List.all_eq_true.1 hall

/-- What a bind with a vault returns is told by the record of the instance and the id of the
binding. -/
theorem BindCourse.reference_of_ok (hasVault : broker.hasVault = true) {binding : Binding}
    (h : BindCourse broker i b details exchanges (.ok binding)) {setting : Setting} {w w' : World}
    (hsteps : Steps setting.Tolerates w exchanges w') :
    ∃ record service, w.store.instances.get? i = some record ∧
      broker.registry.resolve record.serviceId = .ok service ∧
      binding = referenceTo (broker.credentialNameFor service b) := by
  rcases h.fails_or_handsOff hasVault with
    ⟨-, e, he⟩ | ⟨record, service, app, vars, issued, built, later, hadmits, rfl, hhandOff⟩
  · cases he
  obtain ⟨plan, hresolve, -, -⟩ := admitBind_ok hadmits
  obtain ⟨v, hopening, -⟩ := Steps.append_iff.1 hsteps
  obtain ⟨u, htaken, hrest⟩ := Steps.cons_iff.1 hopening
  obtain ⟨u', hread, -⟩ := Steps.cons_iff.1 hrest
  have hfound := hread.answers_of_ok.getInstance_ok
  rw [htaken.answers_of_ok.of_read rfl] at hfound
  cases hhandOff with
  | granted version =>
    exact ⟨record, service, hfound, registry_resolve_of_resolve hresolve, rfl⟩

/-- A bind of a broker with a vault asks the vault only what is entrusted to it, succeeds just if
the vault does both things asked of it, nobody else having failed, and returns what depends
neither on the credentials nor on anything else but the record of the instance and the id of the
binding: a reference to where the credentials are. -/
theorem credentials_only_to_vault (hasVault : broker.hasVault = true)
    (h : (broker.bind i b details).Ends exchanges result) :
    (∀ before q reply after, exchanges = before ++ .vault q reply :: after →
      Entrusts broker i b details before q) ∧
    ((∃ binding, result = .ok binding) ↔
      (∃ x ∈ exchanges, x.vaulted? = some .put) ∧
        ∃ x ∈ exchanges, x.vaulted? = some .addPermission) ∧
    (∀ binding, result = .ok binding → ∀ x ∈ exchanges, x.succeeded = true) ∧
    ∀ (binding : Binding) (setting : Setting) (w w' : World), result = .ok binding →
      Steps setting.Tolerates w exchanges w' →
      (∃ record service, w.store.instances.get? i = some record ∧
        broker.registry.resolve record.serviceId = .ok service ∧
        binding.credentials =
          [(credentialRefKey, .string (broker.credentialNameFor service b))]) ∧
      ∀ (others : Dialogue) (other : Binding) (setting' : Setting) (v : World),
        (broker.bind i b details).Ends others (.ok other) →
        Steps setting'.Tolerates w others v → other = binding := by
  have hcourse := BindCourse.of_ends h
  refine ⟨fun before q reply after ↦ hcourse.entrusts hasVault, hcourse.ok_iff_vaulted hasVault,
    ?_, ?_⟩
  · rintro binding rfl
    exact hcourse.succeeded_of_ok
  · rintro binding setting w w' rfl hsteps
    obtain ⟨record, service, hrecord, hresolve, rfl⟩ := hcourse.reference_of_ok hasVault hsteps
    refine ⟨⟨record, service, hrecord, hresolve, rfl⟩, ?_⟩
    intro others other setting' v hother hsteps'
    obtain ⟨record', service', hrecord', hresolve', rfl⟩ :=
      (BindCourse.of_ends hother).reference_of_ok hasVault hsteps'
    cases hrecord.symm.trans hrecord'
    cases hresolve.symm.trans hresolve'
    rfl

end Bind

/-- The provider of the database service, which issues the given password. -/
def passwordProvider (password : String) : (q : Provider.Request) → q.Reply
  | .bind _ _ => .ok (.string password)
  | .buildCredentials _ _ _ => .ok ⟨[("password", .string password)]⟩
  | q => databaseProvider q

/-- Two binds that differ in the password return one reference, and the password of each is where
the reference says. -/
theorem credentials_only_to_vault_of_passwords :
    let call := (databaseBroker true).bind "i-1" "b-1"
      { serviceId := "db", planId := "small", appGuid := some "app-1" }
    let respond (password : String) := World.respond "now" (passwordProvider password)
    let served (password : String) := call.run (respond password) databaseWorld
    let name := "/c/csb/database/b-1/secrets-and-services"
    (served "first").1 = .ok ⟨[("credhub-ref", .string name)]⟩ ∧
      (served "first").1 = (served "second").1 ∧
      (served "first").2.vault.value? name = some (.object [("password", .string "first")]) ∧
      (served "second").2.vault.value? name = some (.object [("password", .string "second")]) := by
  intro call respond served name
  have hends (password : String) : call.Ends (call.trace (respond password) databaseWorld)
      (served password).1 := Program.ends_trace (respond password) call databaseWorld
  have hsteps (password : String) :
      Steps (Setting.faithful (passwordProvider password)).Tolerates databaseWorld
        (call.trace (respond password) databaseWorld) (served password).2 :=
    (Program.steps_trace (respond password) call databaseWorld).mono
      fun _ _ _ h ↦ .allowed (allows_of_respond "now" (passwordProvider password) h)
  obtain ⟨-, -, -, hreference⟩ := credentials_only_to_vault rfl (hends "first")
  have hsame := (hreference ⟨[("credhub-ref", .string name)]⟩ _ _ _ rfl (hsteps "first")).2
  obtain ⟨other, hother⟩ : ∃ other, (served "second").1 = .ok other := ⟨_, rfl⟩
  refine ⟨rfl, ?_, rfl, rfl⟩
  rw [hother, hsame _ other _ _ (hother ▸ hends "second") (hsteps "second")]
  rfl

end Broker

end Brokerage
