import Brokerage.Broker.Bind
import Brokerage.Proofs.Course.Load

/-!
The ways a bind can go. The binding is recorded between the provider issuing its credentials and
the credentials being built, and only a broker with a vault goes on to hand them off.
-/

set_option autoImplicit false

namespace Brokerage.Broker

theorem appGuid_of_vaultReader {broker : Broker} {serviceId app : String} {appGuid : Option String}
    (h : broker.vaultReader serviceId appGuid = .ok (some app)) : appGuid = some app := by
  unfold vaultReader at h
  split at h
  next =>
    split at h
    next guid hguid =>
      cases h
      exact (Option.filter_eq_some_iff.1 hguid).1
    next => cases h
  next => cases h

theorem hasVault_of_vaultReader {broker : Broker} {serviceId : String} {appGuid : Option String}
    (h : broker.vaultReader serviceId appGuid = .ok none) : broker.hasVault = false := by
  unfold vaultReader at h
  split at h
  next =>
    split at h
    next => cases h
    next => cases h
  next hvault => simpa using hvault

/-- The service, the reader of the credentials and the variables of a bind, unless it is refused. -/
def admitBind (broker : Broker) (record : InstanceRecord) (b : String) (details : BindDetails) :
    Except BrokerError (RegisteredService × Option String × Variables) :=
  match broker.resolve record.serviceId details.planId with
  | .error e => .error e
  | .ok (service, plan) =>
    match Parameters.ensureWellFormed details.rawParameters with
    | .error e => .error e
    | .ok _ =>
      match broker.vaultReader service.definition.id details.appGuid with
      | .error e => .error e
      | .ok reader =>
        match service.definition.bindVariables record b details plan with
        | .error e => .error e
        | .ok vars => .ok (service, reader, vars)

theorem admitBind_ok {broker : Broker} {record : InstanceRecord} {b : String}
    {details : BindDetails} {service : RegisteredService} {reader : Option String}
    {vars : Variables} (h : broker.admitBind record b details = .ok (service, reader, vars)) :
    ∃ plan, broker.resolve record.serviceId details.planId = .ok (service, plan) ∧
      broker.vaultReader service.definition.id details.appGuid = .ok reader ∧
        service.definition.bindVariables record b details plan = .ok vars := by
  unfold admitBind at h
  split at h
  next => cases h
  next plan hresolve =>
    split at h
    next => cases h
    next =>
      split at h
      next => cases h
      next hreader =>
        split at h
        next => cases h
        next hvars =>
          cases h
          exact ⟨plan, hresolve, hreader, hvars⟩

/-- The error of a bind whose binding could not be recorded. -/
def unrecordedBinding (i b : String) (e : Store.Error) : BrokerError :=
  if e.isConflict then .bindingAlreadyExists i b
  else .orphanedResource "bind" "recording the binding" untrackedBinding e

section Bind

variable (broker : Broker) (i b : String) (details : BindDetails)

inductive BindCourse : Dialogue → Except BrokerError Binding → Prop
  | unchecked (e : Store.Error) :
    BindCourse [.store (.bindingExists i b) (.error e)] (.error (.storage e))
  | taken :
    BindCourse [.store (.bindingExists i b) (.ok true)] (.error (.bindingAlreadyExists i b))
  | unread (e : Store.Error) :
    BindCourse [.store (.bindingExists i b) (.ok false), .store (.getInstance i) (.error e)]
      (.error (unreadInstance i e))
  | refused {record : InstanceRecord} {e : BrokerError}
    (hadmits : broker.admitBind record b details = .error e) :
    BindCourse [.store (.bindingExists i b) (.ok false), .store (.getInstance i) (.ok record)]
      (.error e)
  | declined {record : InstanceRecord} {service : RegisteredService} {reader : Option String}
    {vars : Variables} (hadmits : broker.admitBind record b details = .ok (service, reader, vars))
    (e : Provider.Error) :
    BindCourse
      [.store (.bindingExists i b) (.ok false), .store (.getInstance i) (.ok record),
       .provider (.bind service.definition.id vars) (.error e)]
      (.error (.provider e))
  | unrecorded {record : InstanceRecord} {service : RegisteredService} {reader : Option String}
    {vars : Variables} (hadmits : broker.admitBind record b details = .ok (service, reader, vars))
    (issued : Json) (e : Store.Error) :
    BindCourse
      [.store (.bindingExists i b) (.ok false), .store (.getInstance i) (.ok record),
       .provider (.bind service.definition.id vars) (.ok issued),
       .store (.createBinding (issuedRecord i b service issued)) (.error e)]
      (.error (unrecordedBinding i b e))
  | unbuilt {record : InstanceRecord} {service : RegisteredService} {reader : Option String}
    {vars : Variables} (hadmits : broker.admitBind record b details = .ok (service, reader, vars))
    (issued : Json) (e : Provider.Error) :
    BindCourse
      [.store (.bindingExists i b) (.ok false), .store (.getInstance i) (.ok record),
       .provider (.bind service.definition.id vars) (.ok issued),
       .store (.createBinding (issuedRecord i b service issued)) (.ok ()),
       .provider
         (.buildCredentials service.definition.id (issuedRecord i b service issued) record)
         (.error e)]
      (.error (.provider e))
  | bound {record : InstanceRecord} {service : RegisteredService} {vars : Variables}
    (hadmits : broker.admitBind record b details = .ok (service, none, vars))
    (issued : Json) (binding : Binding) :
    BindCourse
      [.store (.bindingExists i b) (.ok false), .store (.getInstance i) (.ok record),
       .provider (.bind service.definition.id vars) (.ok issued),
       .store (.createBinding (issuedRecord i b service issued)) (.ok ()),
       .provider
         (.buildCredentials service.definition.id (issuedRecord i b service issued) record)
         (.ok binding)]
      (.ok binding)
  | unstored {record : InstanceRecord} {service : RegisteredService} {app : String}
    {vars : Variables} (hadmits : broker.admitBind record b details = .ok (service, some app, vars))
    (issued : Json) (binding : Binding) (e : Vault.Error) :
    BindCourse
      [.store (.bindingExists i b) (.ok false), .store (.getInstance i) (.ok record),
       .provider (.bind service.definition.id vars) (.ok issued),
       .store (.createBinding (issuedRecord i b service issued)) (.ok ()),
       .provider
         (.buildCredentials service.definition.id (issuedRecord i b service issued) record)
         (.ok binding),
       .vault (.put (broker.credentialNameFor service b) (.object binding.credentials)) (.error e)]
      (.error (.credentialHandoff b "store credentials" e))
  | ungranted {record : InstanceRecord} {service : RegisteredService} {app : String}
    {vars : Variables} (hadmits : broker.admitBind record b details = .ok (service, some app, vars))
    (issued : Json) (binding : Binding) (version : String) (e : Vault.Error) :
    BindCourse
      [.store (.bindingExists i b) (.ok false), .store (.getInstance i) (.ok record),
       .provider (.bind service.definition.id vars) (.ok issued),
       .store (.createBinding (issuedRecord i b service issued)) (.ok ()),
       .provider
         (.buildCredentials service.definition.id (issuedRecord i b service issued) record)
         (.ok binding),
       .vault (.put (broker.credentialNameFor service b) (.object binding.credentials))
         (.ok version),
       .vault (.addPermission (broker.credentialNameFor service b) (appActor app) [readOperation])
         (.error e)]
      (.error (.credentialHandoff b "grant read permission" e))
  | handedOff {record : InstanceRecord} {service : RegisteredService} {app : String}
    {vars : Variables} (hadmits : broker.admitBind record b details = .ok (service, some app, vars))
    (issued : Json) (binding : Binding) (version : String) :
    BindCourse
      [.store (.bindingExists i b) (.ok false), .store (.getInstance i) (.ok record),
       .provider (.bind service.definition.id vars) (.ok issued),
       .store (.createBinding (issuedRecord i b service issued)) (.ok ()),
       .provider
         (.buildCredentials service.definition.id (issuedRecord i b service issued) record)
         (.ok binding),
       .vault (.put (broker.credentialNameFor service b) (.object binding.credentials))
         (.ok version),
       .vault (.addPermission (broker.credentialNameFor service b) (appActor app) [readOperation])
         (.ok ())]
      (.ok (referenceTo (broker.credentialNameFor service b)))

variable {broker i b details}

theorem BindCourse.of_ends {exchanges : Dialogue} {result : Except BrokerError Binding}
    (h : (broker.bind i b details).Ends exchanges result) :
    BindCourse broker i b details exchanges result := by
  simp only [bind, Call.store_eq_ask, Program.ask_bind, Program.ok_bind,
    Program.ends_ask_iff] at h
  obtain ⟨taken, rest, rfl, h⟩ := h
  rw [Program.ends_orFail_bind_iff] at h
  rcases h with ⟨e, rfl, rfl, rfl⟩ | ⟨taken, rfl, h⟩
  · exact .unchecked e
  rw [Program.ends_refuseIf_bind_iff] at h
  rcases h with ⟨rfl, rfl, rfl⟩ | ⟨rfl, h⟩
  · exact .taken
  rw [ends_loadInstance_bind_iff] at h
  rcases h with ⟨e, rfl, rfl⟩ | ⟨record, rest, rfl, h⟩
  · exact .unread e
  rw [Program.ends_ofExcept_bind_iff] at h
  rcases h with ⟨e, hresolve, rfl, rfl⟩ | ⟨⟨service, plan⟩, hresolve, h⟩
  · exact .refused (by rw [admitBind, hresolve])
  rw [Program.ends_ofExcept_bind_iff] at h
  rcases h with ⟨e, hformed, rfl, rfl⟩ | ⟨_, hformed, h⟩
  · exact .refused (by simp [admitBind, hresolve, hformed])
  rw [Program.ends_ofExcept_bind_iff] at h
  rcases h with ⟨e, hreader, rfl, rfl⟩ | ⟨reader, hreader, h⟩
  · exact .refused (by simp [admitBind, hresolve, hformed, hreader])
  rw [Program.ends_ofExcept_bind_iff] at h
  rcases h with ⟨e, hvars, rfl, rfl⟩ | ⟨vars, hvars, h⟩
  · exact .refused (by simp [admitBind, hresolve, hformed, hreader, hvars])
  have hadmits : broker.admitBind record b details = .ok (service, reader, vars) := by
    simp [admitBind, hresolve, hformed, hreader, hvars]
  simp only [Call.provider_eq_ask, Program.ask_bind, Program.ok_bind, Program.ends_ask_iff] at h
  obtain ⟨issued, rest, rfl, h⟩ := h
  rw [Program.ends_orFail_bind_iff] at h
  rcases h with ⟨e, rfl, rfl, rfl⟩ | ⟨issued, rfl, h⟩
  · exact .declined hadmits e
  simp only [recordBinding, Call.store_eq_ask, Program.ask_bind, Program.ok_bind,
    Program.ends_ask_iff] at h
  obtain ⟨created, rest, rfl, h⟩ := h
  cases created with
  | error e =>
    obtain ⟨rfl, rfl⟩ := Program.ends_done_iff.1 h
    exact .unrecorded hadmits issued e
  | ok created =>
    simp only [Program.pure_bind, Program.ends_ask_iff] at h
    obtain ⟨built, rest, rfl, h⟩ := h
    rw [Program.ends_orFail_bind_iff] at h
    rcases h with ⟨e, rfl, rfl, rfl⟩ | ⟨binding, rfl, h⟩
    · exact .unbuilt hadmits issued e
    cases reader with
    | none =>
      obtain ⟨rfl, rfl⟩ := Program.ends_done_iff.1 h
      exact .bound hadmits issued binding
    | some app =>
      simp only [handOff, Call.vault_eq_ask, Program.ask_bind, Program.ok_bind,
        Program.ends_ask_iff] at h
      obtain ⟨stored, rest, rfl, h⟩ := h
      rw [Program.ends_orFail_bind_iff] at h
      rcases h with ⟨e, rfl, rfl, rfl⟩ | ⟨version, rfl, h⟩
      · exact .unstored hadmits issued binding e
      rw [Program.ends_ask_iff] at h
      obtain ⟨granted, rest, rfl, h⟩ := h
      rw [Program.ends_orFail_bind_iff] at h
      rcases h with ⟨e, rfl, rfl, rfl⟩ | ⟨_, rfl, h⟩
      · exact .ungranted hadmits issued binding version e
      obtain ⟨rfl, rfl⟩ := Program.ends_done_iff.1 h
      exact .handedOff hadmits issued binding version

end Bind

end Brokerage.Broker
