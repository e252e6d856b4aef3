import Brokerage.Proofs.Secrets

/-!
What the name of vaulted credentials tells of the binding that they are for. A name is spelled as a
path, and a path is taken apart at its first separators: if neither the client identifier nor the
name of the service has a separator in it, the name of the credentials determines both of them and
the id of the binding, whatever is in that id. What a call asks the vault about is named so after
the service for which the binding is recorded, and calls for bindings of one service ask about one
name exactly if their bindings have the same id, whatever is in the other two.
-/

set_option autoImplicit false

namespace Brokerage

/-! ### Taking names apart -/

/-- What stands before the first mark, and what behind it, is told by the whole. -/
theorem Text.eq_of_append_mark {mark : Char} {before before' behind behind' : List Char}
    (hbefore : mark ∉ before) (hbefore' : mark ∉ before')
    (h : before ++ mark :: behind = before' ++ mark :: behind') :
    before = before' ∧ behind = behind' := by
  -- whichever text before the mark ends first, the other one has the mark at that place
  induction before generalizing before' with
  | nil =>
    cases before' with
    | nil => exact ⟨rfl, (List.cons.inj h).2⟩
    | cons c rest' => exact absurd (List.cons.inj h).1 (List.ne_of_not_mem_cons hbefore')
  | cons c rest ih =>
    cases before' with
    | nil => exact absurd (List.cons.inj h).1.symm (List.ne_of_not_mem_cons hbefore)
    | cons c' rest' =>
      obtain ⟨rfl, htail⟩ := List.cons.inj h
      obtain ⟨rfl, hbehind⟩ := ih (List.not_mem_of_not_mem_cons hbefore)
        (List.not_mem_of_not_mem_cons hbefore') htail
      exact ⟨rfl, hbehind⟩

/-- Names are the same exactly if their three parts are spelled the same, in order and with a
separator between them. -/
theorem credentialName_eq_iff {c c' s s' b b' : String} :
    credentialName c s b = credentialName c' s' b' ↔
      c.toList ++ '/' :: (s.toList ++ '/' :: b.toList) =
        c'.toList ++ '/' :: (s'.toList ++ '/' :: b'.toList) := by
  have hspelled (c s b : String) : (credentialName c s b).toList =
      "/c/".toList ++ ((c.toList ++ '/' :: (s.toList ++ '/' :: b.toList)) ++
        "/secrets-and-services".toList) := by
    simp [credentialName]
  rw [← String.toList_inj, hspelled, hspelled, List.append_right_inj, List.append_left_inj]

/-- Within one service of one client, the name tells the id of the binding. -/
theorem credentialName_right_inj {c s b b' : String} :
    credentialName c s b = credentialName c s b' ↔ b = b' := by
  rw [credentialName_eq_iff, List.append_right_inj, List.cons_inj_right, List.append_right_inj,
    List.cons_inj_right, String.toList_inj]

/-- Without separators in the first two parts, the name tells all three. -/
theorem parts_eq_of_credentialName_eq {c c' s s' b b' : String} (hc : '/' ∉ c.toList)
    (hc' : '/' ∉ c'.toList) (hs : '/' ∉ s.toList) (hs' : '/' ∉ s'.toList)
    (h : credentialName c s b = credentialName c' s' b') : c = c' ∧ s = s' ∧ b = b' := by
  obtain ⟨hclient, hrest⟩ := Text.eq_of_append_mark hc hc' (credentialName_eq_iff.1 h)
  obtain ⟨hservice, hbinding⟩ := Text.eq_of_append_mark hs hs' hrest
  exact ⟨String.toList_injective hclient, String.toList_injective hservice,
    String.toList_injective hbinding⟩

/-- A separator in the name of a service may be taken for the one behind it. -/
example : credentialName "csb" "sql/small" "b-1" = credentialName "csb" "sql" "small/b-1" := rfl

namespace Broker

/-! ### What calls ask the vault about -/

/-- The record of a binding that a dialogue has created or read. -/
def bindingRecord? (exchanges : Dialogue) : Option BindingRecord :=
  exchanges.findSome? fun x ↦
    match x with
    | ⟨.store (.createBinding record), .ok _⟩ => some record
    | ⟨.store (.getBinding _ _), .ok record⟩ => some record
    | _ => none

/-- A dialogue is about a binding that is recorded for a service. -/
def RecordedFor (broker : Broker) (exchanges : Dialogue) (service : RegisteredService) : Prop :=
  ∃ record, bindingRecord? exchanges = some record ∧
    broker.registry.resolve record.serviceId = .ok service

/-- A call for a binding with this id, recorded for this service, has asked the vault about a
name. -/
structure AsksFor (broker : Broker) (call : Served) (service : RegisteredService)
    (b name : String) : Prop where
  ends : (broker.serve call.request).Ends call.exchanges call.result
  subject : ∃ i, call.request.subject = .binding i b
  recorded : broker.RecordedFor call.exchanges service
  asked : ∃ x ∈ call.exchanges, x.vaultName? = some name

section Asked

variable {broker : Broker} {i b name : String} {exchanges : Dialogue}

theorem RecordedFor.unique {service service' : RegisteredService}
    (h : broker.RecordedFor exchanges service) (h' : broker.RecordedFor exchanges service') :
    service = service' := by
  obtain ⟨record, hrecord, hresolve⟩ := h
  obtain ⟨record', hrecord', hresolve'⟩ := h'
  cases hrecord.symm.trans hrecord'
  exact Except.ok.inj (hresolve.symm.trans hresolve')

/-- A bind that asks the vault has created the record of its binding, and asks about the name of the
binding. -/
theorem BindCourse.recordedFor_of_asked {details : BindDetails}
    {result : Except BrokerError Binding}
    (h : BindCourse broker i b details exchanges result)
    (hasked : ∃ x ∈ exchanges, x.vaultName? = some name) :
    ∃ service, broker.RecordedFor exchanges service ∧
      name = broker.credentialNameFor service b := by
  obtain ⟨x, hx, hname⟩ := hasked
  cases h with
  | unchecked | taken | unread | refused | declined | unrecorded | unbuilt | bound =>
    exact absurd hname (Exchange.ne_some_of_all rfl x hx)
  | @unstored record service app vars hadmits issued
  | @ungranted record service app vars hadmits issued
  | @handedOff record service app vars hadmits issued =>
    obtain ⟨plan, hresolve, -⟩ := admitBind_ok hadmits
    have hown := resolve_own_id (registry_resolve_of_resolve hresolve)
    refine ⟨service, ⟨issuedRecord i b service issued, rfl, hown⟩, ?_⟩
    refine Exchange.eq_of_only (f := Exchange.vaultName?) ?_ hx hname
    simp [Exchange.vaultName?, Vault.Request.name]

theorem Clearing.vaultName?_eq {failure : Option Vault.Error}
    (h : Clearing broker name exchanges failure) : ∀ x ∈ exchanges, x.vaultName? = some name := by
  cases h with
  | needless => exact List.forall_mem_nil _
  | cleared | uncleared => simp [Exchange.vaultName?, Vault.Request.name]

/-- An unbind that asks the vault has read the record of its binding, and asks about the name of the
binding. -/
theorem UnbindCourse.recordedFor_of_asked {result : Except BrokerError Unit}
    (h : UnbindCourse broker i b exchanges result)
    (hasked : ∃ x ∈ exchanges, x.vaultName? = some name) :
    ∃ service, broker.RecordedFor exchanges service ∧
      name = broker.credentialNameFor service b := by
  obtain ⟨x, hx, hname⟩ := hasked
  cases h with
  | unread | instanceUnread | unresolved =>
    exact absurd hname (Exchange.ne_some_of_all rfl x hx)
  | @uncleared binding record service hresolve clearing e hclear =>
    refine ⟨service, ⟨binding, rfl, hresolve⟩, ?_⟩
    refine Exchange.eq_of_only (f := Exchange.vaultName?) ?_ hx hname
    rw [List.forall_mem_cons, List.forall_mem_cons]
    exact ⟨.inl rfl, .inl rfl, fun y hy ↦ .inr (hclear.vaultName?_eq y hy)⟩
  | @declined binding record service hresolve clearing hclear
  | @undeleted binding record service hresolve clearing hclear
  | @unbound binding record service hresolve clearing hclear =>
    refine ⟨service, ⟨binding, rfl, hresolve⟩, ?_⟩
    refine Exchange.eq_of_only (f := Exchange.vaultName?) ?_ hx hname
    rw [List.forall_mem_cons, List.forall_mem_cons, List.forall_mem_append]
    exact ⟨.inl rfl, .inl rfl, fun y hy ↦ .inr (hclear.vaultName?_eq y hy),
      fun y hy ↦ .inl (Exchange.eq_none_of_all rfl y hy)⟩

/-- A call asks the vault only for a binding that is recorded, and only about the name after its
service and its id. -/
theorem exists_asksFor {call : Served}
    (hends : (broker.serve call.request).Ends call.exchanges call.result)
    (hasked : ∃ x ∈ call.exchanges, x.vaultName? = some name) :
    ∃ service b, broker.AsksFor call service b name ∧
      name = broker.credentialNameFor service b := by
  obtain ⟨request, exchanges, result⟩ := call
  -- only a call for a binding has anything to do with the vault
  have hnever (hq : request.subject.binding? = none) : False := by
    obtain ⟨x, hx, hname⟩ := hasked
    cases ((no_vault_of_subject hq hends).1 x hx).symm.trans hname
  cases request with
  | provision | update | deprovision | lastOperation => exact (hnever rfl).elim
  | bind i b details =>
    obtain ⟨service, hrecorded, hnamed⟩ :=
      (BindCourse.of_ends hends).recordedFor_of_asked hasked
    exact ⟨service, b, ⟨hends, ⟨i, rfl⟩, hrecorded, hasked⟩, hnamed⟩
  | unbind i b details =>
    obtain ⟨service, hrecorded, hnamed⟩ :=
      (UnbindCourse.of_ends details hends).recordedFor_of_asked hasked
    exact ⟨service, b, ⟨hends, ⟨i, rfl⟩, hrecorded, hasked⟩, hnamed⟩

/-- What a call asks the vault about is the name after the service and the id of its binding. -/
theorem AsksFor.name_eq {call : Served} {service : RegisteredService}
    (h : broker.AsksFor call service b name) : name = broker.credentialNameFor service b := by
  obtain ⟨service', b', hasks, hnamed⟩ := exists_asksFor h.ends h.asked
  obtain ⟨i, hsubject⟩ := h.subject
  obtain ⟨i', hsubject'⟩ := hasks.subject
  cases hsubject.symm.trans hsubject'
  rw [hnamed, h.recorded.unique hasks.recorded]

end Asked

/-- The name of vaulted credentials tells the client identifier, the name of the service and the id
of the binding, if there is no separator in the first two. Whatever a call asks the vault about is
the name of its binding. Calls for bindings of one service, through one broker, ask about one name
exactly if the bindings have one id: whatever is in the client identifier, in the name of the
service and in the ids, whoever else asks the vault, and whatever it has answered. -/
theorem names_tell_bindings_apart :
    (∀ c c' s s' b b' : String, '/' ∉ c.toList → '/' ∉ c'.toList → '/' ∉ s.toList →
      '/' ∉ s'.toList → credentialName c s b = credentialName c' s' b' →
      c = c' ∧ s = s' ∧ b = b') ∧
    ∀ broker : Broker,
      (∀ (call : Served) (name : String),
        (broker.serve call.request).Ends call.exchanges call.result →
        (∃ x ∈ call.exchanges, x.vaultName? = some name) →
        ∃ service b, broker.AsksFor call service b name ∧
          name = credentialName broker.clientIdentifier service.definition.name b) ∧
      ∀ (service : RegisteredService) (call call' : Served) (b b' name name' : String),
        broker.AsksFor call service b name → broker.AsksFor call' service b' name' →
        (name = name' ↔ b = b') := by
  refine ⟨?_, fun broker ↦ ⟨?_, ?_⟩⟩
  · intro c c' s s' b b' hc hc' hs hs' h
    exact parts_eq_of_credentialName_eq hc hc' hs hs' h
  · intro call name hends hasked
    exact exists_asksFor hends hasked
  · intro service call call' b b' name name' hasks hasks'
    rw [hasks.name_eq, hasks'.name_eq]
    exact credentialName_right_inj

/-- A call of the broker of the database service that keeps credentials in a vault. -/
def vaultedCall (w : World) (request : Request) : Served :=
  let call := (databaseBroker true).serve request
  let respond := World.respond "now" databaseProvider
  ⟨request, call.trace respond w, (call.run respond w).1⟩

/-- Two bindings, the id of one of which ends as names do, are asked about under names of their own;
the unbind of the other asks about the name of the bind. -/
theorem names_of_nestedId :
    let broker := databaseBroker true
    let bind (b : String) := vaultedCall databaseWorld
      (.bind "i-1" b { serviceId := "db", planId := "small", appGuid := some "app-1" })
    let unbind := vaultedCall databaseVaulted.2
      (.unbind "i-1" "b-1" { serviceId := "db", planId := "small" })
    let name := "/c/csb/database/b-1/secrets-and-services"
    let nested := "/c/csb/database/b-1/secrets-and-services/secrets-and-services"
    broker.AsksFor (bind "b-1") databaseService "b-1" name ∧
    broker.AsksFor (bind "b-1/secrets-and-services") databaseService "b-1/secrets-and-services"
      nested ∧
    broker.AsksFor unbind databaseService "b-1" name ∧
    (name = nested ↔ "b-1" = "b-1/secrets-and-services") ∧ (name = name ↔ "b-1" = "b-1") ∧
    (∃ service b, broker.AsksFor unbind service b name ∧
      name = credentialName "csb" service.definition.name b) ∧
    '/' ∉ "csb".toList ∧ '/' ∉ "database".toList ∧
    nested = credentialName "csb" "database" "b-1/secrets-and-services" ∧
    ("csb" = "csb" ∧ "database" = "database" ∧
      "b-1/secrets-and-services" = "b-1/secrets-and-services") := by
  intro broker bind unbind name nested
  have hends (w : World) (request : Request) : (broker.serve request).Ends
      (vaultedCall w request).exchanges (vaultedCall w request).result :=
    Program.ends_trace _ _ w
  have hbind : broker.AsksFor (bind "b-1") databaseService "b-1" name := by
    refine ⟨hends _ _, ⟨"i-1", rfl⟩, ⟨issuedRecord "i-1" "b-1" databaseService .null, ?_, rfl⟩, ?_⟩
    · decide +kernel
    · decide +kernel
  have hnested : broker.AsksFor (bind "b-1/secrets-and-services") databaseService
      "b-1/secrets-and-services" nested := by
    refine ⟨hends _ _, ⟨"i-1", rfl⟩,
      ⟨issuedRecord "i-1" "b-1/secrets-and-services" databaseService .null, ?_, rfl⟩, ?_⟩
    · decide +kernel
    · decide +kernel
  have hunbind : broker.AsksFor unbind databaseService "b-1" name := by
    refine ⟨hends _ _, ⟨"i-1", rfl⟩,
      ⟨{ issuedRecord "i-1" "b-1" databaseService .null with createdAt := "now" }, ?_, rfl⟩, ?_⟩
    · decide +kernel
    · decide +kernel
  have hclient : '/' ∉ "csb".toList := by decide
  have hservice : '/' ∉ "database".toList := by decide
  obtain ⟨hparts, hcalls⟩ := names_tell_bindings_apart
  obtain ⟨hexists, hiff⟩ := hcalls broker
  exact ⟨hbind, hnested, hunbind, hiff _ _ _ _ _ _ _ hbind hnested,
    hiff _ _ _ _ _ _ _ hbind hunbind, hexists _ _ hunbind.ends hunbind.asked, hclient, hservice,
    rfl, hparts _ _ _ _ _ _ hclient hclient hservice hservice rfl⟩

end Broker

end Brokerage
