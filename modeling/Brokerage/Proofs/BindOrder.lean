import Brokerage.Proofs.Writes

/-!
The order in which a bind does things. It writes one record, which it creates; it has credentials
built and asks the vault only after that, and what it asks of the vault is under the name of the
binding that it has created.
-/

set_option autoImplicit false

namespace Brokerage

/-- Whether an exchange has credentials built, or is one with the vault. -/
def Exchange.handlesCredentials : Exchange Action.Reply → Bool
  | ⟨.vault _, _⟩ => true
  | ⟨.provider (.buildCredentials _ _ _), _⟩ => true
  | _ => false

/-- Whether the exchanges of a kind all come after one of another kind. -/
def comesAfter (first second : Exchange Action.Reply → Bool) : Dialogue → Bool
  | [] => true
  | x :: rest => !second x && (first x || comesAfter first second rest)

theorem exists_of_comesAfter {first second : Exchange Action.Reply → Bool} {asked later : Dialogue}
    {x : Exchange Action.Reply} (h : comesAfter first second (asked ++ x :: later) = true)
    (hx : second x = true) : ∃ y ∈ asked, first y = true := by
  induction asked with
  | nil => simp [comesAfter, hx] at h
  | cons y asked ih =>
    simp only [List.cons_append, comesAfter, Bool.and_eq_true, Bool.or_eq_true] at h
    rcases h.2 with hy | hrest
    · exact ⟨y, by simp, hy⟩
    · obtain ⟨z, hz, hfirst⟩ := ih hrest
      exact ⟨z, by simp [hz], hfirst⟩

namespace Broker

section Course

variable {broker : Broker} {i b : String} {details : BindDetails} {exchanges : Dialogue}
  {result : Except BrokerError Binding}

/-- A bind handles credentials only after it has created the record. -/
theorem BindCourse.comesAfter (h : BindCourse broker i b details exchanges result) :
    Brokerage.comesAfter (fun x ↦ x.created?.isSome) Exchange.handlesCredentials exchanges =
      true := by
  cases h <;> rfl

/-- Before a bind handles credentials, it has created the record. -/
theorem BindCourse.created_of_handles {before later : Dialogue} {x : Exchange Action.Reply}
    (h : BindCourse broker i b details (before ++ x :: later) result)
    (hx : x.handlesCredentials = true) : ∃ y ∈ before, y.created? = some (.binding i b) := by
  obtain ⟨y, hy, hcreated⟩ := exists_of_comesAfter h.comesAfter hx
  obtain ⟨subject, hsubject⟩ := Option.isSome_iff_exists.1 hcreated
  obtain ⟨rfl, -⟩ := h.created_of_written y (List.mem_append_left _ hy) subject
    (Exchange.written_of_created hsubject)
  exact ⟨y, hy, hsubject⟩

theorem BindCourse.creates_of_ok {binding : Binding}
    (h : BindCourse broker i b details exchanges (.ok binding)) :
    ∃ x ∈ exchanges, x.created? = some (.binding i b) := by
  cases h <;> exact ⟨_, List.getElem_mem (n := 3) (by simp), rfl⟩

/-- The provider of a bind has issued credentials. -/
def CredentialsIssued (exchanges : Dialogue) : Prop :=
  ∃ serviceId vars issued, .provider (.bind serviceId vars) (.ok issued) ∈ exchanges

/-- A bind that was issued credentials goes on to create the record. -/
theorem BindCourse.asks_to_create (h : BindCourse broker i b details exchanges result)
    (hissued : CredentialsIssued exchanges) :
    ∃ record reply, .store (.createBinding record) reply ∈ exchanges ∧
      record.instanceId = i ∧ record.bindingId = b ∧
      ∀ e, reply = .error e → e.isConflict = true →
        result = .error (.bindingAlreadyExists i b) := by
  obtain ⟨serviceId, vars, issued, hmem⟩ := hissued
  cases h with
  | unchecked | taken | unread | refused | declined => simp at hmem
  | unrecorded _ issued e =>
    refine ⟨_, _, List.getElem_mem (n := 3) (by simp), rfl, rfl, ?_⟩
    rintro _ ⟨⟩ hconflict
    simp [unrecordedBinding, hconflict]
  | unbuilt | bound | unstored | ungranted | handedOff =>
    exact ⟨_, _, List.getElem_mem (n := 3) (by simp), rfl, rfl, by simp⟩

/-- What a bind has asked of the vault: to put the credentials that were built under the name of
the binding, and to let the application read them. -/
def HandsOff (name : String) (appGuid : Option String) (built : Binding → Prop)
    (exchanges : Dialogue) : Prop :=
  ∀ q reply, .vault q reply ∈ exchanges → ∃ binding app, built binding ∧ appGuid = some app ∧
    (q = .put name (.object binding.credentials) ∨
      q = .addPermission name (appActor app) [readOperation])

/-- What a bind that created the record of its binding has done, and what it went on to. -/
theorem BindCourse.of_created (h : BindCourse broker i b details exchanges result)
    {x : Exchange Action.Reply} (hx : x ∈ exchanges) (hcreated : x.created? = some (.binding i b)) :
    ∃ record service reader vars issued,
      .store (.getInstance i) (.ok record) ∈ exchanges ∧
      broker.admitBind record b details = .ok (service, reader, vars) ∧
      .provider (.bind service.definition.id vars) (.ok issued) ∈ exchanges ∧
      x = .store (.createBinding (issuedRecord i b service issued)) (.ok ()) ∧
      HandsOff (broker.credentialNameFor service b) details.appGuid
        (fun binding ↦ .provider (.buildCredentials service.definition.id
          (issuedRecord i b service issued) record) (.ok binding) ∈ exchanges) exchanges := by
  have hguid {record : InstanceRecord} {service : RegisteredService} {app : String}
      {vars : Variables}
      (hadmits : broker.admitBind record b details = .ok (service, some app, vars)) :
      details.appGuid = some app := by
    obtain ⟨plan, -, hreader, -⟩ := admitBind_ok hadmits
    exact appGuid_of_vaultReader hreader
  have hcreation {record : InstanceRecord} {service : RegisteredService} {vars : Variables}
      {issued : Json} {rest : Dialogue} (hrest : ∀ y ∈ rest, y.created? = none)
      (hx : x ∈ [.store (.bindingExists i b) (.ok false), .store (.getInstance i) (.ok record),
        .provider (.bind service.definition.id vars) (.ok issued),
        .store (.createBinding (issuedRecord i b service issued)) (.ok ())] ++ rest) :
      x = .store (.createBinding (issuedRecord i b service issued)) (.ok ()) := by
    rcases List.mem_append.1 hx with hx | hx
    · simp only [List.mem_cons, List.not_mem_nil, or_false] at hx
      rcases hx with rfl | rfl | rfl | rfl
      · cases hcreated
      · cases hcreated
      · cases hcreated
      · rfl
    · cases (hrest x hx).symm.trans hcreated
  cases h with
  | unchecked | taken | unread | refused | declined | unrecorded =>
    simp only [List.mem_cons, List.not_mem_nil, or_false] at hx
    rcases hx with rfl | rfl | rfl | rfl <;> cases hcreated
  | @unbuilt record service reader vars hadmits issued e =>
    exact ⟨record, service, reader, vars, issued, by simp, hadmits, by simp,
      hcreation (Exchange.eq_none_of_all rfl) hx, by simp [HandsOff]⟩
  | @bound record service vars hadmits issued binding =>
    exact ⟨record, service, none, vars, issued, by simp, hadmits, by simp,
      hcreation (Exchange.eq_none_of_all rfl) hx, by simp [HandsOff]⟩
  | @unstored record service app vars hadmits issued binding e =>
    refine ⟨record, service, some app, vars, issued, by simp, hadmits, by simp,
      hcreation (Exchange.eq_none_of_all rfl) hx, fun q reply hasked ↦ ?_⟩
    obtain ⟨rfl, -⟩ : q = .put (broker.credentialNameFor service b) (.object binding.credentials) ∧
        _ := by simpa using hasked
    exact ⟨binding, app, by simp, hguid hadmits, .inl rfl⟩
  | @ungranted record service app vars hadmits issued binding version e
  | @handedOff record service app vars hadmits issued binding version =>
    refine ⟨record, service, some app, vars, issued, by simp, hadmits, by simp,
      hcreation (Exchange.eq_none_of_all rfl) hx, fun q reply hasked ↦ ?_⟩
    refine ⟨binding, app, by simp, hguid hadmits, ?_⟩
    simp only [List.mem_cons, List.not_mem_nil, Exchange.mk.injEq, reduceCtorEq, false_and,
      Action.vault.injEq, or_false, false_or] at hasked
    exact hasked.imp And.left And.left

end Course

end Broker

end Brokerage
