import Brokerage.Proofs.Frame
import Mathlib.Data.List.Induction

/-!
What calls make of a vault that is kept in memory. A bind that returns a reference has handed
credentials off under the name referred to, for one application to read; an unbind that gets as
far as the vault clears the name of its binding. Between them they decide what is under a name: the
credentials of the last hand-off since the name was cleared, readable by the applications of all
of them.
-/

set_option autoImplicit false

namespace Brokerage.Broker

/-- Credentials that a bind has put into the vault for an application to read. -/
structure HandOff where
  pair : String × String
  name : String
  app : String
  credentials : Members

/-- The credentials that a provider built in a dialogue. -/
def builtCredentials? (exchanges : Dialogue) : Option Members :=
  exchanges.findSome? fun x ↦
    match x with
    | ⟨.provider (.buildCredentials _ _ _), .ok binding⟩ => some binding.credentials
    | _ => none

/-- The hand-off of a bind for an application that returned a reference. -/
def Served.handOff? : Served → Option HandOff
  | ⟨.bind i b details, exchanges, .ok binding⟩ =>
    match details.appGuid, builtCredentials? exchanges with
    | some app, some credentials =>
      some ⟨(i, b), (Json.object binding.credentials).textAt credentialRefKey, app, credentials⟩
    | _, _ => none
  | _ => none

/-- Whether an exchange has the vault delete what is under a name. -/
def deletes (name : String) : Exchange Action.Reply → Bool
  | ⟨.vault (.delete deleted), _⟩ => deleted == name
  | _ => false

/-- The hand-offs under a name after a call, which may clear it or hand off under it. -/
def holding (name : String) (held : List HandOff) (call : Served) : List HandOff :=
  if call.exchanges.any (deletes name) then []
  else held ++ (call.handOff?.filter fun handOff ↦ handOff.name == name).toList

/-- The hand-offs under a name since a call last cleared it. -/
def heldUnder (name : String) (calls : List Served) : List HandOff :=
  calls.foldl (holding name) []

/-- An entry of the vault after a hand-off. -/
def HandOff.entry (handOff : HandOff) (known : Option Vault.Entry) : Vault.Entry :=
  Vault.granted (Vault.written known (.object handOff.credentials)) (appActor handOff.app)
    [readOperation]

/-! ### The vault in memory -/

section Memory

variable {v v₁ v₂ : Vault} {name : String}

/-- A value that is put and granted at once is there, whatever was under the name. -/
theorem get?_of_put_grant {value : Json} {actor : String} {operations : List String}
    {stored : Except Vault.Error String} {granted : Except Vault.Error Unit}
    (hput : v.answer (.put name value) = (stored, v₁))
    (hgrant : v₁.answer (.addPermission name actor operations) = (granted, v₂)) :
    (∃ version, stored = .ok version) ∧ granted = .ok () ∧ ∀ n, v₂.get? n =
      if n = name then some (Vault.granted (Vault.written (v.get? name) value) actor operations)
      else v.get? n := by
  simp only [Vault.answer, Prod.mk.injEq] at hput
  obtain ⟨hstored, rfl⟩ := hput
  simp only [Vault.answer, Vault.onPresent, Table.get?_put, if_true, Prod.mk.injEq] at hgrant
  obtain ⟨hgranted, rfl⟩ := hgrant
  refine ⟨⟨_, hstored.symm⟩, hgranted.symm, fun n ↦ ?_⟩
  rw [Table.get?_put, Table.get?_put]
  split
  next => rfl
  next => rfl

/-- A name that is deleted is gone, and the deletion does not fail but for its absence. -/
theorem get?_of_delete {revoked deleted : Except Vault.Error Unit}
    (hrevoke : v.answer (.deletePermission name) = (revoked, v₁))
    (hdelete : v₁.answer (.delete name) = (deleted, v₂)) :
    (∀ message, deleted ≠ .error (.request message)) ∧
      ∀ n, v₂.get? n = if n = name then none else v.get? n := by
  cases hfound : v.get? name with
  | none =>
    simp only [Vault.answer, Vault.onPresent, hfound, Prod.mk.injEq] at hrevoke
    obtain ⟨-, rfl⟩ := hrevoke
    simp only [Vault.answer, Vault.onPresent, hfound, Prod.mk.injEq] at hdelete
    obtain ⟨rfl, rfl⟩ := hdelete
    refine ⟨by rintro message ⟨⟩, fun n ↦ ?_⟩
    split
    next hn => rw [hn, hfound]
    next => rfl
  | some entry =>
    simp only [Vault.answer, Vault.onPresent, hfound, Prod.mk.injEq] at hrevoke
    obtain ⟨-, rfl⟩ := hrevoke
    simp only [Vault.answer, Vault.onPresent, Table.get?_put, if_true, Prod.mk.injEq] at hdelete
    obtain ⟨rfl, rfl⟩ := hdelete
    refine ⟨by rintro message ⟨⟩, fun n ↦ ?_⟩
    rw [Table.get?_remove, Table.get?_put]
    split
    next => rfl
    next => rfl

end Memory

/-! ### One call -/

variable {broker : Broker} {i b : String} {setting : Setting} {w w' : World}
  {exchanges : Dialogue}

theorem any_deletes_eq_false {name : String} (h : ∀ x ∈ exchanges, x.vaultName? ≠ some name) :
    exchanges.any (deletes name) = false := by
  rw [List.any_eq_false]
  intro x hx hdeletes
  unfold deletes at hdeletes
  split at hdeletes
  next deleted _ =>
    refine h _ hx ?_
    rw [show deleted = name from by simpa using hdeletes]
    rfl
  next => cases hdeletes

/-- What a bind with a vault in memory makes of the entry under a name. -/
theorem BindCourse.get?_vault {details : BindDetails} {result : Except BrokerError Binding}
    (h : BindCourse broker i b details exchanges result) (hvault : broker.hasVault = true)
    (hmemory : setting.VaultInMemory) (hsteps : Steps setting.Allows w exchanges w') :
    ((∀ x ∈ exchanges, x.vaultName? = none) ∧
        Served.handOff? ⟨.bind i b details, exchanges, result⟩ = none) ∨
      ∃ handOff, Served.handOff? ⟨.bind i b details, exchanges, result⟩ = some handOff ∧
        (∀ n, exchanges.any (deletes n) = false) ∧
        (∃ x ∈ exchanges, x.vaultName? = some handOff.name) ∧
        (∀ x ∈ exchanges, x.vaultName? = none ∨ x.vaultName? = some handOff.name) ∧
        ∀ n, w'.vault.get? n = if n = handOff.name then some (handOff.entry (w.vault.get? n))
          else w.vault.get? n := by
  cases h with
  | unchecked | taken | unread | refused | declined | unrecorded | unbuilt =>
    exact .inl ⟨Exchange.eq_none_of_all rfl, rfl⟩
  | bound hadmits =>
    obtain ⟨plan, -, hreader, -⟩ := admitBind_ok hadmits
    rw [hasVault_of_vaultReader hreader] at hvault
    cases hvault
  | unstored =>
    simp only [Steps.cons_iff, Steps.nil_iff, Setting.allows_store_iff,
      Setting.allows_provider_iff, Setting.allows_vault_iff] at hsteps
    obtain ⟨_, -, _, -, _, -, _, -, _, -, _, ⟨v₁, hput, -⟩, -⟩ := hsteps
    have hstored := hmemory _ _ _ _ hput
    simp [Vault.answer] at hstored
  | ungranted =>
    simp only [Steps.cons_iff, Steps.nil_iff, Setting.allows_store_iff,
      Setting.allows_provider_iff, Setting.allows_vault_iff] at hsteps
    obtain ⟨_, -, _, -, _, -, _, -, _, -, _, ⟨v₁, hput, rfl⟩, _, ⟨v₂, hgrant, -⟩, -⟩ := hsteps
    obtain ⟨-, hgranted, -⟩ := get?_of_put_grant (hmemory _ _ _ _ hput) (hmemory _ _ _ _ hgrant)
    cases hgranted
  | @handedOff record service app vars hadmits issued binding version =>
    obtain ⟨plan, -, hreader, -⟩ := admitBind_ok hadmits
    have hguid := appGuid_of_vaultReader hreader
    refine .inr ⟨⟨(i, b), broker.credentialNameFor service b, app, binding.credentials⟩, ?_, ?_,
      ?_, ?_, ?_⟩
    · simp [Served.handOff?, hguid, builtCredentials?, referenceTo, Json.textAt, Json.field,
        Json.membersOf, Json.textOf, Json.text?, Members.get?_cons]
    · exact fun n ↦ rfl
    · exact ⟨.vault (.put (broker.credentialNameFor service b) (.object binding.credentials))
        (.ok version), by simp, rfl⟩
    · simp only [List.forall_mem_cons, Exchange.vaultName?, Vault.Request.name, true_or, or_true,
        true_and]
      exact List.forall_mem_nil _
    · simp only [Steps.cons_iff, Steps.nil_iff, Setting.allows_store_iff,
        Setting.allows_provider_iff, Setting.allows_vault_iff] at hsteps
      obtain ⟨_, ⟨_, -, rfl⟩, _, ⟨_, -, rfl⟩, _, ⟨-, rfl⟩, _, ⟨_, -, rfl⟩, _, ⟨-, rfl⟩, _,
        ⟨v₁, hput, rfl⟩, _, ⟨v₂, hgrant, rfl⟩, rfl⟩ := hsteps
      obtain ⟨-, -, hentry⟩ := get?_of_put_grant (hmemory _ _ _ _ hput) (hmemory _ _ _ _ hgrant)
      intro n
      rw [show v₂.get? n = _ from hentry n]
      split
      next hn =>
        rw [hn]
        rfl
      next => rfl

/-- What is said to a vault in memory to clear a name leaves nothing under it. -/
theorem Clearing.get?_vault {name : String} {failure : Option Vault.Error}
    (h : Clearing broker name exchanges failure) (hvault : broker.hasVault = true)
    (hmemory : setting.VaultInMemory) (hsteps : Steps setting.Allows w exchanges w') :
    failure = none ∧ (∀ n, exchanges.any (deletes n) = (name == n)) ∧
      (∀ x ∈ exchanges, x.vaultName? = some name) ∧
      ∀ n, w'.vault.get? n = if n = name then none else w.vault.get? n := by
  cases h with
  | needless hnone =>
    rw [hnone] at hvault
    cases hvault
  | cleared =>
    simp only [Steps.cons_iff, Steps.nil_iff, Setting.allows_vault_iff] at hsteps
    obtain ⟨_, ⟨v₁, hrevoke, rfl⟩, _, ⟨v₂, hdelete, rfl⟩, rfl⟩ := hsteps
    refine ⟨rfl, ?_, ?_, ?_⟩
    · intro n
      simp only [List.any_cons, List.any_nil, deletes, Bool.false_or, Bool.or_false]
    · simp only [List.forall_mem_cons, Exchange.vaultName?, Vault.Request.name, true_and]
      exact List.forall_mem_nil _
    · exact (get?_of_delete (hmemory _ _ _ _ hrevoke) (hmemory _ _ _ _ hdelete)).2
  | uncleared _ _ message =>
    simp only [Steps.cons_iff, Steps.nil_iff, Setting.allows_vault_iff] at hsteps
    obtain ⟨_, ⟨v₁, hrevoke, rfl⟩, _, ⟨v₂, hdelete, rfl⟩, rfl⟩ := hsteps
    obtain ⟨hdeleted, -⟩ := get?_of_delete (hmemory _ _ _ _ hrevoke) (hmemory _ _ _ _ hdelete)
    exact absurd rfl (hdeleted message)

/-- The name of a recorded binding was cleared, and no other name was touched. -/
structure ClearsBinding (broker : Broker) (i b name : String) (exchanges : Dialogue)
    (w w' : World) : Prop where
  named : ∃ binding service, w.store.bindings.get? (i, b) = some binding ∧
    broker.registry.resolve binding.serviceId = .ok service ∧
    broker.credentialNameFor service b = name
  deletes : ∀ n, exchanges.any (deletes n) = (name == n)
  asks : ∀ x ∈ exchanges, x.vaultName? = none ∨ x.vaultName? = some name
  entry : ∀ n, w'.vault.get? n = if n = name then none else w.vault.get? n

theorem clearsBinding_of_clearing {binding : BindingRecord} {record : InstanceRecord}
    {service : RegisteredService} {clearing rest : Dialogue} {failure : Option Vault.Error}
    (hvault : broker.hasVault = true) (hmemory : setting.VaultInMemory)
    (hresolve : broker.registry.resolve binding.serviceId = .ok service)
    (hclear : Clearing broker (broker.credentialNameFor service b) clearing failure)
    (hrest : ∀ x ∈ rest, x.vaultName? = none)
    (hsteps : Steps setting.Allows w
      (.store (.getBinding i b) (.ok binding) :: .store (.getInstance i) (.ok record) ::
        (clearing ++ rest)) w') :
    ClearsBinding broker i b (broker.credentialNameFor service b)
      (.store (.getBinding i b) (.ok binding) :: .store (.getInstance i) (.ok record) ::
        (clearing ++ rest)) w w' := by
  simp only [Steps.cons_iff, Steps.append_iff, Setting.allows_store_iff] at hsteps
  obtain ⟨_, ⟨_, hread, rfl⟩, _, ⟨_, -, rfl⟩, v, hclearing, htail⟩ := hsteps
  obtain ⟨-, hdeletes, hnames, hget⟩ := hclear.get?_vault hvault hmemory hclearing
  have hsame : w'.vault = v.vault := Setting.vault_eq_of_steps htail hrest
  refine ⟨⟨binding, service, hread.getBinding_ok, hresolve, rfl⟩, ?_, ?_, ?_⟩
  · intro n
    have hnone : rest.any (deletes n) = false :=
      any_deletes_eq_false fun x hx ↦ by simp [hrest x hx]
    simp only [List.any_cons, List.any_append, deletes, hdeletes n, hnone, Bool.false_or,
      Bool.or_false]
  · intro x hx
    simp only [List.mem_cons, List.mem_append] at hx
    rcases hx with rfl | rfl | hx | hx
    · exact .inl rfl
    · exact .inl rfl
    · exact .inr (hnames x hx)
    · exact .inl (hrest x hx)
  · rw [hsame]
    exact hget

/-- An unbind with a vault in memory asks it and writes records only if it clears the name of its
binding. -/
theorem UnbindCourse.clearsBinding {result : Except BrokerError Unit}
    (h : UnbindCourse broker i b exchanges result) (hvault : broker.hasVault = true)
    (hmemory : setting.VaultInMemory) (hsteps : Steps setting.Allows w exchanges w') :
    ((∀ x ∈ exchanges, x.vaultName? = none) ∧ ∀ x ∈ exchanges, x.written? = none) ∨
      ∃ name, ClearsBinding broker i b name exchanges w w' := by
  cases h with
  | unread | instanceUnread | unresolved =>
    exact .inl ⟨Exchange.eq_none_of_all rfl, Exchange.eq_none_of_all rfl⟩
  | @uncleared binding record service hresolve clearing e hclear =>
    rw [← List.append_nil clearing] at hsteps ⊢
    exact .inr ⟨_, clearsBinding_of_clearing hvault hmemory hresolve hclear (by simp) hsteps⟩
  | declined binding record hresolve hclear | undeleted binding record hresolve hclear
  | unbound binding record hresolve hclear =>
    exact .inr ⟨_, clearsBinding_of_clearing hvault hmemory hresolve hclear
      (Exchange.eq_none_of_all rfl) hsteps⟩

/-- What a call has to do with the vault: nothing, one hand-off, or clearing one name. -/
inductive VaultUse (broker : Broker) (call : Served) (w w' : World) : Prop
  | silent (hsilent : ∀ x ∈ call.exchanges, x.vaultName? = none) (hnone : call.handOff? = none)
    (hsame : w'.vault = w.vault)
  | handsOff (handOff : HandOff) (hcall : call.handOff? = some handOff)
    (hkeeps : ∀ n, call.exchanges.any (deletes n) = false)
    (hput : ∃ x ∈ call.exchanges, x.vaultName? = some handOff.name)
    (hasks : ∀ x ∈ call.exchanges, x.vaultName? = none ∨ x.vaultName? = some handOff.name)
    (hentry : ∀ n, w'.vault.get? n =
      if n = handOff.name then some (handOff.entry (w.vault.get? n)) else w.vault.get? n)
  | clears {i b : String} {details : UnbindDetails} (name : String)
    (hrequest : call.request = .unbind i b details) (hnone : call.handOff? = none)
    (hclears : ClearsBinding broker i b name call.exchanges w w')

theorem Serves.vaultUse {call : Served} (h : broker.Serves setting w call w')
    (hvault : broker.hasVault = true) (hmemory : setting.VaultInMemory) :
    VaultUse broker call w w' := by
  obtain ⟨request, exchanges, result⟩ := call
  obtain ⟨hends, hsteps⟩ := h
  have hsilent (hnames : ∀ x ∈ exchanges, x.vaultName? = none)
      (hnone : Served.handOff? ⟨request, exchanges, result⟩ = none) :
      VaultUse broker ⟨request, exchanges, result⟩ w w' :=
    .silent hnames hnone (Setting.vault_eq_of_steps hsteps hnames)
  cases request with
  | provision =>
    refine hsilent (Exchange.eq_none_of_all ?_) rfl
    cases ProvisionCourse.of_ends hends <;> rfl
  | update =>
    refine hsilent (Exchange.eq_none_of_all ?_) rfl
    cases UpdateCourse.of_ends hends <;> rfl
  | deprovision =>
    refine hsilent (Exchange.eq_none_of_all ?_) rfl
    cases DeprovisionCourse.of_ends hends <;> rfl
  | lastOperation i details =>
    refine hsilent (Exchange.eq_none_of_all ?_) rfl
    cases PollCourse.of_ends details hends <;> rfl
  | bind i b details =>
    rcases (BindCourse.of_ends hends).get?_vault hvault hmemory hsteps with
      ⟨hnames, hnone⟩ | ⟨handOff, hcall, hkeeps, hput, hasks, hentry⟩
    · exact hsilent hnames hnone
    · exact .handsOff handOff hcall hkeeps hput hasks hentry
  | unbind i b details =>
    rcases (UnbindCourse.of_ends details hends).clearsBinding hvault hmemory hsteps with
      ⟨hnames, -⟩ | ⟨name, hclears⟩
    · exact hsilent hnames rfl
    · exact .clears name rfl rfl hclears

/-! ### What is under a name -/

/-- The permissions that hand-offs leave, each granted on top of those before it. -/
def grants (held : List HandOff) : List Permission :=
  held.foldl (fun permissions handOff ↦
    permissions.filter (fun p ↦ p.actor ≠ appActor handOff.app) ++
      [⟨appActor handOff.app, [readOperation]⟩]) []

theorem grants_concat (held : List HandOff) (last : HandOff) :
    grants (held ++ [last]) = (grants held).filter (fun p ↦ p.actor ≠ appActor last.app) ++
      [⟨appActor last.app, [readOperation]⟩] :=
  List.foldl_append

/-- A name holds the last credentials handed off under it, for all the applications to read. -/
structure Holds (v : Vault) (name : String) (held : List HandOff) : Prop where
  value : v.value? name = held.getLast?.map fun handOff ↦ .object handOff.credentials
  permissions : v.permissions name = grants held

theorem holds_empty (name : String) : Holds Vault.empty name [] :=
  ⟨rfl, rfl⟩

/-! ### What is held after a call -/

section Holding

variable {call : Served} {name : String} (held : List HandOff)

theorem holding_of_silent (hsilent : ∀ x ∈ call.exchanges, x.vaultName? ≠ some name)
    (hother : ∀ handOff, call.handOff? = some handOff → handOff.name ≠ name) :
    holding name held call = held := by
  unfold holding
  rw [any_deletes_eq_false hsilent]
  cases hcall : call.handOff? with
  | none => simp
  | some handOff => simp [hother handOff hcall]

theorem holding_of_handOff {handOff : HandOff} (hcall : call.handOff? = some handOff)
    (hkeeps : call.exchanges.any (deletes handOff.name) = false) :
    holding handOff.name held call = held ++ [handOff] := by
  simp [holding, hkeeps, hcall]

theorem holding_of_deletes (hdeletes : call.exchanges.any (deletes name) = true) :
    holding name held call = [] := by
  simp [holding, hdeletes]

end Holding

theorem Holds.congr {v v' : Vault} {name : String} {held : List HandOff}
    (hsame : v'.get? name = v.get? name) (h : Holds v name held) : Holds v' name held := by
  refine ⟨?_, ?_⟩
  · rw [← h.value, Vault.value?, Vault.value?, hsame]
  · rw [← h.permissions, Vault.permissions, Vault.permissions, hsame]

/-- A hand-off goes on top of what is held. -/
theorem Holds.handOff {v v' : Vault} {handOff : HandOff} {held : List HandOff}
    (hentry : v'.get? handOff.name = some (handOff.entry (v.get? handOff.name)))
    (h : Holds v handOff.name held) : Holds v' handOff.name (held ++ [handOff]) := by
  have hpermissions : (Vault.written (v.get? handOff.name)
      (.object handOff.credentials)).permissions = grants held := by
    rw [← h.permissions, Vault.permissions]
    cases v.get? handOff.name <;> rfl
  refine ⟨?_, ?_⟩
  · rw [Vault.value?, hentry, List.getLast?_concat]
    show some (Vault.written (v.get? handOff.name) _).value = _
    cases v.get? handOff.name <;> rfl
  · rw [Vault.permissions, hentry]
    show (Vault.written _ _).permissions.filter _ ++ _ = grants (held ++ [handOff])
    rw [hpermissions, grants_concat]

theorem holds_of_absent {v : Vault} {name : String} (h : v.get? name = none) : Holds v name [] := by
  refine ⟨?_, ?_⟩
  · rw [Vault.value?, h]
    rfl
  · rw [Vault.permissions, h]
    rfl

/-- A call makes of a name what it makes of the hand-offs held under it. -/
theorem Serves.holds {call : Served} {name : String} {held : List HandOff}
    (h : broker.Serves setting w call w') (hvault : broker.hasVault = true)
    (hmemory : setting.VaultInMemory) (hholds : Holds w.vault name held) :
    Holds w'.vault name (holding name held call) := by
  cases h.vaultUse hvault hmemory with
  | silent hsilent hnone hsame =>
    rw [holding_of_silent held (fun x hx ↦ by simp [hsilent x hx]) (by simp [hnone]), hsame]
    exact hholds
  | handsOff handOff hcall hkeeps hput hasks hentry =>
    by_cases hname : handOff.name = name
    · subst hname
      rw [holding_of_handOff held hcall (hkeeps _)]
      exact hholds.handOff ((hentry _).trans (if_pos rfl))
    · have hother : ∀ x ∈ call.exchanges, x.vaultName? ≠ some name :=
        Exchange.ne_some_of_only hasks hname
      rw [holding_of_silent held hother (by rw [hcall]; rintro _ ⟨⟩; exact hname)]
      exact hholds.congr ((hentry name).trans (if_neg (Ne.symm hname)))
  | clears cleared hrequest hnone hclears =>
    by_cases hname : cleared = name
    · rw [holding_of_deletes held (by simpa [hclears.deletes] using hname)]
      exact holds_of_absent ((hclears.entry name).trans (if_pos hname.symm))
    · have hother : ∀ x ∈ call.exchanges, x.vaultName? ≠ some name :=
        Exchange.ne_some_of_only hclears.asks hname
      rw [holding_of_silent held hother (by simp [hnone])]
      exact hholds.congr ((hclears.entry name).trans (if_neg (Ne.symm hname)))

theorem holds_of_history {calls : List Served} {name : String} {held : List HandOff}
    (hrun : Steps (broker.Serves setting) w calls w') (hvault : broker.hasVault = true)
    (hmemory : setting.VaultInMemory) (hholds : Holds w.vault name held) :
    Holds w'.vault name (calls.foldl (holding name) held) := by
  induction hrun generalizing held with
  | nil w => exact hholds
  | cons head tail ih => exact ih (head.holds hvault hmemory hholds)

/-! ### Who may read -/

theorem appActor_injective {app app' : String} (h : appActor app = appActor app') : app = app' := by
  have hlist := congrArg String.toList h
  simp only [appActor, String.toList_append, List.append_cancel_left_eq] at hlist
  exact String.toList_injective hlist

theorem mem_grants {held : List HandOff} {p : Permission} :
    p ∈ grants held ↔ ∃ handOff ∈ held, p = ⟨appActor handOff.app, [readOperation]⟩ := by
  induction held using List.reverseRecOn with
  | nil => simp [grants]
  | append_singleton held last ih =>
    simp only [grants_concat, List.mem_append, List.mem_filter, ih, List.mem_singleton]
    constructor
    · rintro (⟨⟨handOff, hmem, rfl⟩, -⟩ | rfl)
      · exact ⟨handOff, .inl hmem, rfl⟩
      · exact ⟨last, .inr rfl, rfl⟩
    · rintro ⟨handOff, hmem | rfl, rfl⟩
      · by_cases happ : appActor handOff.app = appActor last.app
        · exact .inr (by rw [happ])
        · exact .inl ⟨⟨handOff, hmem, rfl⟩, by simpa using happ⟩
      · exact .inr rfl

/-- Just one application may read exactly when every hand-off was for it. -/
theorem grants_eq_singleton_iff {held : List HandOff} {app : String} :
    grants held = [⟨appActor app, [readOperation]⟩] ↔
      held ≠ [] ∧ ∀ handOff ∈ held, handOff.app = app := by
  constructor
  · intro hgrants
    refine ⟨?_, fun handOff hmem ↦ ?_⟩
    · rintro rfl
      cases hgrants
    · have hgranted := mem_grants.2 ⟨handOff, hmem, rfl⟩
      rw [hgrants, List.mem_singleton] at hgranted
      exact appActor_injective (congrArg Permission.actor hgranted)
  · rintro ⟨hne, hall⟩
    obtain ⟨held, last, rfl⟩ := List.eq_nil_or_concat held |>.resolve_left hne
    have hlast : last.app = app := hall last (by simp)
    have hbefore : (grants held).filter (fun p ↦ p.actor ≠ appActor last.app) = [] := by
      rw [List.filter_eq_nil_iff]
      intro p hp
      obtain ⟨handOff, hmem, rfl⟩ := mem_grants.1 hp
      simp [hall handOff (by simp [hmem]), hlast]
    rw [List.concat_eq_append, grants_concat, hbefore, hlast]
    rfl

/-- A name holds these credentials for this one application to read, and nothing else. -/
def HoldsExactly (v : Vault) (name app : String) (credentials : Members) : Prop :=
  v.value? name = some (.object credentials) ∧
    v.permissions name = [⟨appActor app, [readOperation]⟩]

theorem Holds.exactly_iff {v : Vault} {name app : String} {credentials : Members}
    {held : List HandOff} (h : Holds v name held) :
    HoldsExactly v name app credentials ↔
      held.getLast?.map HandOff.credentials = some credentials ∧
        ∀ handOff ∈ held, handOff.app = app := by
  unfold HoldsExactly
  rw [h.value, h.permissions, grants_eq_singleton_iff]
  constructor
  · rintro ⟨hvalue, -, hall⟩
    refine ⟨?_, hall⟩
    cases hlast : held.getLast? with
    | none => simp [hlast] at hvalue
    | some last => simpa [hlast] using hvalue
  · rintro ⟨hlast, hall⟩
    refine ⟨?_, ?_, hall⟩
    · cases hheld : held.getLast? with
      | none => simp [hheld] at hlast
      | some last => simpa [hheld] using hlast
    · rintro rfl
      cases hlast

end Brokerage.Broker
