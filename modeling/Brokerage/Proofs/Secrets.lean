import Brokerage.Proofs.BindOrder
import Brokerage.Proofs.Course.Deprovision
import Brokerage.Proofs.Course.LastOperation
import Brokerage.Proofs.Course.Provision
import Brokerage.Proofs.Course.Unbind
import Brokerage.Proofs.Course.Update
import Brokerage.Proofs.Serving
import Brokerage.Proofs.VaultAnswers
import Mathlib.Data.List.Basic

/-!
No secret is left in the vault without a record of its binding. A bind records the binding before it
puts anything into the vault, and an unbind deletes the record only when nothing is left under the
name of the binding; whatever fails between, a secret in the vault belongs to a binding that is
recorded. This holds at every moment of every call.
-/

set_option autoImplicit false

namespace Brokerage.Broker

/-- A name that credentials of a recorded binding are vaulted under. -/
def NamesRecorded (broker : Broker) (s : Store) (name : String) : Prop :=
  ∃ i b record service, s.bindings.get? (i, b) = some record ∧
    broker.registry.resolve record.serviceId = .ok service ∧
    broker.credentialNameFor service b = name

/-- Whatever lies in the vault lies under the name of a recorded binding. -/
def NoStraySecret (broker : Broker) (w : World) : Prop :=
  ∀ name entry, w.vault.get? name = some entry → NamesRecorded broker w.store name

theorem noStraySecret_empty (broker : Broker) : NoStraySecret broker {} := by
  intro name entry hentry
  cases hentry

variable {broker : Broker} {setting : Setting} {i b : String} {w w' v : World}
  {before later : Dialogue} {x : Exchange Action.Reply}

/-- Only a value that is put under a name makes an entry appear there. -/
theorem get?_vault_of_not_put (h : setting.Allows w x w') (hvault : setting.VaultActsAsAsked)
    {name : String} (hput : ∀ value reply, x ≠ .vault (.put name value) reply)
    (habsent : w.vault.get? name = none) : w'.vault.get? name = none := by
  rcases h.entry_cases hvault name with hsame | ⟨q, reply, rfl, rfl, heffect⟩
  · exact hsame.trans habsent
  · rw [heffect, habsent]
    cases q with
    | put name value => exact absurd rfl (hput value reply)
    | addPermission | deletePermission | delete => rfl

/-- An exchange leaves no stray secret if a name it puts a value under is that of a recorded
binding, and a binding it deletes the record of has nothing under its name. -/
theorem NoStraySecret.step (h : NoStraySecret broker w) (hstep : setting.Allows w x w')
    (hvault : setting.VaultActsAsAsked)
    (hput : ∀ name value reply, x = .vault (.put name value) reply →
      NamesRecorded broker w.store name)
    (hdelete : ∀ i b record service, x.written? = some (.binding i b) →
      w.store.bindings.get? (i, b) = some record →
      broker.registry.resolve record.serviceId = .ok service →
      w.vault.get? (broker.credentialNameFor service b) = none) : NoStraySecret broker w' := by
  intro name entry hentry
  have hnamed : NamesRecorded broker w.store name := by
    cases hfound : w.vault.get? name with
    | some found => exact h name found hfound
    | none =>
      refine Classical.byContradiction fun hnot ↦ ?_
      have habsent := get?_vault_of_not_put hstep hvault
        (fun value reply hx ↦ hnot (hput name value reply hx)) hfound
      cases habsent.symm.trans hentry
  obtain ⟨i, b, record, service, hrecord, hresolve, rfl⟩ := hnamed
  by_cases hwritten : x.written? = some (.binding i b)
  · have hsame : w'.vault = w.vault := by
      cases hstep with
      | store | provider => rfl
      | vault => cases hwritten
    rw [hsame, hdelete i b record service hwritten hrecord hresolve] at hentry
    cases hentry
  · have hkept := (hstep.sameRecord_of_written hwritten).of_binding
    exact ⟨i, b, record, service, hkept.trans hrecord, hresolve, rfl⟩

/-! ### A bind -/

/-- What a bind has come to by the time it has created the record of its binding. -/
theorem BindCourse.recorded_of_created {details : BindDetails} {result : Except BrokerError Binding}
    (h : BindCourse broker i b details (before ++ later) result)
    (hsteps : Steps setting.Allows w before v) (hx : x ∈ before)
    (hcreated : x.created? = some (.binding i b)) :
    ∃ record service, v.store.bindings.get? (i, b) = some record ∧
      broker.registry.resolve record.serviceId = .ok service ∧
      ∀ name value reply, .vault (.put name value) reply ∈ before ++ later →
        name = broker.credentialNameFor service b := by
  obtain ⟨read, service, reader, vars, issued, -, hadmits, -, hcreate, hhandsOff⟩ :=
    h.of_created (List.mem_append_left _ hx) hcreated
  obtain ⟨plan, hresolve, -, -⟩ := admitBind_ok hadmits
  obtain ⟨early, late, t, t', rfl, -, hstep, hlate⟩ := hsteps.split_of_mem hx
  subst hcreate
  obtain ⟨now, hfound⟩ := hstep.answers.binding_of_createBinding
  have honly : ∀ y ∈ late, y.written? = some (.binding i b) → y.created? = some (.binding i b) :=
    fun y hy hwritten ↦ (h.created_of_written y (by simp [hy]) _ hwritten).2
  have hsame := Setting.sameRecord_of_unwritten hlate
    (Setting.unwritten_of_has hlate honly ⟨_, hfound⟩)
  refine ⟨_, service, hsame.of_binding.trans hfound,
    resolve_own_id (registry_resolve_of_resolve hresolve), fun name value reply hput ↦ ?_⟩
  obtain ⟨binding, app, -, -, hq | hq⟩ := hhandsOff _ _ hput <;> cases hq
  rfl

/-! ### An unbind -/

/-- What is said to clear a name leaves nothing under it, unless it fails. -/
theorem Clearing.absent {name : String} {clearing : Dialogue}
    (h : Clearing broker name clearing none) (hasVault : broker.hasVault = true)
    (hfails : setting.VaultFailsWithoutEffect) (hfinds : setting.VaultFindsWhatIsThere)
    (hsteps : Steps setting.Allows w clearing w') :
    w'.vault.get? name = none ∧ w'.store = w.store := by
  cases h with
  | needless hnone => cases hnone.symm.trans hasVault
  | cleared _ revoked deleted hdeleted =>
    simp only [Steps.cons_iff, Steps.nil_iff, Setting.allows_vault_iff] at hsteps
    obtain ⟨_, ⟨v₁, -, rfl⟩, _, ⟨v₂, hdelete, rfl⟩, rfl⟩ := hsteps
    refine ⟨?_, rfl⟩
    show v₂.get? name = none
    rcases hdeleted with rfl | ⟨other, rfl⟩
    · rcases hfails _ _ _ _ hdelete with hanswer | ⟨e, hreply, -⟩
      · have hafter := Vault.get?_answer v₁ (.delete name)
        rw [hanswer] at hafter
        exact hafter
      · cases hreply
    · have habsent := hfinds _ _ _ _ hdelete
      rcases hfails _ _ _ _ hdelete with hanswer | ⟨e, -, rfl⟩
      · have hafter := Vault.get?_answer v₁ (.delete name)
        rw [hanswer] at hafter
        exact hafter
      · exact habsent

/-- An unbind that writes a record deletes the one of its binding, last of all, when nothing is
left under the name of the binding. -/
theorem UnbindCourse.cleared_of_written {result : Except BrokerError Unit}
    (h : UnbindCourse broker i b (before ++ x :: later) result) (hasVault : broker.hasVault = true)
    (hfails : setting.VaultFailsWithoutEffect) (hfinds : setting.VaultFindsWhatIsThere)
    (hsteps : Steps setting.Allows w before v) (hx : x.written? ≠ none) :
    x = .store (.deleteBinding i b) (.ok ()) ∧ later = [] ∧ v.store = w.store ∧
      ∃ binding service, w.store.bindings.get? (i, b) = some binding ∧
        broker.registry.resolve binding.serviceId = .ok service ∧
        v.vault.get? (broker.credentialNameFor service b) = none := by
  generalize hD : before ++ x :: later = D at h
  have hmem : x ∈ D := by simp [← hD]
  have hnone {D' : Dialogue} (hD' : D'.all (fun y ↦ y.written?.isNone) = true) : x ∉ D' :=
    fun h ↦ hx (Exchange.eq_none_of_all hD' x h)
  cases h with
  | unread | instanceUnread | unresolved => exact absurd hmem (hnone rfl)
  | uncleared binding record hresolve hclear => cases hclear; exact absurd hmem (hnone rfl)
  | declined binding record hresolve hclear e | undeleted binding record hresolve hclear e =>
    cases hclear <;> exact absurd hmem (hnone rfl)
  | @unbound binding record service hresolve clearing hclear =>
    have hsplit : (.store (.getBinding i b) (.ok binding) :: .store (.getInstance i) (.ok record) ::
        (clearing ++ [.provider (.unbind service.definition.id record binding) (.ok ())])) ++
        [.store (.deleteBinding i b) (.ok ())] = before ++ x :: later := by
      rw [hD]
      simp
    obtain ⟨rfl, rfl, rfl⟩ := (List.append_cons_inj_of_notMem
      (hnone (by cases hclear <;> rfl)) List.not_mem_nil).1 hsplit
    simp only [Steps.cons_iff, Steps.append_iff, Steps.nil_iff, Setting.allows_store_iff,
      Setting.allows_provider_iff] at hsteps
    obtain ⟨_, ⟨s₁, hread, rfl⟩, _, ⟨s₂, hget, rfl⟩, u, hclearing, _, ⟨-, rfl⟩, rfl⟩ := hsteps
    obtain ⟨habsent, hstore⟩ := hclear.absent hasVault hfails hfinds hclearing
    refine ⟨rfl, rfl, ?_, binding, service, hread.getBinding_ok, hresolve, habsent⟩
    rw [hstore]
    exact (hget.of_read rfl).trans (hread.of_read rfl)

theorem UnbindCourse.puts_nothing {exchanges : Dialogue} {result : Except BrokerError Unit}
    (h : UnbindCourse broker i b exchanges result) (name : String) (value : Json)
    (reply : Except Vault.Error String) : .vault (.put name value) reply ∉ exchanges := by
  cases h with
  | unread | instanceUnread | unresolved => simp
  | uncleared _ _ _ hclear | declined _ _ _ hclear | undeleted _ _ _ hclear
  | unbound _ _ _ hclear => cases hclear <;> simp

/-! ### Every call -/

variable {q : Request} {result : Except BrokerError q.Answer}

/-- A call that is not for a binding has nothing to do with the vault and writes no binding. -/
theorem no_vault_of_subject {exchanges : Dialogue} (hq : q.subject.binding? = none)
    (hends : (broker.serve q).Ends exchanges result) :
    (∀ x ∈ exchanges, x.vaultName? = none) ∧
      ∀ x ∈ exchanges, x.written?.bind Subject.binding? = none := by
  cases q with
  | provision =>
    cases ProvisionCourse.of_ends hends <;>
      exact ⟨Exchange.eq_none_of_all rfl, Exchange.eq_none_of_all rfl⟩
  | update =>
    cases UpdateCourse.of_ends hends <;>
      exact ⟨Exchange.eq_none_of_all rfl, Exchange.eq_none_of_all rfl⟩
  | deprovision =>
    cases DeprovisionCourse.of_ends hends <;>
      exact ⟨Exchange.eq_none_of_all rfl, Exchange.eq_none_of_all rfl⟩
  | lastOperation i details =>
    cases PollCourse.of_ends details hends with
    | removed _ _ _ reply =>
      cases reply <;> exact ⟨Exchange.eq_none_of_all rfl, Exchange.eq_none_of_all rfl⟩
    | _ => exact ⟨Exchange.eq_none_of_all rfl, Exchange.eq_none_of_all rfl⟩
  | bind | unbind => cases hq

/-- When a call puts a value under a name, it is that of a recorded binding. -/
theorem namesRecorded_of_put {name : String} {value : Json} {reply : Except Vault.Error String}
    (hends : (broker.serve q).Ends (before ++ .vault (.put name value) reply :: later) result)
    (hsteps : Steps setting.Allows w before v) : NamesRecorded broker v.store name := by
  have hnever (hq : q.subject.binding? = none) : NamesRecorded broker v.store name := by
    cases (no_vault_of_subject hq hends).1 (.vault (.put name value) reply) (by simp)
  cases q with
  | provision | update | deprovision | lastOperation => exact hnever rfl
  | bind i b details =>
    have hcourse := BindCourse.of_ends hends
    obtain ⟨x, hx, hcreated⟩ := hcourse.created_of_handles rfl
    obtain ⟨record, service, hrecord, hresolve, hnames⟩ :=
      hcourse.recorded_of_created hsteps hx hcreated
    exact ⟨i, b, record, service, hrecord, hresolve, (hnames name value reply (by simp)).symm⟩
  | unbind i b details =>
    exact absurd (by simp) ((UnbindCourse.of_ends details hends).puts_nothing name value reply)

/-- When a call writes over the record of a binding, nothing is left under the name of the
binding. -/
theorem absent_of_overwritten (hasVault : broker.hasVault = true)
    (hfails : setting.VaultFailsWithoutEffect) (hfinds : setting.VaultFindsWhatIsThere)
    (hends : (broker.serve q).Ends (before ++ x :: later) result)
    (hsteps : Steps setting.Allows w before v) (hstep : setting.Allows v x w')
    (hwritten : x.written? = some (.binding i b)) {record : BindingRecord}
    (hrecord : v.store.bindings.get? (i, b) = some record) {service : RegisteredService}
    (hresolve : broker.registry.resolve record.serviceId = .ok service) :
    v.vault.get? (broker.credentialNameFor service b) = none := by
  have hnever (hq : q.subject.binding? = none) :
      v.vault.get? (broker.credentialNameFor service b) = none := by
    have hnone := (no_vault_of_subject hq hends).2 x (by simp)
    rw [hwritten] at hnone
    cases hnone
  cases q with
  | provision | update | deprovision | lastOperation => exact hnever rfl
  | bind j c details =>
    obtain ⟨hpair, hcreated⟩ :=
      (BindCourse.of_ends hends).created_of_written x (by simp) _ hwritten
    cases hpair
    exact absurd ⟨record, hrecord⟩ (hstep.created hcreated).1
  | unbind j c details =>
    obtain ⟨rfl, rfl, hstore, binding, service', hbinding, hresolve', habsent⟩ :=
      (UnbindCourse.of_ends details hends).cleared_of_written hasVault hfails hfinds hsteps
        (by rw [hwritten]; simp)
    cases hwritten
    rw [hstore, hbinding] at hrecord
    cases hrecord
    cases hresolve'.symm.trans hresolve
    exact habsent

/-- No stray secret is left at any moment of a call. -/
theorem NoStraySecret.of_reaches (hasVault : broker.hasVault = true)
    (hfails : setting.VaultFailsWithoutEffect) (hfinds : setting.VaultFindsWhatIsThere)
    {asked : Dialogue} {rest : Call q.Answer} (hreaches : (broker.serve q).Reaches asked rest)
    (hsteps : Steps setting.Allows w asked w') (h : NoStraySecret broker w) :
    NoStraySecret broker w' := by
  obtain ⟨later, result, hrest⟩ := rest.exists_ends
  have hends : (broker.serve q).Ends (asked ++ later) result := hreaches.trans hrest
  refine hsteps.preserves_after (P := NoStraySecret broker) ?_ h
  rintro before x after t t' rfl hbefore ht hstep
  rw [List.append_assoc, List.cons_append] at hends
  refine ht.step hstep hfails.actsAsAsked ?_ ?_
  · rintro name value reply rfl
    exact namesRecorded_of_put hends hbefore
  · intro i b record service hwritten hrecord hresolve
    exact absent_of_overwritten hasVault hfails hfinds hends hbefore hstep hwritten hrecord hresolve

theorem noStraySecret_of_history (hasVault : broker.hasVault = true)
    (hfails : setting.VaultFailsWithoutEffect) (hfinds : setting.VaultFindsWhatIsThere)
    {calls : List Served} (hrun : Steps (broker.Serves setting) w calls w')
    (h : NoStraySecret broker w) : NoStraySecret broker w' :=
  hrun.preserves (P := NoStraySecret broker)
    (fun _ _ _ _ hv hserves ↦ hv.of_reaches hasVault hfails hfinds hserves.1 hserves.2) h

/-- An unbind after which its binding is no longer recorded has left nothing under its name. -/
theorem absent_of_unbound (hasVault : broker.hasVault = true)
    (hfails : setting.VaultFailsWithoutEffect) (hfinds : setting.VaultFindsWhatIsThere)
    (details : UnbindDetails) {asked : Dialogue} {rest : Call Unit}
    (hreaches : (broker.unbind i b details).Reaches asked rest)
    (hsteps : Steps setting.Allows w asked w') {record : BindingRecord}
    (hrecord : w.store.bindings.get? (i, b) = some record) {service : RegisteredService}
    (hresolve : broker.registry.resolve record.serviceId = .ok service)
    (hgone : w'.store.bindings.get? (i, b) = none) :
    w'.vault.get? (broker.credentialNameFor service b) = none := by
  obtain ⟨later, result, hrest⟩ := rest.exists_ends
  have hcourse := UnbindCourse.of_ends details (hreaches.trans hrest)
  by_cases hwritten : ∃ x ∈ asked, x.written? = some (.binding i b)
  · obtain ⟨x, hx, hwritten⟩ := hwritten
    obtain ⟨before, after, v, v', rfl, hbefore, hstep, hafter⟩ := hsteps.split_of_mem hx
    rw [List.append_assoc, List.cons_append] at hcourse
    obtain ⟨rfl, hnothing, -, binding, service', hbinding, hresolve', habsent⟩ :=
      hcourse.cleared_of_written hasVault hfails hfinds hbefore (by rw [hwritten]; simp)
    obtain ⟨rfl, rfl⟩ := List.append_eq_nil_iff.1 hnothing
    cases hbinding.symm.trans hrecord
    cases hresolve'.symm.trans hresolve
    obtain rfl := Steps.nil_iff.1 hafter
    obtain ⟨s, -, rfl⟩ := Setting.allows_store_iff.1 hstep
    exact habsent
  · have hsame := Setting.sameRecord_of_unwritten hsteps
      (fun x hx hx' ↦ hwritten ⟨x, hx, hx'⟩)
    cases hgone.symm.trans (hsame.of_binding.trans hrecord)

/-- A bind after which its binding is not recorded has left the vault as it was. -/
theorem vault_eq_of_unbound {details : BindDetails} {asked : Dialogue} {rest : Call Binding}
    (hreaches : (broker.bind i b details).Reaches asked rest)
    (hsteps : Steps setting.Allows w asked w')
    (hgone : w'.store.bindings.get? (i, b) = none) : w'.vault = w.vault := by
  obtain ⟨later, result, hrest⟩ := rest.exists_ends
  have hcourse := BindCourse.of_ends (hreaches.trans hrest)
  refine Setting.vault_eq_of_steps hsteps fun x hx ↦ ?_
  obtain ⟨question, reply⟩ := x
  cases question with
  | store | provider => rfl
  | vault q =>
    obtain ⟨before, after, rfl⟩ := List.append_of_mem hx
    have hsplit := hcourse
    rw [List.append_assoc, List.cons_append] at hsplit
    obtain ⟨x, hx, hcreated⟩ := hsplit.created_of_handles rfl
    obtain ⟨record, service, hrecord, -⟩ :=
      hcourse.recorded_of_created hsteps (List.mem_append_left _ hx) hcreated
    cases hgone.symm.trans hrecord

/-- With a vault, whatever lies in it at any moment of any history lies under the name of a binding
that is recorded then: for the service of its record, and its own id. An unbind that has removed its
record has left nothing under the name, and a bind that has no record has left the vault as it was.
Assumes: a vault answers faithfully or fails without effect, and does not find only what is absent.
The store and the providers may fail in any way. -/
theorem no_stray_secret (hasVault : broker.hasVault = true)
    (hfails : setting.VaultFailsWithoutEffect) (hfinds : setting.VaultFindsWhatIsThere)
    {calls : List Served} (hrun : Steps (broker.Serves setting) {} calls w) {asked : Dialogue}
    {rest : Call q.Answer} (hreaches : (broker.serve q).Reaches asked rest)
    (hsteps : Steps setting.Allows w asked w') :
    (∀ name entry, w'.vault.get? name = some entry → NamesRecorded broker w'.store name) ∧
    (∀ i b details record service, q = .unbind i b details →
      w.store.bindings.get? (i, b) = some record →
      broker.registry.resolve record.serviceId = .ok service →
      w'.store.bindings.get? (i, b) = none →
      w'.vault.get? (broker.credentialNameFor service b) = none) ∧
    ∀ i b details, q = .bind i b details → w'.store.bindings.get? (i, b) = none →
      w'.vault = w.vault := by
  refine ⟨?_, ?_, ?_⟩
  · have hbefore := noStraySecret_of_history hasVault hfails hfinds hrun
      (noStraySecret_empty broker)
    exact hbefore.of_reaches hasVault hfails hfinds hreaches hsteps
  · rintro i b details record service rfl hrecord hresolve hgone
    exact absent_of_unbound hasVault hfails hfinds details hreaches hsteps hrecord hresolve hgone
  · rintro i b details rfl hgone
    exact vault_eq_of_unbound hreaches hsteps hgone

/-- An instance of the database service, and a binding of it whose credentials are vaulted. -/
def databaseVaulted : List Served × World :=
  (databaseBroker true).history "now" databaseProvider
    [.provision "i-1" { serviceId := "db", planId := "small" } true,
     .bind "i-1" "b-1" { serviceId := "db", planId := "small", appGuid := some "app-1" }] {}

theorem no_stray_secret_of_unbind :
    let q : Request := .unbind "i-1" "b-1" { serviceId := "db", planId := "small" }
    let respond := World.respond "now" databaseProvider
    let w := databaseVaulted.2
    let w' := (((databaseBroker true).serve q).run respond w).2
    let name := "/c/csb/database/b-1/secrets-and-services"
    (w.vault.get? name).isSome = true ∧ w'.store.bindings.get? ("i-1", "b-1") = none ∧
      w'.vault.get? name = none := by
  intro q respond w w' name
  have hmemory : (Setting.faithful databaseProvider).VaultInMemory := fun _ _ _ _ h ↦ h
  have hsteps : Steps (Setting.faithful databaseProvider).Allows w
      (((databaseBroker true).serve q).trace respond w) w' :=
    (Program.steps_trace respond _ w).mono fun _ _ _ h ↦ allows_of_respond "now" databaseProvider h
  have hgone : w'.store.bindings.get? ("i-1", "b-1") = none := by decide +kernel
  refine ⟨by decide +kernel, hgone, ?_⟩
  exact (no_stray_secret rfl hmemory.failsWithoutEffect hmemory.findsWhatIsThere
    (steps_history "now" databaseProvider _ _ _) (Program.ends_trace respond _ w) hsteps).2.1
    "i-1" "b-1" _ _ databaseService rfl rfl rfl hgone

end Brokerage.Broker
