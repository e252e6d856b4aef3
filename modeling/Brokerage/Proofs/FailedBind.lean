import Brokerage.Proofs.Frame
import Brokerage.Proofs.VaultAnswers

/-!
What a failed bind leaves behind. A bind that fails without reporting a partial failure has not
asked the vault, and it has left the bindings as they were unless the provider issued credentials
and then could not build them: that failure is reported as one of the provider, but it comes after
the binding was recorded, and the record stays.
-/

set_option autoImplicit false

namespace Brokerage.Broker

/-- The provider was asked to build the credentials of a binding and could not. -/
def CredentialsUnbuilt (exchanges : Dialogue) : Prop :=
  ∃ serviceId binding record e,
    .provider (.buildCredentials serviceId binding record) (.error e) ∈ exchanges

variable {broker : Broker} {i b : String} {details : BindDetails} {setting : Setting}
  {w w' : World} {exchanges : Dialogue}

theorem BindCourse.unchanged {e : BrokerError}
    (h : BindCourse broker i b details exchanges (.error e))
    (hsteps : Steps setting.Allows w exchanges w') (hwhole : e.isPartialFailure = false) :
    w'.vault = w.vault ∧
      (¬ CredentialsUnbuilt exchanges → w'.store.bindings = w.store.bindings) := by
  cases h with
  | unchecked | taken | unread | refused | declined | unrecorded =>
    exact ⟨Setting.vault_eq_of_steps hsteps (Exchange.eq_none_of_all rfl), fun _ ↦
      Setting.bindings_eq_of_steps hsteps (Exchange.eq_none_of_all rfl)⟩
  | @unbuilt record service _ _ hadmits issued e =>
    refine ⟨Setting.vault_eq_of_steps hsteps (Exchange.eq_none_of_all rfl), fun hbuilt ↦ ?_⟩
    exact absurd ⟨service.definition.id, issuedRecord i b service issued, record, e, by simp⟩ hbuilt
  | unstored | ungranted => cases hwhole

/-- A binding whose credentials were not built was not recorded before, and is recorded now. -/
theorem BindCourse.recorded_of_unbuilt {e : BrokerError}
    (h : BindCourse broker i b details exchanges (.error e))
    (hsteps : Steps setting.Allows w exchanges w') (hunbuilt : CredentialsUnbuilt exchanges) :
    w.store.bindings.get? (i, b) = none ∧ (w'.store.bindings.get? (i, b)).isSome = true := by
  obtain ⟨serviceId, binding, record, e', hmem⟩ := hunbuilt
  cases h with
  | unbuilt hadmits issued e =>
    simp only [Steps.cons_iff, Steps.nil_iff, Setting.allows_store_iff,
      Setting.allows_provider_iff] at hsteps
    obtain ⟨_, ⟨s₁, hexists, rfl⟩, _, ⟨s₂, hget, rfl⟩, _, ⟨-, rfl⟩, _, ⟨s₃, hcreate, rfl⟩, _,
      ⟨-, rfl⟩, rfl⟩ := hsteps
    obtain ⟨now, hcreated⟩ := hcreate.binding_of_createBinding
    refine ⟨by simpa using hexists.bindingExists_ok, ?_⟩
    show (s₃.bindings.get? (i, b)).isSome = true
    rw [show s₃.bindings.get? (i, b) = _ from hcreated]
    rfl
  | _ => simp at hmem

/-- A bind that fails without reporting a partial failure leaves the vault as it was; it leaves the
bindings as they were exactly when the provider did not fail to build the credentials. If it did,
the binding stays recorded, and whatever the broker is asked next to bind under the same ids is
refused for it, unless the store fails. The store, the vault and the provider may fail in any way;
a store that fails does so without effect. -/
theorem failedBind_unchanged_iff {e : BrokerError}
    (hends : (broker.bind i b details).Ends exchanges (.error e))
    (hsteps : Steps setting.Allows w exchanges w') (hwhole : e.isPartialFailure = false) :
    w'.vault = w.vault ∧
      (w'.store.bindings = w.store.bindings ↔ ¬ CredentialsUnbuilt exchanges) ∧
      (CredentialsUnbuilt exchanges → ∀ (again : BindDetails) (later : Dialogue)
        (result : Except BrokerError Binding) (w'' : World),
        (broker.bind i b again).Ends later result → Steps setting.Allows w' later w'' →
        result = .error (.bindingAlreadyExists i b) ∨ ∃ e, result = .error (.storage e)) := by
  have hcourse := BindCourse.of_ends hends
  obtain ⟨hvault, hunchanged⟩ := hcourse.unchanged hsteps hwhole
  refine ⟨hvault, ⟨?_, hunchanged⟩, ?_⟩
  · intro hsame hunbuilt
    obtain ⟨hnone, hsome⟩ := hcourse.recorded_of_unbuilt hsteps hunbuilt
    rw [hsame, hnone] at hsome
    cases hsome
  · intro hunbuilt again later result w'' hlater hlaterSteps
    obtain ⟨-, hsome⟩ := hcourse.recorded_of_unbuilt hsteps hunbuilt
    exact ((BindCourse.of_ends hlater).refused_of_recorded hlaterSteps hsome).2

/-- A provider that issues credentials and cannot build them. -/
def unbuildingProvider : (q : Provider.Request) → q.Reply
  | .buildCredentials _ _ _ => .error (.failed "no host")
  | q => databaseProvider q

/-- The bind that `unbuildingProvider` fails. -/
def unbuiltBind : Call Binding :=
  (databaseBroker false).bind "i-1" "b-1" { serviceId := "db", planId := "small" }

theorem failedBind_records_unbuilt :
    let respond := World.respond "now" unbuildingProvider
    let exchanges := unbuiltBind.trace respond databaseWorld
    let after := (unbuiltBind.run respond databaseWorld).2
    unbuiltBind.Ends exchanges (.error (.provider (.failed "no host"))) ∧
      Steps (Setting.faithful unbuildingProvider).Allows databaseWorld exchanges after ∧
      CredentialsUnbuilt exchanges ∧ after.vault = databaseWorld.vault ∧
      after.store.bindings ≠ databaseWorld.store.bindings := by
  intro respond exchanges after
  have hends : unbuiltBind.Ends exchanges (.error (.provider (.failed "no host"))) :=
    Program.ends_trace respond unbuiltBind databaseWorld
  have hsteps : Steps (Setting.faithful unbuildingProvider).Allows databaseWorld exchanges after :=
    (Program.steps_trace respond unbuiltBind databaseWorld).mono fun _ _ _ h ↦
      allows_of_respond "now" unbuildingProvider h
  have hunbuilt : CredentialsUnbuilt exchanges :=
    ⟨_, _, _, _, List.getElem_mem (n := 4) (by decide +kernel)⟩
  obtain ⟨hvault, hbindings, -⟩ := failedBind_unchanged_iff hends hsteps rfl
  exact ⟨hends, hsteps, hunbuilt, hvault, fun hsame ↦ hbindings.1 hsame hunbuilt⟩

/-- Not every bind that fails without reporting a partial failure leaves the bindings as they
were, even with a vault that fails without effect. -/
theorem not_failedBind_unchanged :
    ¬ ∀ (broker : Broker) (i b : String) (details : BindDetails) (setting : Setting) (w w' : World)
      (exchanges : Dialogue) (e : BrokerError), setting.VaultFailsWithoutEffect →
      (broker.bind i b details).Ends exchanges (.error e) →
      Steps setting.Allows w exchanges w' → e.isPartialFailure = false →
      w'.store.bindings = w.store.bindings ∧ w'.vault = w.vault := by
  intro h
  have hends := Program.ends_trace (World.respond "now" unbuildingProvider) unbuiltBind
    databaseWorld
  have hsteps := (Program.steps_trace (World.respond "now" unbuildingProvider) unbuiltBind
    databaseWorld).mono fun _ _ _ h ↦ allows_of_respond "now" unbuildingProvider h
  have hmemory : (Setting.faithful unbuildingProvider).VaultInMemory := fun _ _ _ _ h ↦ h
  obtain ⟨hbindings, -⟩ := h (databaseBroker false) "i-1" "b-1" _ _ _ _ _ _
    hmemory.failsWithoutEffect hends hsteps rfl
  exact absurd hbindings (by decide +kernel)

end Brokerage.Broker
