import Brokerage.Proofs.BindOrder
import Brokerage.Proofs.Race
import Brokerage.Proofs.VaultAnswers

/-!
Binds under one pair of ids that race each other. Any number of them can find that there is no
such binding and have credentials issued; the creation of the record decides between them. Only the
one that creates it has its credentials built and goes on to the vault, so what lies there in the
end is its own.
-/

set_option autoImplicit false

namespace Brokerage.Broker

/-! ### What lies in the vault -/

/-- An entry of a vault holds credentials that were built, for at most the application to read. -/
structure IsFrom (appGuid : Option String) (built : Binding → Prop) (entry : Vault.Entry) :
    Prop where
  value : ∃ binding, built binding ∧ entry.value = .object binding.credentials
  permissions : ∀ p ∈ entry.permissions, ∃ app, appGuid = some app ∧
    p = ⟨appActor app, [readOperation]⟩

section Entry

variable {appGuid : Option String} {built : Binding → Prop} {known : Option Vault.Entry}

theorem isFrom_of_put {name : String} {binding : Binding}
    (hknown : ∀ entry ∈ known, IsFrom appGuid built entry) (hbuilt : built binding) :
    ∀ entry ∈ (Vault.Request.put name (.object binding.credentials)).effect known,
      IsFrom appGuid built entry := by
  rintro _ ⟨⟩
  refine ⟨⟨binding, hbuilt, ?_⟩, ?_⟩
  · cases known <;> rfl
  · cases known with
    | none => simp [Vault.written]
    | some entry => exact (hknown entry rfl).permissions

theorem isFrom_of_grant {name app : String}
    (hknown : ∀ entry ∈ known, IsFrom appGuid built entry) (happ : appGuid = some app) :
    ∀ entry ∈ (Vault.Request.addPermission name (appActor app) [readOperation]).effect known,
      IsFrom appGuid built entry := by
  intro entry hentry
  obtain ⟨before, hbefore, rfl⟩ := Option.map_eq_some_iff.1 hentry
  have hfrom := hknown before hbefore
  refine ⟨hfrom.value, fun p hp ↦ ?_⟩
  rcases List.mem_append.1 hp with hp | hp
  · exact hfrom.permissions p (List.mem_filter.1 hp).1
  · exact ⟨app, happ, List.mem_singleton.1 hp⟩

/-- If one call alone has to do with the vault, then what comes to lie under an empty name is from
it. -/
theorem isFrom_of_steps {ι : Type} [DecidableEq ι] {requests : ι → Request} {broker : Broker}
    {setting : Setting} {w : World} {moves : List (Move ι)} {last : Pool requests} {k : ι}
    {name : String} (hvault : setting.VaultActsAsAsked)
    (hrun : Steps (Pool.Step setting) (Pool.start broker requests w) moves last)
    (halone : ∀ move ∈ moves, move.exchange.handlesCredentials = true → move.call = k)
    (hhandsOff : HandsOff name appGuid built (last.calls k).asked)
    (habsent : w.vault.get? name = none) :
    ∀ entry ∈ last.world.vault.get? name, IsFrom appGuid built entry := by
  refine hrun.preserves (P := fun pool ↦ ∀ entry ∈ pool.world.vault.get? name,
    IsFrom appGuid built entry) ?_ ?_
  · intro pool move pool' hmove hpool hstep
    rcases hstep.allows.entry_cases hvault name with hsame | ⟨q, reply, hx, -, heffect⟩
    · rw [hsame]
      exact hpool
    · have hasked : .vault q reply ∈ (last.calls k).asked :=
        (Pool.mem_asked_iff hrun).2 ⟨move, hmove, halone move hmove (by rw [hx]; rfl), hx⟩
      obtain ⟨binding, app, hbuilt, happ, rfl | rfl⟩ := hhandsOff q reply hasked
      · rw [heffect]
        exact isFrom_of_put hpool hbuilt
      · rw [heffect]
        exact isFrom_of_grant hpool happ
  · intro entry hentry
    cases habsent.symm.trans hentry

end Entry

/-! ### The race -/

/-- Binds under one pair of ids. -/
def bindRace {ι : Type} (i b : String) (details : ι → BindDetails) : ι → Request :=
  fun k ↦ .bind i b (details k)

/-- The record of a binding is that of one bind, of an instance it has read: it has the service of
the instance and the detail that the provider issued to this bind. The vault holds at most the
credentials built for that record under the name of the binding, for the application of the bind to
read. -/
def BoundBy (broker : Broker) {i b : String} {details : BindDetails}
    (call : Progress (.bind i b details)) (w : World) : Prop :=
  ∃ record service reader vars issued,
    .store (.getInstance i) (.ok record) ∈ call.asked ∧
    broker.admitBind record b details = .ok (service, reader, vars) ∧
    .provider (.bind service.definition.id vars) (.ok issued) ∈ call.asked ∧
    (∃ now, w.store.bindings.get? (i, b) = some
      { instanceId := i, bindingId := b, serviceId := record.serviceId
        otherDetails := issued.text, createdAt := now }) ∧
    ∀ entry ∈ w.vault.get? (broker.credentialNameFor service b),
      IsFrom details.appGuid (fun binding ↦ .provider (.buildCredentials record.serviceId
        { instanceId := i, bindingId := b, serviceId := record.serviceId
          otherDetails := issued.text } record) (.ok binding) ∈ call.asked) entry

section Race

variable {ι : Type} [DecidableEq ι] {broker : Broker} {setting : Setting} {i b : String}
  {details : ι → BindDetails} {w : World} {moves : List (Move ι)}
  {last : Pool (bindRace i b details)}

theorem created_of_written_of_binds
    (hrun : Steps (Pool.Step setting) (Pool.start broker (bindRace i b details) w) moves last)
    {move : Move ι} (hmove : move ∈ moves) {subject : Subject}
    (hwritten : move.exchange.written? = some subject) :
    subject = .binding i b ∧ move.exchange.created? = some (.binding i b) := by
  obtain ⟨later, result, hends⟩ := Pool.exists_ends_of_mem hrun hmove
  have hcourse : BindCourse broker i b (details move.call) _ result := BindCourse.of_ends hends
  exact hcourse.created_of_written _ (by simp) subject hwritten

theorem onlyCreates_of_binds
    (hrun : Steps (Pool.Step setting) (Pool.start broker (bindRace i b details) w) moves last) :
    Pool.OnlyCreates (.binding i b) moves :=
  fun _ hmove hwritten ↦ (created_of_written_of_binds hrun hmove hwritten).2

/-- A bind that handles credentials has created the record before. -/
theorem created_of_handles
    (hrun : Steps (Pool.Step setting) (Pool.start broker (bindRace i b details) w) moves last)
    {move : Move ι} (hmove : move ∈ moves) (hhandles : move.exchange.handlesCredentials = true) :
    ∃ x ∈ move.asked, x.created? = some (.binding i b) := by
  obtain ⟨later, result, hends⟩ := Pool.exists_ends_of_mem hrun hmove
  have hcourse : BindCourse broker i b (details move.call) _ result := BindCourse.of_ends hends
  exact hcourse.created_of_handles hhandles

/-- A bind that returned had a course of its own. -/
theorem bindCourse_of_result
    (hrun : Steps (Pool.Step setting) (Pool.start broker (bindRace i b details) w) moves last)
    {k : ι} {result : Except BrokerError Binding}
    (hresult : (last.calls k).result? = some result) :
    BindCourse broker i b (details k) (last.calls k).asked result :=
  BindCourse.of_ends (Pool.ends_of_result hrun hresult)

/-- Binds leave the record of their instance, so each reads what was there. -/
theorem record_of_read
    (hrun : Steps (Pool.Step setting) (Pool.start broker (bindRace i b details) w) moves last)
    {k : ι} {record : InstanceRecord}
    (hread : .store (.getInstance i) (.ok record) ∈ (last.calls k).asked) :
    w.store.instances.get? i = some record := by
  obtain ⟨move, hmove, -, hexchange⟩ := (Pool.mem_asked_iff hrun).1 hread
  obtain ⟨early, late, before, after, rfl, hearly, hstep, -⟩ := hrun.split_of_mem hmove
  have hunwritten : Pool.Unwritten (.instance i) early := by
    intro m hm hwritten
    cases (created_of_written_of_binds hrun (List.mem_append_left _ hm) hwritten).1
  exact ((hunwritten.sameRecord hearly).of_instance).symm.trans
    (hstep.answers hexchange).getInstance_ok

/-- Only the bind that creates the record handles credentials. -/
theorem call_of_handles (habsent : ¬ w.store.Has (.binding i b))
    (hrun : Steps (Pool.Step setting) (Pool.start broker (bindRace i b details) w) moves last)
    {move created : Move ι} (hmove : move ∈ moves) (hcreating : created ∈ moves)
    (hhandles : move.exchange.handlesCredentials = true)
    (hcreated : created.exchange.created? = some (.binding i b)) : move.call = created.call := by
  obtain ⟨x, hx, hxCreates⟩ := created_of_handles hrun hmove hhandles
  obtain ⟨earlier, hearlier, hcall, rfl⟩ := Pool.exists_move_of_asked hrun hmove hx
  rw [← hcall,
    (onlyCreates_of_binds hrun).unique hrun habsent hearlier hcreating hxCreates hcreated]

/-- A bind that was issued credentials creates the record, or is told that the binding exists. -/
theorem binds_or_told (hhealthy : ∀ e, ¬ setting.storeFails e)
    (hrun : Steps (Pool.Step setting) (Pool.start broker (bindRace i b details) w) moves last)
    {k : ι} {result : Except BrokerError Binding}
    (hresult : (last.calls k).result? = some result)
    (hissued : CredentialsIssued (last.calls k).asked) :
    (∃ x ∈ (last.calls k).asked, x.created? = some (.binding i b)) ∨
      result = .error (.bindingAlreadyExists i b) := by
  obtain ⟨record, reply, hasked, rfl, rfl, htold⟩ :=
    (bindCourse_of_result hrun hresult).asks_to_create hissued
  cases reply with
  | ok created => exact .inl ⟨_, hasked, rfl⟩
  | error e => exact .inr (htold e rfl (Pool.isConflict_of_refused hhealthy hrun hasked rfl))

/-- The bind that has created the record is the one that the binding is of. -/
theorem boundBy_of_created (hvault : setting.VaultActsAsAsked)
    (habsent : ¬ w.store.Has (.binding i b)) {record : InstanceRecord}
    (hrecorded : w.store.instances.get? i = some record)
    (hname : ∀ service, broker.registry.resolve record.serviceId = .ok service →
      w.vault.get? (broker.credentialNameFor service b) = none)
    (hrun : Steps (Pool.Step setting) (Pool.start broker (bindRace i b details) w) moves last)
    {early late : List (Move ι)} {created : Move ι} {before after : Pool (bindRace i b details)}
    (hmoves : moves = early ++ created :: late) (hstep : Pool.Step setting before created after)
    (hlate : Steps (Pool.Step setting) after late last)
    (hcreated : created.exchange.created? = some (.binding i b))
    (hunwritten : Pool.Unwritten (.binding i b) late) {result : Except BrokerError Binding}
    (hresult : (last.calls created.call).result? = some result) :
    BoundBy broker (last.calls created.call) last.world := by
  have hmem : created ∈ moves := by simp [hmoves]
  obtain ⟨read, service, reader, vars, issued, hread, hadmits, hissued, hcreate, hhandsOff⟩ :=
    (bindCourse_of_result hrun hresult).of_created
      ((Pool.mem_asked_iff hrun).2 ⟨created, hmem, rfl, rfl⟩) hcreated
  obtain rfl : record = read :=
    Option.some.inj (hrecorded.symm.trans (record_of_read hrun hread))
  obtain ⟨plan, hresolve, -, -⟩ := admitBind_ok hadmits
  have hservice := serviceId_of_resolve (registry_resolve_of_resolve hresolve)
  refine ⟨record, service, reader, vars, issued, hread, hadmits, hissued, ?_, ?_⟩
  · obtain ⟨now, hfound⟩ := (hstep.answers hcreate).binding_of_createBinding
    rw [← hservice]
    exact ⟨now, (hunwritten.sameRecord hlate).of_binding.trans hfound⟩
  · rw [← hservice]
    have halone : ∀ move ∈ moves, move.exchange.handlesCredentials = true →
        move.call = created.call :=
      fun move hmove hhandles ↦ call_of_handles habsent hrun hmove hmem hhandles hcreated
    exact isFrom_of_steps hvault hrun halone hhandsOff
      (hname service (registry_resolve_of_resolve hresolve))

/-- Among binds under one pair of ids at most one returns, and only one that has created the record
has credentials built or asks the vault. If credentials were issued to one of them, then one of them
is the bind that the record, and what the vault holds under the name of the binding, are of; no
other one returns, and every other one that was issued credentials is told that the binding exists.
Assumes: the store does not fail, the instance is recorded and the binding is not, the vault holds
nothing under the name of the binding, and whatever it replies the vault does what it is asked to
or nothing. The binds may have any details, the vault and the providers may fail in any way, and
the calls may move in any order. -/
theorem one_bind_wins (hhealthy : ∀ e, ¬ setting.storeFails e)
    (hvault : setting.VaultActsAsAsked) {record : InstanceRecord}
    (hrecorded : w.store.instances.get? i = some record)
    (habsent : w.store.bindings.get? (i, b) = none)
    (hname : ∀ service, broker.registry.resolve record.serviceId = .ok service →
      w.vault.get? (broker.credentialNameFor service b) = none)
    (hrun : Steps (Pool.Step setting) (Pool.start broker (bindRace i b details) w) moves last) :
    (∀ j k x y, (last.calls j).result? = some (.ok x) → (last.calls k).result? = some (.ok y) →
      j = k) ∧
    (∀ move ∈ moves, move.exchange.handlesCredentials = true →
      (∃ x ∈ move.asked, x.created? = some (.binding i b)) ∧
      ∀ created ∈ moves, created.exchange.created? = some (.binding i b) →
        move.call = created.call) ∧
    ((∀ k, ∃ result, (last.calls k).result? = some result) →
      (∃ k, CredentialsIssued (last.calls k).asked) →
      ∃ k, BoundBy broker (last.calls k) last.world ∧
        (∃ x ∈ (last.calls k).asked, x.created? = some (.binding i b)) ∧
        ∀ j ≠ k, (∀ x, (last.calls j).result? ≠ some (.ok x)) ∧
          (CredentialsIssued (last.calls j).asked →
            (last.calls j).result? = some (.error (.bindingAlreadyExists i b)))) := by
  have hnone := Store.not_has_binding_iff.2 habsent
  have honly := onlyCreates_of_binds hrun
  refine ⟨?_, ?_, ?_⟩
  · intro j k x y hj hk
    obtain ⟨xj, hxj, hxjCreates⟩ := (bindCourse_of_result hrun hj).creates_of_ok
    obtain ⟨xk, hxk, hxkCreates⟩ := (bindCourse_of_result hrun hk).creates_of_ok
    exact honly.call_unique hrun hnone hxj hxk hxjCreates hxkCreates
  · intro move hmove hhandles
    refine ⟨created_of_handles hrun hmove hhandles, fun created hcreating hcreated ↦ ?_⟩
    exact call_of_handles hnone hrun hmove hcreating hhandles hcreated
  · rintro hended ⟨first, hissued⟩
    obtain ⟨result, hresult⟩ := hended first
    obtain ⟨bound, reply, hasked, rfl, rfl, -⟩ :=
      (bindCourse_of_result hrun hresult).asks_to_create hissued
    obtain ⟨early, created, late, before, after, hmoves, hstep, hlate, hcreated, hunwritten⟩ :=
      honly.exists_creation hhealthy hrun hnone hasked rfl
    have hwon : created.exchange ∈ (last.calls created.call).asked :=
      (Pool.mem_asked_iff hrun).2 ⟨created, by simp [hmoves], rfl, rfl⟩
    obtain ⟨_, hwinner⟩ := hended created.call
    refine ⟨created.call, boundBy_of_created hvault hnone hrecorded hname hrun hmoves hstep hlate
      hcreated hunwritten hwinner, ⟨_, hwon, hcreated⟩, fun j hj ↦ ⟨fun x hreturned ↦ ?_, ?_⟩⟩
    · obtain ⟨y, hy, hyCreates⟩ := (bindCourse_of_result hrun hreturned).creates_of_ok
      exact hj (honly.call_unique hrun hnone hy hwon hyCreates hcreated)
    · intro hissued
      obtain ⟨result, hresult⟩ := hended j
      rcases binds_or_told hhealthy hrun hresult hissued with ⟨y, hy, hyCreates⟩ | htold
      · exact absurd (honly.call_unique hrun hnone hy hwon hyCreates hcreated) hj
      · exact hresult.trans (congrArg some htold)

end Race

/-- Two binds under one pair of ids, for different applications. -/
def twoBinds : Bool → Request :=
  bindRace "i-1" "b-1" fun second ↦
    { serviceId := "db", planId := "small", appGuid := some (if second then "app-2" else "app-1") }

theorem one_of_two_binds_wins :
    let start : Pool twoBinds := Pool.start (databaseBroker true) twoBinds databaseWorld
    let played := Pool.play "now" databaseProvider
      [false, true, true, false, true, false, true, true, false, true, true] start
    (∀ k, ∃ result, (played.2.calls k).result? = some result) ∧
      CredentialsIssued (played.2.calls false).asked ∧
      ∃ k, BoundBy (databaseBroker true) (played.2.calls k) played.2.world ∧
        ∀ j ≠ k, CredentialsIssued (played.2.calls j).asked →
          (played.2.calls j).result? = some (.error (.bindingAlreadyExists "i-1" "b-1")) := by
  intro start played
  have hrun : Steps (Pool.Step (.faithful databaseProvider)) start played.1 played.2 :=
    Pool.steps_of_play "now" databaseProvider _ start
  have hmemory : (Setting.faithful databaseProvider).VaultInMemory := fun _ _ _ _ h ↦ h
  have hended (k : Bool) : ∃ result, (played.2.calls k).result? = some result := by
    cases k with
    | false => exact ⟨_, rfl⟩
    | true => exact ⟨_, rfl⟩
  have hissued : CredentialsIssued (played.2.calls false).asked :=
    ⟨_, _, _, List.getElem_mem (n := 2) (by decide +kernel)⟩
  obtain ⟨k, hbound, -, hothers⟩ :=
    (one_bind_wins (fun _ hfails ↦ hfails) hmemory.failsWithoutEffect.actsAsAsked rfl rfl
      (fun _ _ ↦ rfl) hrun).2.2 hended ⟨false, hissued⟩
  exact ⟨hended, hissued, k, hbound, fun j hj ↦ (hothers j hj).2⟩

end Brokerage.Broker
