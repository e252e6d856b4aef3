import Brokerage.Proofs.Race
import Brokerage.Proofs.Writes

/-!
Provisions of one instance that race each other. Each checks that the instance is not there before
it asks its provider, and any number of them can pass that check; the creation of the record
decides between them. The one that creates the record goes on to note its request and returns what
its provider answered. The others are told that the instance exists, and write nothing.
-/

set_option autoImplicit false

namespace Brokerage.Broker

section Course

variable {broker : Broker} {i : String} {details : ProvisionDetails} {acceptsIncomplete : Bool}
  {exchanges : Dialogue} {result : Except BrokerError OperationResponse}

/-- A provision that returned has created the record. -/
theorem ProvisionCourse.creates_of_ok {response : OperationResponse}
    (h : ProvisionCourse broker i details acceptsIncomplete exchanges (.ok response)) :
    ∃ x ∈ exchanges, x.created? = some (.instance i) := by
  cases h with
  | recorded => exact ⟨_, List.getElem_mem (n := 2) (by simp), rfl⟩

/-- The provider of a provision has accepted it. -/
def ProviderAccepted (exchanges : Dialogue) : Prop :=
  ∃ serviceId vars outcome, .provider (.provision serviceId vars) (.ok outcome) ∈ exchanges

/-- A provision that its provider has accepted goes on to create the record. -/
theorem ProvisionCourse.asks_to_create
    (h : ProvisionCourse broker i details acceptsIncomplete exchanges result)
    (haccepted : ProviderAccepted exchanges) :
    ∃ record reply, .store (.createInstance record) reply ∈ exchanges ∧ record.id = i ∧
      ∀ e, reply = .error e → e.isConflict = true → result = .error (.instanceAlreadyExists i) := by
  obtain ⟨serviceId, vars, outcome, hmem⟩ := haccepted
  cases h with
  | unrecorded _ outcome e =>
    refine ⟨_, _, List.getElem_mem (n := 2) (by simp), rfl, ?_⟩
    rintro _ ⟨⟩ hconflict
    simp [hconflict]
  | unlogged | recorded =>
    exact ⟨_, _, List.getElem_mem (n := 2) (by simp), rfl, by simp⟩
  | _ => simp at hmem

/-- A provision that finds the instance there ends with that. -/
theorem ProvisionCourse.of_taken
    (h : ProvisionCourse broker i details acceptsIncomplete exchanges result)
    (htaken : .store (.instanceExists i) (.ok true) ∈ exchanges) :
    result = .error (.instanceAlreadyExists i) := by
  cases h with
  | taken => rfl
  | _ => simp at htaken

/-- A provision notes its request only after it has created the record. -/
theorem ProvisionCourse.creates_of_logged
    (h : ProvisionCourse broker i details acceptsIncomplete exchanges result)
    {x : Exchange Action.Reply} (hx : x ∈ exchanges) (hlogged : x.logged? = some i) :
    ∃ y ∈ exchanges, y.created? = some (.instance i) := by
  cases h with
  | unlogged | recorded => exact ⟨_, List.getElem_mem (n := 2) (by simp), rfl⟩
  | _ =>
    simp only [List.mem_cons, List.not_mem_nil, or_false] at hx
    rcases hx with rfl | rfl | rfl <;> cases hlogged

/-- What a provision that created the record of its instance has done, and what it has returned if
its request could be noted. -/
theorem ProvisionCourse.of_created
    (h : ProvisionCourse broker i details acceptsIncomplete exchanges result)
    {x : Exchange Action.Reply} (hx : x ∈ exchanges) (hcreated : x.created? = some (.instance i)) :
    ∃ service plan vars outcome,
      broker.admitProvision i details acceptsIncomplete = .ok (service, plan, vars) ∧
      .provider (.provision service.definition.id vars) (.ok outcome) ∈ exchanges ∧
      x = .store (.createInstance (provisionedRecord i details service plan outcome)) (.ok ()) ∧
      ((∃ record e, .store (.createRequest record) (.error e) ∈ exchanges) ∨
        exchanges.filter (fun x ↦ x.logged? = some i) =
            [.store (.createRequest (requestRecord i details.rawParameters)) (.ok ())] ∧
          result = .ok outcome.response) := by
  cases h with
  | @unlogged service plan vars hadmits outcome e =>
    refine ⟨service, plan, vars, outcome, hadmits, by simp, ?_,
      .inl ⟨requestRecord i details.rawParameters, e, by simp⟩⟩
    simp only [List.mem_cons, List.not_mem_nil, or_false] at hx
    rcases hx with rfl | rfl | rfl | rfl <;> first | rfl | cases hcreated
  | @recorded service plan vars hadmits outcome =>
    refine ⟨service, plan, vars, outcome, hadmits, by simp, ?_, .inr ⟨?_, rfl⟩⟩
    · simp only [List.mem_cons, List.not_mem_nil, or_false] at hx
      rcases hx with rfl | rfl | rfl | rfl <;> first | rfl | cases hcreated
    · simp [Exchange.logged?, Store.Request.logged?, requestRecord]
  | _ =>
    simp only [List.mem_cons, List.not_mem_nil, or_false] at hx
    rcases hx with rfl | rfl | rfl <;> cases hcreated

end Course

/-- Provisions of one instance, and other calls beside them. -/
def provisionRace {ι κ : Type} (i : String) (details : ι → ProvisionDetails)
    (acceptsIncomplete : ι → Bool) (others : κ → Request) : ι ⊕ κ → Request
  | .inl k => .provision i (details k) (acceptsIncomplete k)
  | .inr k => others k

/-- The record of an instance, and the request noted for it, are those of one provision, which has
returned what its provider answered: the record has the service, the plan and the guids that the
provision named, the details that the provider gave and the operation that it left pending, and the
request has the parameters as they came. -/
def ProvisionedBy (broker : Broker) {i : String} {details : ProvisionDetails}
    {acceptsIncomplete : Bool} (call : Progress (.provision i details acceptsIncomplete))
    (s t : Store) : Prop :=
  ∃ service plan vars outcome,
    broker.admitProvision i details acceptsIncomplete = .ok (service, plan, vars) ∧
    .provider (.provision service.definition.id vars) (.ok outcome) ∈ call.asked ∧
    call.result? = some (.ok outcome.response) ∧
    (∃ now, t.instances.get? i = some
      { id := i, serviceId := details.serviceId, planId := details.planId
        spaceGuid := details.spaceGuid, organizationGuid := details.organizationGuid
        otherDetails := outcome.value.text
        operation := outcome.operationId?.map fun id ↦ { id, kind := .provision }
        createdAt := now, updatedAt := now }) ∧
    ∃ now, t.history i = s.history i ++
      [{ instanceId := i, requestDetails := details.rawParameters.getD "", updatedAt := now }]

section Race

variable {ι κ : Type} [DecidableEq ι] [DecidableEq κ] {broker : Broker} {setting : Setting}
  {i : String} {details : ι → ProvisionDetails} {acceptsIncomplete : ι → Bool}
  {others : κ → Request} {w : World} {moves : List (Move (ι ⊕ κ))}
  {last : Pool (provisionRace i details acceptsIncomplete others)}

/-- What the other calls of a race keep their hands off. -/
def OthersSpare (i : String) (moves : List (Move (ι ⊕ κ))) : Prop :=
  ∀ move ∈ moves, ∀ k, move.call = .inr k →
    move.exchange.written? ≠ some (.instance i) ∧ move.exchange.logged? ≠ some i

theorem onlyCreates_of_provisions
    (hrun : Steps (Pool.Step setting)
      (Pool.start broker (provisionRace i details acceptsIncomplete others) w) moves last)
    (hothers : OthersSpare i moves) : Pool.OnlyCreates (.instance i) moves := by
  intro move hmove hwritten
  obtain ⟨later, result, hends⟩ := Pool.exists_ends_of_mem hrun hmove
  obtain ⟨call, asked, exchange, world⟩ := move
  cases call with
  | inl k =>
    have hcourse : ProvisionCourse broker i (details k) (acceptsIncomplete k) _ result :=
      ProvisionCourse.of_ends hends
    exact (hcourse.created_of_written exchange (by simp) _ hwritten).2
  | inr k => exact absurd hwritten (hothers _ hmove k rfl).1

/-- A provision that returned had a course of its own. -/
theorem course_of_result
    (hrun : Steps (Pool.Step setting)
      (Pool.start broker (provisionRace i details acceptsIncomplete others) w) moves last)
    {k : ι} {result : Except BrokerError OperationResponse}
    (hresult : (last.calls (.inl k)).result? = some result) :
    ProvisionCourse broker i (details k) (acceptsIncomplete k) (last.calls (.inl k)).asked result :=
  ProvisionCourse.of_ends (Pool.ends_of_result hrun hresult)

/-- Once the record is there, a check finds it. -/
theorem taken_of_late (hhealthy : ∀ e, ¬ setting.storeFails e)
    {pool pool' : Pool (provisionRace i details acceptsIncomplete others)}
    (hrun : Steps (Pool.Step setting) pool moves pool')
    (hhas : pool.world.store.Has (.instance i)) (hunwritten : Pool.Unwritten (.instance i) moves)
    {move : Move (ι ⊕ κ)} (hmove : move ∈ moves) {reply : Except Store.Error Bool}
    (hchecks : move.exchange = .store (.instanceExists i) reply) : reply = .ok true := by
  obtain ⟨early, late, before, after, rfl, hearly, hstep, -⟩ := hrun.split_of_mem hmove
  have hsame := Pool.Unwritten.sameRecord
    (fun m hm ↦ hunwritten m (List.mem_append_left _ hm)) hearly
  obtain ⟨record, hfound⟩ := hsame.has_iff.2 hhas
  have hanswer := hstep.answers hchecks
  cases reply with
  | error e => exact absurd hanswer.instanceExists_error (hhealthy e)
  | ok found => rw [hanswer.instanceExists_ok, hfound, Option.isSome_some]

/-- A provision that has created the record, and whose request could be noted, is the one that the
record and the request are of. -/
theorem provisionedBy_of_created (hhealthy : ∀ e, ¬ setting.storeFails e)
    (habsent : ¬ w.store.Has (.instance i))
    (hrun : Steps (Pool.Step setting)
      (Pool.start broker (provisionRace i details acceptsIncomplete others) w) moves last)
    (hothers : OthersSpare i moves)
    (hended : ∀ k, ∃ result, (last.calls (.inl k)).result? = some result)
    {early late : List (Move (ι ⊕ κ))} {created : Move (ι ⊕ κ)}
    {before after : Pool (provisionRace i details acceptsIncomplete others)}
    (hmoves : moves = early ++ created :: late) (hstep : Pool.Step setting before created after)
    (hlate : Steps (Pool.Step setting) after late last)
    (hcreated : created.exchange.created? = some (.instance i))
    (hunwritten : Pool.Unwritten (.instance i) late) {k : ι} (hcall : created.call = .inl k) :
    ProvisionedBy broker (last.calls (.inl k)) w.store last.world.store := by
  obtain ⟨result, hresult⟩ := hended k
  have hmem : created.exchange ∈ (last.calls (.inl k)).asked :=
    (Pool.mem_asked_iff hrun).2 ⟨created, by simp [hmoves], hcall, rfl⟩
  obtain ⟨service, plan, vars, outcome, hadmits, haccepted, hcreate, hlog⟩ :=
    (course_of_result hrun hresult).of_created hmem hcreated
  rcases hlog with ⟨record, e, hunlogged⟩ | ⟨hlogged, rfl⟩
  · obtain ⟨move, hmove, -, hexchange⟩ := (Pool.mem_asked_iff hrun).1 hunlogged
    obtain ⟨-, -, before, after, -, -, hstep, -⟩ := hrun.split_of_mem hmove
    exact absurd (hstep.answers hexchange).createRequest_error (hhealthy e)
  refine ⟨service, plan, vars, outcome, hadmits, haccepted, hresult, ?_, ?_⟩
  · obtain ⟨hresolve, -⟩ := admitProvision_ok hadmits
    rw [← serviceId_of_resolve (registry_resolve_of_resolve hresolve), ← planId_of_resolve hresolve]
    obtain ⟨now, hfound⟩ := (hstep.answers hcreate).instance_of_createInstance
    exact ⟨now, (hunwritten.sameRecord hlate).of_instance.trans hfound⟩
  · -- only the call that created the record has noted a request
    have honly : ∀ move ∈ moves, decide (move.exchange.logged? = some i) = true →
        move.call = .inl k := by
      intro move hmove hlogs
      have hlogs := of_decide_eq_true hlogs
      cases hmoved : move.call with
      | inr j => exact absurd hlogs (hothers move hmove j hmoved).2
      | inl j =>
        obtain ⟨result', hresult'⟩ := hended j
        obtain ⟨x, hx, hxCreates⟩ := (course_of_result hrun hresult').creates_of_logged
          ((Pool.mem_asked_iff hrun).2 ⟨move, hmove, hmoved, rfl⟩) hlogs
        exact (onlyCreates_of_provisions hrun hothers).call_unique hrun habsent hx hmem hxCreates
          hcreated
    have hfilter := Pool.filter_of_only (p := fun x ↦ decide (x.logged? = some i)) hrun honly
    refine Setting.history_of_createRequest (requestRecord i (details k).rawParameters)
      (Pool.allows_of_steps hrun) ?_
    rw [List.filter_map]
    exact hfilter.trans hlogged

/-- A provision that its provider accepted creates the record, or is told that the instance
exists. -/
theorem creates_or_told (hhealthy : ∀ e, ¬ setting.storeFails e)
    (hrun : Steps (Pool.Step setting)
      (Pool.start broker (provisionRace i details acceptsIncomplete others) w) moves last)
    {k : ι} {result : Except BrokerError OperationResponse}
    (hresult : (last.calls (.inl k)).result? = some result)
    (haccepted : ProviderAccepted (last.calls (.inl k)).asked) :
    (∃ x ∈ (last.calls (.inl k)).asked, x.created? = some (.instance i)) ∨
      result = .error (.instanceAlreadyExists i) := by
  obtain ⟨record, reply, hasked, rfl, htold⟩ :=
    (course_of_result hrun hresult).asks_to_create haccepted
  cases reply with
  | ok created => exact .inl ⟨_, hasked, rfl⟩
  | error e =>
    exact .inr (htold e rfl (Pool.isConflict_of_refused hhealthy hrun hasked rfl))

/-- If a provider has accepted one of the provisions, one of them creates the record. -/
theorem exists_creation (hhealthy : ∀ e, ¬ setting.storeFails e)
    (habsent : ¬ w.store.Has (.instance i))
    (hrun : Steps (Pool.Step setting)
      (Pool.start broker (provisionRace i details acceptsIncomplete others) w) moves last)
    (hothers : OthersSpare i moves)
    {k : ι} {result : Except BrokerError OperationResponse}
    (hresult : (last.calls (.inl k)).result? = some result)
    (haccepted : ProviderAccepted (last.calls (.inl k)).asked) :
    ∃ j early created late before after, moves = early ++ created :: late ∧
      created.call = .inl j ∧ Pool.Step setting before created after ∧
      Steps (Pool.Step setting) after late last ∧
      created.exchange.created? = some (.instance i) ∧ Pool.Unwritten (.instance i) late := by
  obtain ⟨record, reply, hasked, rfl, -⟩ :=
    (course_of_result hrun hresult).asks_to_create haccepted
  obtain ⟨early, created, late, before, after, rfl, hstep, hlate, hcreated, hunwritten⟩ :=
    (onlyCreates_of_provisions hrun hothers).exists_creation hhealthy hrun habsent hasked rfl
  cases hcall : created.call with
  | inl j =>
    exact ⟨j, early, created, late, before, after, rfl, hcall, hstep, hlate, hcreated, hunwritten⟩
  | inr j =>
    exact absurd (Exchange.written_of_created hcreated) (hothers created (by simp) j hcall).1

/-- Among provisions of one instance at most one returns. If a provider accepted one of them, then
one of them is the provision that the record and the request noted are of; every other one that was
accepted, or that checked after the record was created, is told that the instance exists. Assumes:
the store does not fail, there is no record of the instance at first, and calls other than the
provisions do not write it. The provisions may have any details, their providers may answer
anything, and the calls may move in any order. -/
theorem one_provision_wins (hhealthy : ∀ e, ¬ setting.storeFails e)
    (habsent : w.store.instances.get? i = none)
    (hrun : Steps (Pool.Step setting)
      (Pool.start broker (provisionRace i details acceptsIncomplete others) w) moves last)
    (hothers : OthersSpare i moves) :
    (∀ j k x y, (last.calls (.inl j)).result? = some (.ok x) →
      (last.calls (.inl k)).result? = some (.ok y) → j = k) ∧
    ((∀ k, ∃ result, (last.calls (.inl k)).result? = some result) →
      (∃ k, ProviderAccepted (last.calls (.inl k)).asked) →
      ∃ k early created late, moves = early ++ created :: late ∧ created.call = .inl k ∧
        created.exchange.created? = some (.instance i) ∧
        ProvisionedBy broker (last.calls (.inl k)) w.store last.world.store ∧
        ∀ j ≠ k, (ProviderAccepted (last.calls (.inl j)).asked ∨
            ∃ move ∈ late, move.call = .inl j ∧
              ∃ reply, move.exchange = .store (.instanceExists i) reply) →
          (last.calls (.inl j)).result? = some (.error (.instanceAlreadyExists i))) := by
  have hnone := Store.not_has_instance_iff.2 habsent
  have honly := onlyCreates_of_provisions hrun hothers
  refine ⟨?_, ?_⟩
  · intro j k x y hj hk
    obtain ⟨xj, hxj, hxjCreates⟩ := (course_of_result hrun hj).creates_of_ok
    obtain ⟨xk, hxk, hxkCreates⟩ := (course_of_result hrun hk).creates_of_ok
    exact Sum.inl.inj (honly.call_unique hrun hnone hxj hxk hxjCreates hxkCreates)
  · rintro hended ⟨first, haccepted⟩
    obtain ⟨result, hresult⟩ := hended first
    obtain ⟨k, early, created, late, before, after, hmoves, hcall, hstep, hlate, hcreated,
      hunwritten⟩ := exists_creation hhealthy hnone hrun hothers hresult haccepted
    refine ⟨k, early, created, late, hmoves, hcall, hcreated,
      provisionedBy_of_created hhealthy hnone hrun hothers hended hmoves hstep hlate hcreated
        hunwritten hcall, ?_⟩
    intro j hj hlost
    obtain ⟨result, hresult⟩ := hended j
    refine hresult.trans (congrArg some ?_)
    rcases hlost with haccepted | ⟨move, hmove, hcaller, reply, hchecks⟩
    · rcases creates_or_told hhealthy hrun hresult haccepted with ⟨x, hx, hxCreates⟩ | htold
      · have hwon : created.exchange ∈ (last.calls (.inl k)).asked :=
          (Pool.mem_asked_iff hrun).2 ⟨created, by simp [hmoves], hcall, rfl⟩
        exact absurd (Sum.inl.inj (honly.call_unique hrun hnone hx hwon hxCreates hcreated)) hj
      · exact htold
    · have htaken : reply = .ok true := taken_of_late hhealthy hlate
        (hstep.allows.created hcreated).2 hunwritten hmove hchecks
      refine (course_of_result hrun hresult).of_taken ((Pool.mem_asked_iff hrun).2 ?_)
      exact ⟨move, by simp [hmoves, hmove], hcaller, by rw [hchecks, htaken]⟩

end Race

/-- Three provisions of an instance for different spaces, and a bind of it. -/
def threeProvisions : Fin 3 ⊕ Unit → Request :=
  provisionRace "i-1"
    (fun k ↦ { serviceId := "db", planId := "small", spaceGuid := ["a", "b", "c"][k] })
    (fun _ ↦ true) (fun _ ↦ .bind "i-1" "b-1" { serviceId := "db", planId := "small" })

theorem one_of_three_provisions_wins :
    let start : Pool threeProvisions := Pool.start (databaseBroker false) threeProvisions {}
    let played := Pool.play "now" databaseProvider
      [.inl 0, .inl 1, .inl 1, .inr (), .inl 0, .inl 1, .inl 2, .inl 0, .inl 1, .inr ()] start
    OthersSpare "i-1" played.1 ∧ (∀ k, ∃ result, (played.2.calls (.inl k)).result? = some result) ∧
      ProviderAccepted (played.2.calls (.inl 0)).asked ∧
      ∃ k, ProvisionedBy (databaseBroker false) (played.2.calls (.inl k)) {}
        played.2.world.store := by
  intro start played
  have hrun : Steps (Pool.Step (.faithful databaseProvider)) start played.1 played.2 :=
    Pool.steps_of_play "now" databaseProvider _ start
  have hothers : OthersSpare "i-1" played.1 := by
    have hcomputed : ∀ move ∈ played.1, move.call = .inr () →
        move.exchange.written? ≠ some (.instance "i-1") ∧
          move.exchange.logged? ≠ some "i-1" := by decide +kernel
    exact fun move hmove k ↦ hcomputed move hmove
  have hended (k : Fin 3) : ∃ result, (played.2.calls (.inl k)).result? = some result := by
    match k with
    | 0 => exact ⟨_, rfl⟩
    | 1 => exact ⟨_, rfl⟩
    | 2 => exact ⟨_, rfl⟩
  have haccepted : ProviderAccepted (played.2.calls (.inl 0)).asked :=
    ⟨_, _, _, List.getElem_mem (n := 1) (by decide +kernel)⟩
  obtain ⟨k, -, -, -, -, -, -, hwon, -⟩ :=
    (one_provision_wins (fun _ hfails ↦ hfails) rfl hrun hothers).2 hended ⟨0, haccepted⟩
  exact ⟨hothers, hended, haccepted, k, hwon⟩

end Brokerage.Broker
