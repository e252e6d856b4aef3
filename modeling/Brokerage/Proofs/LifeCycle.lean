import Brokerage.Proofs.Frame

/-!
The life of an instance. As far as its life goes an instance is absent, or idle under a plan, or an
operation is pending on it, of a kind, under a token and with a plan. With a store that does not
fail every call either moves the instance that it is made for on by one of a few moves, or leaves
the records of all instances as they were, and what the caller is told is what has happened.
-/

set_option autoImplicit false

namespace Brokerage

/-- A provider that refreshes a record touches nothing but its own details. -/
def Setting.RefreshOnlyDetails (setting : Setting) : Prop :=
  ∀ serviceId record refreshed, setting.provider (.refresh serviceId record) (.ok refreshed) →
    ∃ details, refreshed = { record with otherDetails := details }

theorem Setting.RefreshOnlyDetails.keepsId {setting : Setting} (h : setting.RefreshOnlyDetails) :
    setting.RefreshKeepsId := by
  intro serviceId record refreshed hanswer
  obtain ⟨details, rfl⟩ := h serviceId record refreshed hanswer
  rfl

/-! ### States -/

/-- What an instance is as far as its life goes. -/
inductive LifeState where
  | absent
  | idle (plan : String)
  | pending (kind : OperationKind) (token plan : String)
  deriving DecidableEq

namespace LifeState

/-- The state of an instance that is recorded with a plan and an operation. -/
def recorded (plan : String) : Option PendingOperation → LifeState
  | none => .idle plan
  | some operation => .pending operation.kind operation.id plan

/-- What a caller is told whose call has led to this state. -/
def response : LifeState → OperationResponse
  | .absent | .idle _ => .completed
  | .pending _ token _ => .pending token

theorem response_recorded {α : Type} (plan : String) (kind : OperationKind)
    (outcome : Provider.Outcome α) :
    (recorded plan (outcome.operation? kind)).response = outcome.response := by
  cases outcome <;> rfl

end LifeState

/-- The state of an instance in the records. -/
def Store.life (s : Store) (i : String) : LifeState :=
  match s.instances.get? i with
  | none => .absent
  | some record => .recorded record.planId record.operation

namespace Store

variable {s t : Store} {i : String}

theorem life_of_none (h : s.instances.get? i = none) : s.life i = .absent := by
  rw [life, h]

theorem life_of_some {record : InstanceRecord} (h : s.instances.get? i = some record) :
    s.life i = .recorded record.planId record.operation := by
  rw [life, h]

theorem life_congr (h : t.instances.get? i = s.instances.get? i) : t.life i = s.life i := by
  rw [life, life, h]

end Store

namespace Broker

/-- The moves in the life of an instance, each with the request that makes it. Nothing but a
provision leads out of absence; an update needs an idle instance, a deprovision one that is not
being deprovisioned. -/
inductive LifeMove : Request → LifeState → LifeState → Prop
  | provisioned {i : String} {details : ProvisionDetails} {acceptsIncomplete : Bool} :
    LifeMove (.provision i details acceptsIncomplete) .absent (.idle details.planId)
  | provisioning {i : String} {details : ProvisionDetails} {acceptsIncomplete : Bool}
    (token : String) :
    LifeMove (.provision i details acceptsIncomplete) .absent
      (.pending .provision token details.planId)
  | updated {i : String} {details : UpdateDetails} {acceptsIncomplete : Bool} (plan : String) :
    LifeMove (.update i details acceptsIncomplete) (.idle plan)
      (.idle (details.planId.getD plan))
  | updating {i : String} {details : UpdateDetails} {acceptsIncomplete : Bool}
    (plan token : String) :
    LifeMove (.update i details acceptsIncomplete) (.idle plan)
      (.pending .update token (details.planId.getD plan))
  | deprovisioned {i : String} {details : DeprovisionDetails} {acceptsIncomplete : Bool}
    (plan : String) {operation : Option PendingOperation}
    (hfree : ∀ pending, operation = some pending → pending.kind ≠ .deprovision) :
    LifeMove (.deprovision i details acceptsIncomplete) (.recorded plan operation) .absent
  | deprovisioning {i : String} {details : DeprovisionDetails} {acceptsIncomplete : Bool}
    (plan token : String) {operation : Option PendingOperation}
    (hfree : ∀ pending, operation = some pending → pending.kind ≠ .deprovision) :
    LifeMove (.deprovision i details acceptsIncomplete) (.recorded plan operation)
      (.pending .deprovision token plan)
  | removed {i : String} {details : PollDetails} (plan token : String) :
    LifeMove (.lastOperation i details) (.pending .deprovision token plan) .absent
  | settled {i : String} {details : PollDetails} (plan token : String) {kind : OperationKind}
    (hkind : kind ≠ .deprovision) :
    LifeMove (.lastOperation i details) (.pending kind token plan) (.idle plan)

/-- The lives of all instances before and after a call, of which it moves at most one on. -/
inductive LifeStep (lives : String → LifeState) (call : Served) : (String → LifeState) → Prop
  | move {after : String → LifeState}
    (hmove : LifeMove call.request (lives call.request.subject.instanceId)
      (after call.request.subject.instanceId))
    (hothers : ∀ j, j ≠ call.request.subject.instanceId → after j = lives j) :
    LifeStep lives call after
  | stay : LifeStep lives call lives

/-! ### Calls -/

/-- The request is for an operation on an instance. -/
def Request.operates : Request → Bool
  | .provision _ _ _ | .update _ _ _ | .deprovision _ _ _ => true
  | _ => false

namespace Served

/-- What a caller was told who asked for an operation on an instance and was not refused. -/
def response? : Served → Option OperationResponse
  | ⟨.provision _ _ _, _, .ok response⟩ | ⟨.update _ _ _, _, .ok response⟩
  | ⟨.deprovision _ _ _, _, .ok response⟩ => some response
  | _ => none

/-- What a caller was told who asked how an operation went and was not refused. -/
def state? : Served → Option OperationState
  | ⟨.lastOperation _ _, _, .ok operation⟩ => some operation.state
  | _ => none

/-- The call has moved the instance that it is made for on: its state has changed by a move, its
record has been written and the records of the others are as they were. -/
structure Moves (call : Served) (s t : Store) : Prop where
  move : LifeMove call.request (s.life call.request.subject.instanceId)
    (t.life call.request.subject.instanceId)
  written : ∃ x ∈ call.exchanges, x.written? = some (.instance call.request.subject.instanceId)
  others : ∀ j, j ≠ call.request.subject.instanceId →
    t.instances.get? j = s.instances.get? j

/-- The call follows the life cycle. It moves its instance on or leaves the records of all
instances as they were; an operation is granted exactly when it has moved the instance on, with a
response that tells of the state this has led to; a poll moves the instance on exactly when the
provider finds the operation done and, unless it is a deprovision, refreshes the record; and it
tells of success exactly when it has done so or finds nothing pending. -/
structure FollowsLifeCycle (call : Served) (s t : Store) : Prop where
  moves_or_stays : call.Moves s t ∨ ∀ j, t.instances.get? j = s.instances.get? j
  granted_iff : call.request.operates = true →
    ((∃ response, call.response? = some response) ↔ call.Moves s t)
  told : ∀ response, call.response? = some response →
    response = (t.life call.request.subject.instanceId).response
  finished_iff : call.request.action = .poll →
    (call.Moves s t ↔ call.Acted ∧
      ((∃ token plan, s.life call.request.subject.instanceId = .pending .deprovision token plan) ∨
        ∃ x ∈ call.exchanges, x.did? = some .refresh))
  succeeded_iff : call.request.action = .poll →
    (call.state? = some .succeeded ↔ call.Moves s t ∨
      (∃ state, call.state? = some state) ∧
        ∃ plan, s.life call.request.subject.instanceId = .idle plan)

variable {call : Served} {s t : Store}

/-- Nothing is moved on without a write. -/
theorem not_moves_of_silent (hsilent : call.exchanges.any Exchange.writes = false) :
    ¬ call.Moves s t := by
  rintro ⟨-, ⟨x, hx, hwritten⟩, -⟩
  refine List.any_eq_false.1 hsilent x hx ?_
  obtain ⟨question, reply⟩ := x
  cases question with
  | store q =>
    cases reply with
    | error e => cases hwritten
    | ok answer => cases q <;> first | rfl | cases hwritten
  | vault q => cases hwritten
  | provider q => cases hwritten

theorem action_ne_poll_of_operates (h : call.request.operates = true) :
    call.request.action ≠ .poll := by
  obtain ⟨request, exchanges, result⟩ := call
  cases request with
  | lastOperation => cases h
  | _ => exact nofun

theorem response?_of_not_operates (h : call.request.operates = false) : call.response? = none := by
  obtain ⟨request, exchanges, result⟩ := call
  cases request with
  | provision | update | deprovision => cases h
  | _ => cases result <;> rfl

namespace FollowsLifeCycle

theorem of_refused (hoperates : call.request.operates = true)
    (hsilent : call.exchanges.any Exchange.writes = false) (hsame : t = s)
    (hrefused : call.response? = none) : call.FollowsLifeCycle s t where
  moves_or_stays := .inr fun j ↦ by rw [hsame]
  granted_iff _ := by simp [hrefused, not_moves_of_silent hsilent]
  told response hresponse := by
    rw [hrefused] at hresponse
    cases hresponse
  finished_iff hpoll := absurd hpoll (action_ne_poll_of_operates hoperates)
  succeeded_iff hpoll := absurd hpoll (action_ne_poll_of_operates hoperates)

theorem of_granted (hoperates : call.request.operates = true) (hmoves : call.Moves s t)
    (hresponse : call.response? = some (t.life call.request.subject.instanceId).response) :
    call.FollowsLifeCycle s t where
  moves_or_stays := .inl hmoves
  granted_iff _ := iff_of_true ⟨_, hresponse⟩ hmoves
  told _ htold := Option.some.inj (htold.symm.trans hresponse)
  finished_iff hpoll := absurd hpoll (action_ne_poll_of_operates hoperates)
  succeeded_iff hpoll := absurd hpoll (action_ne_poll_of_operates hoperates)

/-- A poll that is told less than that the operation is done, or cannot refresh the record. -/
theorem of_unfinished (hoperates : call.request.operates = false)
    (hsilent : call.exchanges.any Exchange.writes = false) (hsame : t = s)
    (hunfinished : ¬ (call.Acted ∧
      ((∃ token plan, s.life call.request.subject.instanceId = .pending .deprovision token plan) ∨
        ∃ x ∈ call.exchanges, x.did? = some .refresh)))
    (hstate : call.state? = some .succeeded ↔ (∃ state, call.state? = some state) ∧
      ∃ plan, s.life call.request.subject.instanceId = .idle plan) :
    call.FollowsLifeCycle s t where
  moves_or_stays := .inr fun j ↦ by rw [hsame]
  granted_iff htrue := by
    rw [hoperates] at htrue
    cases htrue
  told response hresponse := by
    rw [response?_of_not_operates hoperates] at hresponse
    cases hresponse
  finished_iff _ := iff_of_false (not_moves_of_silent hsilent) hunfinished
  succeeded_iff _ := by rw [hstate, or_iff_right (not_moves_of_silent hsilent)]

theorem of_finished (hoperates : call.request.operates = false) (hmoves : call.Moves s t)
    (hacted : call.Acted)
    (hfinished :
      (∃ token plan, s.life call.request.subject.instanceId = .pending .deprovision token plan) ∨
        ∃ x ∈ call.exchanges, x.did? = some .refresh)
    (hstate : call.state? = some .succeeded) : call.FollowsLifeCycle s t where
  moves_or_stays := .inl hmoves
  granted_iff htrue := by
    rw [hoperates] at htrue
    cases htrue
  told response hresponse := by
    rw [response?_of_not_operates hoperates] at hresponse
    cases hresponse
  finished_iff _ := iff_of_true hmoves ⟨hacted, hfinished⟩
  succeeded_iff _ := iff_of_true hstate (.inl hmoves)

/-- A poll whose provider does not find the operation done. -/
theorem of_unacted (hoperates : call.request.operates = false)
    (hsilent : call.exchanges.any Exchange.writes = false) (hsame : t = s)
    (hunacted : ∀ x ∈ call.exchanges, x.did? ≠ some call.request.action)
    (hstate : call.state? = some .succeeded ↔ (∃ state, call.state? = some state) ∧
      ∃ plan, s.life call.request.subject.instanceId = .idle plan) :
    call.FollowsLifeCycle s t := by
  refine .of_unfinished hoperates hsilent hsame ?_ hstate
  rintro ⟨⟨x, hx, hdid⟩, -⟩
  exact hunacted x hx hdid

/-- A call that is neither for an operation nor about one. -/
theorem of_aside (hoperates : call.request.operates = false) (hpoll : call.request.action ≠ .poll)
    (hsame : ∀ j, t.instances.get? j = s.instances.get? j) : call.FollowsLifeCycle s t where
  moves_or_stays := .inr hsame
  granted_iff htrue := by
    rw [hoperates] at htrue
    cases htrue
  told response hresponse := by
    rw [response?_of_not_operates hoperates] at hresponse
    cases hresponse
  finished_iff h := absurd h hpoll
  succeeded_iff h := absurd h hpoll

theorem lifeStep (h : call.FollowsLifeCycle s t) : LifeStep s.life call t.life := by
  rcases h.moves_or_stays with hmoves | hstays
  · exact .move hmoves.move fun j hj ↦ Store.life_congr (hmoves.others j hj)
  · have hlife : t.life = s.life := funext fun j ↦ Store.life_congr (hstays j)
    rw [hlife]
    exact .stay

end FollowsLifeCycle

end Served

variable {broker : Broker} {i b : String} {exchanges : Dialogue} {setting : Setting} {w w' : World}

/-! ### What each call does -/

theorem ProvisionCourse.follows {details : ProvisionDetails} {acceptsIncomplete : Bool}
    {result : Except BrokerError OperationResponse}
    (h : ProvisionCourse broker i details acceptsIncomplete exchanges result)
    (hhealthy : ∀ e, ¬ setting.storeFails e) (hsteps : Steps setting.Allows w exchanges w')
    (hothers : ∀ j, j ≠ i → w'.store.instances.get? j = w.store.instances.get? j) :
    (⟨.provision i details acceptsIncomplete, exchanges, result⟩ : Served).FollowsLifeCycle
      w.store w'.store := by
  cases h with
  | unchecked | taken | refused | declined =>
    exact .of_refused rfl rfl (Setting.store_eq_of_steps hsteps rfl) rfl
  | unrecorded hadmits outcome e =>
    rw [Setting.steps_instanceExists_iff, Setting.steps_provider_iff,
      Steps.singleton_iff] at hsteps
    obtain ⟨hfound, -, hcreate⟩ := hsteps
    have hnone : w.store.instances.get? i = none := by simpa using hfound
    exact absurd (hcreate.answers.createInstance_error hnone) (hhealthy e)
  | unlogged hadmits outcome e =>
    rw [Setting.steps_instanceExists_iff, Setting.steps_provider_iff, Steps.cons_iff] at hsteps
    obtain ⟨-, -, v, -, hlog⟩ := hsteps
    exact absurd (Steps.singleton_iff.1 hlog).answers.createRequest_error (hhealthy e)
  | @recorded service plan vars hadmits outcome =>
    rw [Setting.steps_instanceExists_iff, Setting.steps_provider_iff, Steps.cons_iff] at hsteps
    obtain ⟨hfound, -, v, hcreate, hlog⟩ := hsteps
    have hplan : plan.id = details.planId := planId_of_resolve (admitProvision_ok hadmits).1
    have hbefore := Store.life_of_none (by simpa using hfound : w.store.instances.get? i = none)
    obtain ⟨now, hcreated⟩ := hcreate.answers.instance_of_createInstance
    have hlogged : v.store.SameRecord w'.store (.instance i) :=
      (Steps.singleton_iff.1 hlog).answers.sameRecord (by rintro ⟨⟩)
    have hafter := Store.life_of_some (hlogged.of_instance.trans hcreated)
    simp only [provisionedRecord, hplan] at hafter
    refine .of_granted rfl ⟨?_, ⟨_, .tail _ (.tail _ (.head _)), rfl⟩, hothers⟩ ?_
    · show LifeMove _ (w.store.life i) (w'.store.life i)
      rw [hbefore, hafter]
      cases outcome with
      | completed value => exact .provisioned
      | pending token value => exact .provisioning token
    · show some outcome.response = some (w'.store.life i).response
      rw [hafter, LifeState.response_recorded]

theorem UpdateCourse.follows {details : UpdateDetails} {acceptsIncomplete : Bool}
    {result : Except BrokerError OperationResponse}
    (h : UpdateCourse broker i details acceptsIncomplete exchanges result)
    (hhealthy : ∀ e, ¬ setting.storeFails e) (hw : w.store.Keyed)
    (hsteps : Steps setting.Allows w exchanges w')
    (hothers : ∀ j, j ≠ i → w'.store.instances.get? j = w.store.instances.get? j) :
    (⟨.update i details acceptsIncomplete, exchanges, result⟩ : Served).FollowsLifeCycle
      w.store w'.store := by
  cases h with
  | unread | refused | declined =>
    exact .of_refused rfl rfl (Setting.store_eq_of_steps hsteps rfl) rfl
  | @unsaved record service plan vars hadmits outcome e =>
    rw [Setting.steps_getInstance_iff, Setting.steps_provider_iff, Steps.singleton_iff] at hsteps
    obtain ⟨hread, -, hsave⟩ := hsteps
    have hfound := hw.get?_id hread
    exact absurd (hsave.answers.saveInstance_error hfound) (hhealthy e)
  | unlogged hadmits outcome e =>
    rw [Setting.steps_getInstance_iff, Setting.steps_provider_iff, Steps.cons_iff] at hsteps
    obtain ⟨-, -, v, -, hlog⟩ := hsteps
    exact absurd (Steps.singleton_iff.1 hlog).answers.saveRequest_error (hhealthy e)
  | @completed record service plan vars hadmits outcome =>
    rw [Setting.steps_getInstance_iff, Setting.steps_provider_iff, Steps.cons_iff] at hsteps
    obtain ⟨hread, -, v, hsave, hlog⟩ := hsteps
    obtain ⟨hresolve, hidle, -⟩ := admitUpdate_ok hadmits
    have hplan : plan.id = details.planId.getD record.planId := planId_of_resolve hresolve
    have hid : record.id = i := hw.instances i record hread
    have hbefore := Store.life_of_some hread
    rw [hidle] at hbefore
    obtain ⟨created, now, hsaved⟩ := hsave.answers.instance_of_saveInstance
    have hlogged : v.store.SameRecord w'.store (.instance i) :=
      (Steps.singleton_iff.1 hlog).answers.sameRecord (by rintro ⟨⟩)
    rw [updatedRecord, hid] at hsaved
    have hafter := Store.life_of_some (hlogged.of_instance.trans hsaved)
    simp only [hplan] at hafter
    refine .of_granted rfl ⟨?_, ⟨_, .tail _ (.tail _ (.head _)), ?_⟩, hothers⟩ ?_
    · show LifeMove _ (w.store.life i) (w'.store.life i)
      rw [hbefore, hafter]
      cases outcome with
      | completed value => exact .updated record.planId
      | pending token value => exact .updating record.planId token
    · show some (Subject.instance record.id) = some (.instance i)
      rw [hid]
    · show some outcome.response = some (w'.store.life i).response
      rw [hafter, LifeState.response_recorded]

/-- A record with no pending deprovision is one whose operation, if any, is of another kind. -/
theorem kind_ne_of_pendingDeprovision {record : InstanceRecord}
    (h : pendingDeprovision record = none) :
    ∀ pending, record.operation = some pending → pending.kind ≠ .deprovision := by
  intro pending hpending hkind
  simp [pendingDeprovision, hpending, hkind] at h

theorem DeprovisionCourse.follows {details : DeprovisionDetails} {acceptsIncomplete : Bool}
    {result : Except BrokerError OperationResponse}
    (h : DeprovisionCourse broker i details acceptsIncomplete exchanges result)
    (hhealthy : ∀ e, ¬ setting.storeFails e) (hw : w.store.Keyed)
    (hsteps : Steps setting.Allows w exchanges w')
    (hothers : ∀ j, j ≠ i → w'.store.instances.get? j = w.store.instances.get? j) :
    (⟨.deprovision i details acceptsIncomplete, exchanges, result⟩ : Served).FollowsLifeCycle
      w.store w'.store := by
  cases h with
  | unread | refused | declined =>
    exact .of_refused rfl rfl (Setting.store_eq_of_steps hsteps rfl) rfl
  | undeleted hadmits e =>
    rw [Setting.steps_getInstance_iff, Setting.steps_provider_iff, Steps.singleton_iff] at hsteps
    obtain ⟨hread, -, hdelete⟩ := hsteps
    exact absurd (hdelete.answers.deleteInstance_error hread) (hhealthy e)
  | @deleted record service hadmits =>
    rw [Setting.steps_getInstance_iff, Setting.steps_provider_iff, Steps.singleton_iff] at hsteps
    obtain ⟨hread, -, hdelete⟩ := hsteps
    have hbefore := Store.life_of_some hread
    have hafter := Store.life_of_none hdelete.answers.instance_of_deleteInstance
    refine .of_granted rfl ⟨?_, ⟨_, .tail _ (.tail _ (.head _)), rfl⟩, hothers⟩ ?_
    · show LifeMove _ (w.store.life i) (w'.store.life i)
      rw [hbefore, hafter]
      exact .deprovisioned _ (kind_ne_of_pendingDeprovision (admitDeprovision_ok hadmits).2)
    · show some OperationResponse.completed = some (w'.store.life i).response
      rw [hafter]
      rfl
  | @unsaved record service hadmits token e =>
    rw [Setting.steps_getInstance_iff, Setting.steps_provider_iff, Steps.singleton_iff] at hsteps
    obtain ⟨hread, -, hsave⟩ := hsteps
    have hfound := hw.get?_id hread
    exact absurd (hsave.answers.saveInstance_error hfound) (hhealthy e)
  | @condemned record service hadmits token =>
    rw [Setting.steps_getInstance_iff, Setting.steps_provider_iff, Steps.singleton_iff] at hsteps
    obtain ⟨hread, -, hsave⟩ := hsteps
    have hid : record.id = i := hw.instances i record hread
    have hbefore := Store.life_of_some hread
    obtain ⟨created, now, hsaved⟩ := hsave.answers.instance_of_saveInstance
    rw [condemnedRecord, hid] at hsaved
    have hafter := Store.life_of_some hsaved
    refine .of_granted rfl ⟨?_, ⟨_, .tail _ (.tail _ (.head _)), ?_⟩, hothers⟩ ?_
    · show LifeMove _ (w.store.life i) (w'.store.life i)
      rw [hbefore, hafter]
      exact .deprovisioning _ _ (kind_ne_of_pendingDeprovision (admitDeprovision_ok hadmits).2)
    · show some (Subject.instance record.id) = some (.instance i)
      rw [hid]
    · show some (OperationResponse.pending token) = some (w'.store.life i).response
      rw [hafter]
      rfl

theorem unanswered_ne_succeeded (e : Provider.Error) : (unanswered e).state ≠ .succeeded := by
  unfold unanswered
  split <;> exact nofun

theorem PollCourse.follows {details : PollDetails} {result : Except BrokerError LastOperation}
    (h : PollCourse broker i exchanges result) (hhealthy : ∀ e, ¬ setting.storeFails e)
    (hrefresh : setting.RefreshOnlyDetails) (hw : w.store.Keyed)
    (hsteps : Steps setting.Allows w exchanges w')
    (hothers : ∀ j, j ≠ i → w'.store.instances.get? j = w.store.instances.get? j) :
    (⟨.lastOperation i details, exchanges, result⟩ : Served).FollowsLifeCycle
      w.store w'.store := by
  have hlife {record : InstanceRecord} {operation : Option PendingOperation} {rest : Dialogue}
      (hsteps : Steps setting.Allows w (.store (.getInstance i) (.ok record) :: rest) w')
      (hoperation : record.operation = operation) :
      w.store.life i = .recorded record.planId operation := by
    rw [Store.life_of_some (Setting.steps_getInstance_iff.1 hsteps).1, hoperation]
  have hbusy {record : InstanceRecord} {operation : PendingOperation} {rest : Dialogue}
      (hsteps : Steps setting.Allows w (.store (.getInstance i) (.ok record) :: rest) w')
      (hpending : record.operation = some operation) : ¬ ∃ plan, w.store.life i = .idle plan := by
    rw [hlife hsteps hpending]
    exact nofun
  cases h with
  | unread | refused =>
    exact .of_unacted rfl rfl (Setting.store_eq_of_steps hsteps rfl)
      (Exchange.ne_some_of_all rfl) (by simp [Served.state?])
  | idle hadmits hidle =>
    exact .of_unacted rfl rfl (Setting.store_eq_of_steps hsteps rfl)
      (Exchange.ne_some_of_all rfl) (iff_of_true rfl ⟨⟨_, rfl⟩, _, hlife hsteps hidle⟩)
  | unanswered hadmits hpending e =>
    refine .of_unacted rfl rfl (Setting.store_eq_of_steps hsteps rfl)
      (Exchange.ne_some_of_all rfl) (iff_of_false ?_ fun h ↦ hbusy hsteps hpending h.2)
    exact fun hstate ↦ unanswered_ne_succeeded e (Option.some.inj hstate)
  | unfinished hadmits hpending =>
    exact .of_unacted rfl rfl (Setting.store_eq_of_steps hsteps rfl)
      (Exchange.ne_some_of_all rfl) (iff_of_false nofun fun h ↦ hbusy hsteps hpending h.2)
  | @removed record service operation hadmits hpending hcompletion reply hreply =>
    have hbefore := hlife hsteps hpending
    rw [LifeState.recorded, deprovision_of_deleteRecord hcompletion] at hbefore
    rw [Setting.steps_getInstance_iff, Setting.steps_provider_iff, Steps.singleton_iff] at hsteps
    obtain ⟨hread, -, hdelete⟩ := hsteps
    rcases hreply with rfl | ⟨e, -, rfl⟩
    · have hafter := Store.life_of_none hdelete.answers.instance_of_deleteInstance
      refine .of_finished rfl ⟨?_, ⟨_, .tail _ (.tail _ (.head _)), rfl⟩, hothers⟩
        ⟨_, .tail _ (.head _), rfl⟩ (.inl ⟨_, _, hbefore⟩) rfl
      show LifeMove _ (w.store.life i) (w'.store.life i)
      rw [hbefore, hafter]
      exact .removed _ _
    · exact absurd (hdelete.answers.deleteInstance_error hread) (hhealthy e)
  | unremoved hadmits hpending hcompletion e hlost =>
    rw [Setting.steps_getInstance_iff, Setting.steps_provider_iff, Steps.singleton_iff] at hsteps
    obtain ⟨hread, -, hdelete⟩ := hsteps
    exact absurd (hdelete.answers.deleteInstance_error hread) (hhealthy e)
  | unreread hadmits hpending hcompletion e =>
    rw [Setting.steps_getInstance_iff, Setting.steps_provider_iff, Steps.singleton_iff] at hsteps
    obtain ⟨hread, -, hreread⟩ := hsteps
    rcases hreread.answers.getInstance_error with hfails | ⟨hnone, -⟩
    · exact absurd hfails (hhealthy e)
    · cases hnone.symm.trans hread
  | @unrefreshed record service operation hadmits hpending hcompletion reread e =>
    have hkind := not_deprovision_of_refreshDetails hcompletion
    refine .of_unfinished rfl rfl (Setting.store_eq_of_steps hsteps rfl) ?_
      (iff_of_false nofun fun h ↦ hbusy hsteps hpending h.2)
    rintro ⟨-, ⟨token, plan, hcondemned⟩ | ⟨x, hx, hdid⟩⟩
    · have hsame := (hlife hsteps hpending).symm.trans hcondemned
      exact hkind (LifeState.pending.inj hsame).1
    · simp only [List.mem_cons, List.not_mem_nil, or_false] at hx
      rcases hx with rfl | rfl | rfl | rfl <;> cases hdid
  | @unsettled record service operation hadmits hpending hcompletion reread refreshed e =>
    rw [Setting.steps_getInstance_iff, Setting.steps_provider_iff, Setting.steps_getInstance_iff,
      Setting.steps_provider_iff, Steps.singleton_iff] at hsteps
    obtain ⟨-, -, hreread, hrefreshed, hsave⟩ := hsteps
    obtain ⟨details, rfl⟩ := hrefresh _ _ _ hrefreshed
    have hfound := hw.get?_id hreread
    exact absurd (hsave.answers.saveInstance_error hfound) (hhealthy e)
  | @settled record service operation hadmits hpending hcompletion reread refreshed =>
    have hbefore := hlife hsteps hpending
    rw [Setting.steps_getInstance_iff, Setting.steps_provider_iff, Setting.steps_getInstance_iff,
      Setting.steps_provider_iff, Steps.singleton_iff] at hsteps
    obtain ⟨hread, -, hreread, hrefreshed, hsave⟩ := hsteps
    obtain ⟨details, rfl⟩ := hrefresh _ _ _ hrefreshed
    obtain rfl : record = reread := Option.some.inj (hread.symm.trans hreread)
    have hid : record.id = i := hw.instances i record hread
    obtain ⟨created, now, hsaved⟩ := hsave.answers.instance_of_saveInstance
    simp only [settledRecord, hid] at hsaved
    have hafter := Store.life_of_some hsaved
    refine .of_finished rfl ⟨?_, ⟨_, .tail _ (.tail _ (.tail _ (.tail _ (.head _)))), ?_⟩, hothers⟩
      ⟨_, .tail _ (.head _), rfl⟩ (.inr ⟨_, .tail _ (.tail _ (.tail _ (.head _))), rfl⟩) rfl
    · show LifeMove _ (w.store.life i) (w'.store.life i)
      rw [hbefore, hafter]
      exact .settled _ _ (not_deprovision_of_refreshDetails hcompletion)
    · show some (Subject.instance record.id) = some (.instance i)
      rw [hid]

/-! ### Runs -/

/-- A call leaves the records of instances that it is not made for. -/
theorem Serves.instance_stays {call : Served} (h : broker.Serves setting w call w')
    (hrefresh : setting.RefreshKeepsId) (hw : w.store.Keyed) {j : String}
    (hother : call.request.subject ≠ .instance j) :
    w'.store.instances.get? j = w.store.instances.get? j :=
  (sameRecord_of_steps h.2
    (Exchange.ne_some_of_only (h.onlyAffects hrefresh hw) hother)).of_instance

theorem Serves.follows {call : Served} (h : broker.Serves setting w call w')
    (hhealthy : ∀ e, ¬ setting.storeFails e) (hrefresh : setting.RefreshOnlyDetails)
    (hw : w.store.Keyed) : call.FollowsLifeCycle w.store w'.store := by
  have hothers {i : String} (hsubject : call.request.subject = .instance i) :
      ∀ j, j ≠ i → w'.store.instances.get? j = w.store.instances.get? j := by
    intro j hj
    refine h.instance_stays hrefresh.keepsId hw ?_
    rw [hsubject]
    exact fun heq ↦ hj (Subject.instance.inj heq).symm
  have haside {i b : String} (hsubject : call.request.subject = .binding i b) :
      ∀ j, w'.store.instances.get? j = w.store.instances.get? j := by
    intro j
    refine h.instance_stays hrefresh.keepsId hw ?_
    rw [hsubject]
    exact nofun
  obtain ⟨request, exchanges, result⟩ := call
  obtain ⟨hends, hsteps⟩ := h
  cases request with
  | provision => exact (ProvisionCourse.of_ends hends).follows hhealthy hsteps (hothers rfl)
  | update => exact (UpdateCourse.of_ends hends).follows hhealthy hw hsteps (hothers rfl)
  | deprovision => exact (DeprovisionCourse.of_ends hends).follows hhealthy hw hsteps (hothers rfl)
  | lastOperation i details =>
    exact (PollCourse.of_ends details hends).follows hhealthy hrefresh hw hsteps (hothers rfl)
  | bind => exact .of_aside rfl nofun (haside rfl)
  | unbind => exact .of_aside rfl nofun (haside rfl)

/-- The broker refines the life cycle of instances. From empty records, its calls one after another
are a run of the life cycle, and whatever the records have become, the next call follows it.
Assumes: a store that does not fail, and providers whose refresh touches only their own details;
their other answers and the vault are arbitrary. -/
theorem refines_lifeCycle (hhealthy : ∀ e, ¬ setting.storeFails e)
    (hrefresh : setting.RefreshOnlyDetails) {vault : Vault} {calls : List Served}
    (hrun : Steps (broker.Serves setting) ⟨Store.empty, vault⟩ calls w) :
    Steps LifeStep (fun _ ↦ .absent) calls w.store.life ∧
      ∀ call w', broker.Serves setting w call w' → call.FollowsLifeCycle w.store w'.store := by
  have hw : w.store.Keyed := keyed_of_history hrun Store.keyed_empty
  refine ⟨?_, fun call w' hserves ↦ hserves.follows hhealthy hrefresh hw⟩
  refine hrun.map (fun v ↦ v.store.life) (P := fun v ↦ v.store.Keyed) ?_ Store.keyed_empty
  intro v call v' hv hserves
  exact ⟨Setting.keyed_of_steps hserves.2 hv, (hserves.follows hhealthy hrefresh hv).lifeStep⟩

/-- A life of an instance, up to a deprovision that is under way. -/
def condemnedLife : List Request :=
  [.provision "i-1" { serviceId := "db", planId := "small" } true, .lastOperation "i-1" {},
   .update "i-1" { serviceId := "db" } true,
   .deprovision "i-1" { serviceId := "db", planId := "small" } true]

theorem lifeCycle_of_condemnedLife :
    let served := (databaseBroker false).history "now" databaseProvider condemnedLife {}
    (∀ e, ¬ (Setting.faithful databaseProvider).storeFails e) ∧
      (Setting.faithful databaseProvider).RefreshOnlyDetails ∧
      Steps LifeStep (fun _ ↦ .absent) served.1 served.2.store.life ∧
      served.2.store.life "i-1" = .pending .deprovision "op-2" "small" ∧
      ∃ poll after, (databaseBroker false).Serves (.faithful databaseProvider) served.2 poll after ∧
        poll.request = .lastOperation "i-1" {} ∧ poll.Moves served.2.store after.store := by
  intro served
  have hhealthy : ∀ e, ¬ (Setting.faithful databaseProvider).storeFails e := fun _ h ↦ h
  have hrefresh : (Setting.faithful databaseProvider).RefreshOnlyDetails := by
    intro serviceId record refreshed h
    cases h
    exact ⟨record.otherDetails, rfl⟩
  have hrun := steps_history "now" databaseProvider (databaseBroker false) condemnedLife {}
  obtain ⟨hlife, hnext⟩ := refines_lifeCycle hhealthy hrefresh hrun
  have hcondemned : served.2.store.life "i-1" = .pending .deprovision "op-2" "small" := by
    decide +kernel
  obtain ⟨after, hpoll, -⟩ := Steps.cons_iff.1
    (steps_history "now" databaseProvider (databaseBroker false) [.lastOperation "i-1" {}] served.2)
  refine ⟨hhealthy, hrefresh, hlife, hcondemned, _, after, hpoll, rfl, ?_⟩
  refine ((hnext _ after hpoll).finished_iff rfl).2 ⟨?_, .inl ⟨_, _, hcondemned⟩⟩
  exact ⟨_, .tail _ (.head _), rfl⟩

end Broker

end Brokerage
