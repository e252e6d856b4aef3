import Brokerage.Proofs.Removal

/-!
Polls of one operation beside each other. A poll may have read the record before others finished the
operation, and finishes it once more: it deletes a record that is gone, or refreshes and saves one
that has nothing pending. Neither fails, and neither brings anything back, so every poll reports
success but those that come after the record was deleted, which find no instance.
-/

set_option autoImplicit false

namespace Brokerage

/-- The provider of a service that is polled is done, and refreshes nothing but the details of a
record; it always answers. -/
structure Setting.FindsDone (setting : Setting) (serviceId : String) : Prop where
  polled : ∀ record, ∃ reply, setting.provider (.poll serviceId record) reply
  done : ∀ record reply, setting.provider (.poll serviceId record) reply → reply = .ok true
  refreshed : ∀ record, ∃ reply, setting.provider (.refresh serviceId record) reply
  keeps : ∀ record reply, setting.provider (.refresh serviceId record) reply →
    ∃ details, reply = .ok { record with otherDetails := details }

namespace Broker

section Poll

variable (i : String) (original : InstanceRecord) (kind : OperationKind)

/-- A record when its operation is over: it is gone, or it has nothing pending and is otherwise as
it was but for its details and the time of the write. -/
inductive Over : Option InstanceRecord → Prop
  | removed (hkind : kind = .deprovision) : Over none
  | settled (hkind : kind ≠ .deprovision) (details updated : String) :
    Over (some { original with otherDetails := details, operation := none, updatedAt := updated })

/-- A record that polls alone have had to do with. -/
def Polled (found : Option InstanceRecord) : Prop :=
  found = some original ∨ Over original kind found

/-- What a poll goes on to ask when it has read the record. -/
inductive Asks : Action → Prop
  | poll (read : InstanceRecord) : Asks (.provider (.poll original.serviceId read))
  | delete (hkind : kind = .deprovision) : Asks (.store (.deleteInstance i))
  | reread (hkind : kind ≠ .deprovision) : Asks (.store (.getInstance i))
  | refresh {reread : InstanceRecord} (hkind : kind ≠ .deprovision)
    (hreread : Polled original kind (some reread)) :
    Asks (.provider (.refresh original.serviceId reread))
  | save {reread : InstanceRecord} (hkind : kind ≠ .deprovision)
    (hreread : Polled original kind (some reread)) (details : String) :
    Asks (.store (.saveInstance { reread with otherDetails := details, operation := none }))

/-- What it may be told then. -/
inductive Told : Exchange Action.Reply → Prop
  | done (read : InstanceRecord) : Told (.provider (.poll original.serviceId read) (.ok true))
  | deleted : Told (.store (.deleteInstance i) (.ok ()))
  | gone : Told (.store (.deleteInstance i) (.error (.instanceNotFound i)))
  | reread {reread : InstanceRecord} (hreread : Polled original kind (some reread)) :
    Told (.store (.getInstance i) (.ok reread))
  | refreshed (reread : InstanceRecord) (details : String) :
    Told (.provider (.refresh original.serviceId reread)
      (.ok { reread with otherDetails := details }))
  | saved (record : InstanceRecord) : Told (.store (.saveInstance record) (.ok ()))

/-- An exchange after which the operation is over. -/
def concludes : Exchange Action.Reply → Bool
  | ⟨.store (.deleteInstance _), _⟩ | ⟨.store (.saveInstance _), _⟩ => true
  | _ => false

/-- The poll asks what polls ask as long as it is told what polls are told, and then reports
success, which it does only when the operation is over. -/
def Finishing : (ended : Bool) → Call LastOperation → Prop
  | ended, .done result => ended = true ∧ result = .ok ⟨.succeeded, none⟩
  | ended, .ask question next => Asks i original kind question ∧
      ∀ reply, Told i original kind ⟨question, reply⟩ →
        Finishing (ended || concludes ⟨question, reply⟩) (next reply)

end Poll

variable {i : String} {original : InstanceRecord} {kind : OperationKind}

theorem Polled.over_of_idle {record : InstanceRecord} (h : Polled original kind (some record))
    (hpending : original.operation ≠ none) (hidle : record.operation = none) :
    Over original kind (some record) := by
  rcases h with hsame | hover
  · cases hsame
    exact absurd hidle hpending
  · exact hover

/-- What polls leave of a record as it was. -/
theorem Polled.kept {record : InstanceRecord} (h : Polled original kind (some record)) :
    ∃ details operation updated, record =
      { original with otherDetails := details, operation, updatedAt := updated } := by
  rcases h with hsame | hover
  · cases hsame
    exact ⟨_, _, _, rfl⟩
  · cases hover with
    | settled hkind details updated => exact ⟨_, _, _, rfl⟩

theorem Polled.present {found : Option InstanceRecord} (h : Polled original kind found)
    (hkind : kind ≠ .deprovision) : ∃ record, found = some record := by
  rcases h with rfl | hover
  · exact ⟨_, rfl⟩
  · cases hover with
    | removed hremoved => exact absurd hremoved hkind
    | settled => exact ⟨_, rfl⟩

theorem Polled.gone {found : Option InstanceRecord} (h : Polled original kind found)
    (hgone : found = none) : Over original kind found := by
  rcases h with rfl | hover
  · cases hgone
  · exact hover

/-! ### One exchange -/

/-- What an exchange of a poll makes of the record: it stays one that polls alone have had to do
with, it is over if it was, and it is gone if it was or the exchange has deleted it. -/
structure Bears (i : String) (original : InstanceRecord) (kind : OperationKind) (w : World)
    (x : Exchange Action.Reply) (w' : World) : Prop where
  polled : Polled original kind (w'.store.instances.get? i)
  ended : Over original kind (w.store.instances.get? i) →
    Over original kind (w'.store.instances.get? i)
  gone_iff : w'.store.instances.get? i = none ↔
    w.store.instances.get? i = none ∨ x = .store (.deleteInstance i) (.ok ())

theorem bears_of_same {w w' : World} {x : Exchange Action.Reply}
    (hpolled : Polled original kind (w.store.instances.get? i)) (hsame : w'.store = w.store)
    (hx : x ≠ .store (.deleteInstance i) (.ok ())) : Bears i original kind w x w' := by
  refine ⟨?_, ?_, ?_⟩ <;> rw [hsame]
  · exact hpolled
  · exact id
  · exact (or_iff_left hx).symm

section Exchange

variable {setting : Setting} {w w' : World} {question : Action} {reply : question.Reply}

/-- A poll is told what polls are told, and when that concludes its operation it is over. -/
theorem Asks.advances (h : Asks i original kind question) (hhealthy : ∀ e, ¬ setting.storeFails e)
    (hdone : setting.FindsDone original.serviceId) (hid : original.id = i)
    (hpolled : Polled original kind (w.store.instances.get? i))
    (hallows : setting.Allows w ⟨question, reply⟩ w') :
    Told i original kind ⟨question, reply⟩ ∧ Bears i original kind w ⟨question, reply⟩ w' ∧
      (concludes ⟨question, reply⟩ = true → Over original kind (w'.store.instances.get? i)) := by
  cases h with
  | poll read =>
    obtain ⟨hreply, rfl⟩ := Setting.allows_provider_iff.1 hallows
    obtain rfl := hdone.done read reply hreply
    exact ⟨.done read, bears_of_same hpolled rfl nofun, nofun⟩
  | delete hkind =>
    cases reply with
    | ok deleted =>
      have hgone := hallows.answers.instance_of_deleteInstance
      have hover : Over original kind (w'.store.instances.get? i) := hgone ▸ .removed hkind
      exact ⟨.deleted, ⟨.inr hover, fun _ ↦ hover, iff_of_true hgone (.inr rfl)⟩, fun _ ↦ hover⟩
    | error e =>
      obtain ⟨habsent, rfl⟩ :=
        hallows.answers.deleteInstance_refused.resolve_left (hhealthy e)
      have hsame := hallows.answers.of_error
      refine ⟨.gone, bears_of_same hpolled hsame nofun, fun _ ↦ ?_⟩
      rw [hsame]
      exact hpolled.gone habsent
  | reread hkind =>
    have hsame := hallows.answers.of_read rfl
    cases reply with
    | ok record =>
      rw [hallows.answers.getInstance_ok] at hpolled
      refine ⟨.reread hpolled, bears_of_same ?_ hsame nofun, nofun⟩
      rw [hallows.answers.getInstance_ok]
      exact hpolled
    | error e =>
      obtain ⟨habsent, -⟩ := hallows.answers.getInstance_error.resolve_left (hhealthy e)
      obtain ⟨record, hpresent⟩ := hpolled.present hkind
      cases habsent.symm.trans hpresent
  | @refresh reread hkind hreread =>
    obtain ⟨hreply, rfl⟩ := Setting.allows_provider_iff.1 hallows
    obtain ⟨details, rfl⟩ := hdone.keeps reread reply hreply
    exact ⟨.refreshed reread details, bears_of_same hpolled rfl nofun, nofun⟩
  | @save reread hkind hreread details =>
    subst hid
    obtain ⟨found, hfound⟩ := hpolled.present hkind
    obtain ⟨rereadDetails, operation, updated, rfl⟩ := hreread.kept
    cases reply with
    | ok saved =>
      obtain ⟨existing, hexisting, now, hstore⟩ := hallows.answers.saveInstance_ok
      rw [hexisting] at hpolled
      obtain ⟨existingDetails, operation, updated, rfl⟩ := hpolled.kept
      have hsettled : w'.store.instances.get? original.id = some { original with
          otherDetails := details, operation := none, updatedAt := now } := by
        rw [hstore]
        exact (Table.get?_put ..).trans (if_pos rfl)
      have hover : Over original kind (w'.store.instances.get? original.id) :=
        hsettled ▸ .settled hkind details now
      refine ⟨.saved _, ⟨.inr hover, fun _ ↦ hover, iff_of_false ?_ ?_⟩, fun _ ↦ hover⟩
      · rw [hsettled]
        exact nofun
      · rintro (hgone | hdelete)
        · cases hexisting.symm.trans hgone
        · cases hdelete
    | error e =>
      exact absurd (hallows.answers.saveInstance_error hfound) (hhealthy e)

/-- There is something to tell a poll, whatever it asks. -/
theorem Asks.answered (h : Asks i original kind question)
    (hdone : setting.FindsDone original.serviceId) (w : World) :
    ∃ reply w', setting.Allows w ⟨question, reply⟩ w' := by
  cases h with
  | poll read =>
    obtain ⟨reply, hreply⟩ := hdone.polled read
    exact ⟨reply, w, .provider hreply⟩
  | refresh =>
    obtain ⟨reply, hreply⟩ := hdone.refreshed _
    exact ⟨reply, w, .provider hreply⟩
  | delete | reread | save => exact ⟨_, _, .store (.inl ⟨"", rfl⟩)⟩

end Exchange

/-! ### One poll -/

theorem finishing_pollPending (service : RegisteredService)
    (hservice : service.definition.id = original.serviceId) (read : InstanceRecord)
    (operation : PendingOperation) :
    Finishing i original operation.kind false (pollPending service i read operation) := by
  unfold pollPending
  generalize service.definition.id = serviceId at hservice
  subst hservice
  simp only [Call.provider_eq_ask, Program.ask_bind, Program.ok_bind]
  refine ⟨.poll read, fun reply hpolled ↦ ?_⟩
  cases hpolled
  simp only [complete]
  cases hcompletion : operation.kind.completion with
  | deleteRecord =>
    simp only [deleteCompleted, Call.store_eq_ask, Program.ask_bind, Program.ok_bind]
    refine ⟨.delete (deprovision_of_deleteRecord hcompletion), fun reply hdeleted ↦ ?_⟩
    cases hdeleted <;> exact ⟨rfl, rfl⟩
  | refreshDetails =>
    have hkind := not_deprovision_of_refreshDetails hcompletion
    simp only [refreshCompleted, Call.store_eq_ask, Call.provider_eq_ask, Program.ask_bind,
      Program.ok_bind]
    refine ⟨.reread hkind, fun reply hread ↦ ?_⟩
    cases hread with
    | reread hreread =>
      refine ⟨.refresh hkind hreread, fun reply hrefreshed ↦ ?_⟩
      cases hrefreshed with
      | refreshed _ details =>
        refine ⟨.save hkind hreread details, fun reply hsaved ↦ ?_⟩
        cases hsaved
        exact ⟨rfl, rfl⟩

/-- A poll that has read the record. -/
def pollRead (broker : Broker) (i : String) (record : InstanceRecord) : Call LastOperation := do
  let service ← Program.ofExcept (broker.registry.resolve record.serviceId)
  Program.refuseIf (!service.isAsync) .asyncRequired
  match record.operation with
  | none => return ⟨.succeeded, none⟩
  | some operation => pollPending service i record operation

/-- A poll begins by reading the record. -/
theorem lastOperation_eq_ask (broker : Broker) (details : PollDetails) :
    ∃ next : Except Store.Error InstanceRecord → Call LastOperation,
      broker.lastOperation i details = .ask (.store (.getInstance i)) next ∧
      next (.error (.instanceNotFound i)) = .done (.error (.instanceNotFound i)) ∧
      ∀ record, next (.ok record) = broker.pollRead i record :=
  ⟨_, rfl, rfl, fun _ ↦ rfl⟩

theorem finishing_pollRead {broker : Broker} {service : RegisteredService}
    (hservice : broker.registry.resolve original.serviceId = .ok service)
    (hasync : service.isAsync = true) {operation : PendingOperation}
    (hpending : original.operation = some operation) {record : InstanceRecord}
    (hrecord : Polled original operation.kind (some record)) :
    ∃ ended, Finishing i original operation.kind ended (broker.pollRead i record) ∧
      (ended = true → Over original operation.kind (some record)) := by
  have hsame : record.serviceId = original.serviceId := by
    obtain ⟨-, -, -, rfl⟩ := hrecord.kept
    rfl
  unfold pollRead
  simp only [hsame, hservice, Program.ofExcept, Program.ok_bind, Program.refuseIf, hasync,
    Bool.not_true, Bool.false_eq_true, if_false]
  cases hoperation : record.operation with
  | none =>
    have hover := hrecord.over_of_idle (hpending ▸ Option.some_ne_none _) hoperation
    exact ⟨true, ⟨rfl, rfl⟩, fun _ ↦ hover⟩
  | some pending =>
    rcases hrecord with hfound | hover
    · cases hfound
      cases hoperation.symm.trans hpending
      exact ⟨false, finishing_pollPending service (serviceId_of_resolve hservice) _ _, nofun⟩
    · cases hover with
      | settled => cases hoperation

/-! ### Polls beside each other -/

section Moves

variable {ι : Type} {moves : List (Move ι)} {move : Move ι} {k : ι}

/-- Polls of one instance. -/
def polls (i : String) (details : ι → PollDetails) : ι → Request :=
  fun k ↦ .lastOperation i (details k)

/-- A move has deleted the record of the instance. -/
def Deleted (i : String) (moves : List (Move ι)) : Prop :=
  ∃ move ∈ moves, move.exchange = .store (.deleteInstance i) (.ok ())

/-- The call began when the record of the instance had been deleted. -/
def BeginsDeleted (i : String) (moves : List (Move ι)) (k : ι) : Prop :=
  ∃ early first late, moves = early ++ first :: late ∧ first.call = k ∧ first.asked = [] ∧
    Deleted i early

theorem deleted_concat_iff : Deleted i (moves ++ [move]) ↔
    Deleted i moves ∨ move.exchange = .store (.deleteInstance i) (.ok ()) := by
  simp [Deleted, or_and_right, exists_or]

theorem beginsDeleted_concat_iff : BeginsDeleted i (moves ++ [move]) k ↔
    BeginsDeleted i moves k ∨ move.call = k ∧ move.asked = [] ∧ Deleted i moves := by
  constructor
  · rintro ⟨early, first, late, hmoves, hcall, hasked, hdeleted⟩
    rcases List.eq_nil_or_concat late with rfl | ⟨late, last, rfl⟩
    · obtain ⟨rfl, hfirst⟩ := List.append_inj' hmoves rfl
      obtain rfl := List.singleton_inj.1 hfirst
      exact .inr ⟨hcall, hasked, hdeleted⟩
    · rw [List.concat_eq_append, ← List.cons_append, ← List.append_assoc] at hmoves
      obtain ⟨rfl, -⟩ := List.append_inj' hmoves rfl
      exact .inl ⟨early, first, late, rfl, hcall, hasked, hdeleted⟩
  · rintro (⟨early, first, late, rfl, hfirst⟩ | ⟨hcall, hasked, hdeleted⟩)
    · exact ⟨early, first, late ++ [move], by simp, hfirst⟩
    · exact ⟨moves, move, [], rfl, hcall, hasked, hdeleted⟩

end Moves

/-- How far a poll has come among polls: it has not begun, is finishing the operation, or found no
record because others had deleted it. -/
inductive Stage (broker : Broker) (i : String) (details : PollDetails) (original : InstanceRecord)
    (kind : OperationKind) (found : Option InstanceRecord) (late : Prop) :
    Progress (.lastOperation i details) → Prop
  | unread (hlate : ¬ late) : Stage broker i details original kind found late
    ⟨[], broker.lastOperation i details⟩
  | finishing {asked : Dialogue} {rest : Call LastOperation} {ended : Bool} (hasked : asked ≠ [])
    (hlate : ¬ late) (hrest : Finishing i original kind ended rest)
    (hover : ended = true → Over original kind found) :
    Stage broker i details original kind found late ⟨asked, rest⟩
  | missed {asked : Dialogue} (hasked : asked ≠ []) (hlate : late)
    (hover : Over original kind found) :
    Stage broker i details original kind found late
      ⟨asked, .done (.error (.instanceNotFound i))⟩

section Race

variable {ι : Type} [DecidableEq ι] {broker : Broker} {setting : Setting}
  {details : ι → PollDetails} {moves : List (Move ι)} {move : Move ι}
  {pool pool' : Pool (polls i details)}

/-- What is known of a pool of polls: polls alone have had to do with the record, which is gone when
a move has deleted it, and each of them is at some stage. -/
structure Polling (broker : Broker) (i : String) (original : InstanceRecord) (kind : OperationKind)
    (moves : List (Move ι)) (pool : Pool (polls i details)) : Prop where
  polled : Polled original kind (pool.world.store.instances.get? i)
  gone_iff : pool.world.store.instances.get? i = none ↔ Deleted i moves
  stage : ∀ k, Stage broker i (details k) original kind (pool.world.store.instances.get? i)
    (BeginsDeleted i moves k) (pool.calls k)

theorem Stage.mono {details : PollDetails} {found found' : Option InstanceRecord}
    {late late' : Prop} {progress : Progress (.lastOperation i details)}
    (h : Stage broker i details original kind found late progress) (hlate : late' ↔ late)
    (hover : Over original kind found → Over original kind found') :
    Stage broker i details original kind found' late' progress := by
  cases h with
  | unread hnot => exact .unread fun h ↦ hnot (hlate.1 h)
  | finishing hasked hnot hrest hfinished =>
    exact .finishing hasked (fun h ↦ hnot (hlate.1 h)) hrest fun h ↦ hover (hfinished h)
  | missed hasked hlost hgone => exact .missed hasked (hlate.2 hlost) (hover hgone)

/-- A poll that has returned has reported success, or come too late; the operation is over. -/
theorem Stage.of_result {details : PollDetails} {found : Option InstanceRecord} {late : Prop}
    {progress : Progress (.lastOperation i details)} {result : Except BrokerError LastOperation}
    (h : Stage broker i details original kind found late progress)
    (hresult : progress.result? = some result) :
    (late → result = .error (.instanceNotFound i)) ∧
      (¬ late → result = .ok ⟨.succeeded, none⟩) ∧ Over original kind found := by
  have hrest := Progress.rest_of_result hresult
  cases h with
  | unread =>
    obtain ⟨next, hask, -⟩ := lastOperation_eq_ask (i := i) broker details
    cases hask.symm.trans hrest
  | finishing hasked hlate hfinishing hover =>
    cases hrest
    exact ⟨fun h ↦ absurd h hlate, fun _ ↦ hfinishing.2, hover hfinishing.1⟩
  | missed hasked hlate hover =>
    cases hrest
    exact ⟨fun _ ↦ rfl, fun h ↦ absurd hlate h, hover⟩

/-- A poll that has not returned is told something when it goes on. -/
theorem Stage.answered {details : PollDetails} {found : Option InstanceRecord} {late : Prop}
    {progress : Progress (.lastOperation i details)} {question : Action}
    {next : question.Reply → Call LastOperation}
    (h : Stage broker i details original kind found late progress)
    (hdone : setting.FindsDone original.serviceId) (hrest : progress.rest = .ask question next)
    (w : World) : ∃ reply w', setting.Allows w ⟨question, reply⟩ w' := by
  cases h with
  | unread =>
    obtain ⟨first, hask, -⟩ := lastOperation_eq_ask (i := i) broker details
    cases hask.symm.trans hrest
    exact ⟨_, _, .store (.inl ⟨"", rfl⟩)⟩
  | finishing hasked hlate hfinishing hover =>
    cases hrest
    exact hfinishing.1.answered hdone w
  | missed => cases hrest

theorem PollCourse.length_le {exchanges : Dialogue} {result : Except BrokerError LastOperation}
    (h : PollCourse broker i exchanges result) : exchanges.length ≤ 5 := by
  cases h <;> simp

/-- A poll asks at most five times. -/
theorem length_asked_le {w : World}
    (hrun : Steps (Pool.Step setting) (Pool.start broker (polls i details) w) moves pool) (k : ι) :
    (pool.calls k).asked.length ≤ 5 := by
  have hreaches := Pool.consistent_of_steps hrun (Pool.consistent_start broker w) k
  obtain ⟨later, result, hlater⟩ := (pool.calls k).rest.exists_ends
  have hcourse : PollCourse broker i ((pool.calls k).asked ++ later) result :=
    PollCourse.of_ends (details k) (hreaches.trans hlater)
  have hlength := hcourse.length_le
  rw [List.length_append] at hlength
  exact Nat.le_of_add_right_le hlength

variable {service : RegisteredService} {operation : PendingOperation} {w : World}
  (hhealthy : ∀ e, ¬ setting.storeFails e) (hdone : setting.FindsDone original.serviceId)
  (hservice : broker.registry.resolve original.serviceId = .ok service)
  (hasync : service.isAsync = true) (hpending : original.operation = some operation)
  (hid : original.id = i)

include hhealthy hdone hservice hasync hpending hid

/-- The next exchange of a poll takes it to its next stage. -/
theorem Stage.next {details : PollDetails} {late : Prop}
    {progress : Progress (.lastOperation i details)} {w' : World} {question : Action}
    {next : question.Reply → Call LastOperation} {reply : question.Reply}
    (h : Stage broker i details original operation.kind (w.store.instances.get? i) late progress)
    (hpolled : Polled original operation.kind (w.store.instances.get? i))
    (hrest : progress.rest = .ask question next)
    (hallows : setting.Allows w ⟨question, reply⟩ w') :
    Bears i original operation.kind w ⟨question, reply⟩ w' ∧
      Stage broker i details original operation.kind (w'.store.instances.get? i)
        (late ∨ progress.asked = [] ∧ w.store.instances.get? i = none)
        ⟨progress.asked ++ [⟨question, reply⟩], next reply⟩ := by
  cases h with
  | unread hlate =>
    obtain ⟨first, hfirst, hmissed, hread⟩ := lastOperation_eq_ask (i := i) broker details
    rw [hfirst] at hrest
    cases hrest
    have hsame := hallows.answers.of_read rfl
    refine ⟨bears_of_same hpolled hsame nofun, ?_⟩
    rw [hsame]
    cases reply with
    | error e =>
      obtain ⟨habsent, rfl⟩ := hallows.answers.getInstance_error.resolve_left (hhealthy e)
      rw [hmissed]
      exact .missed (List.cons_ne_nil _ _) (.inr ⟨rfl, habsent⟩) (hpolled.gone habsent)
    | ok record =>
      have hfound := hallows.answers.getInstance_ok
      rw [hfound] at hpolled ⊢
      obtain ⟨ended, hfinishing, hover⟩ := finishing_pollRead hservice hasync hpending hpolled
      rw [hread]
      refine .finishing (List.cons_ne_nil _ _) ?_ hfinishing hover
      rintro (hlost | ⟨-, habsent⟩)
      · exact hlate hlost
      · cases habsent
  | @finishing asked rest ended hasked hlate hfinishing hover =>
    cases hrest
    obtain ⟨hasks, hnext⟩ := hfinishing
    obtain ⟨htold, hbears, hconcluded⟩ := hasks.advances hhealthy hdone hid hpolled hallows
    refine ⟨hbears, .finishing (by simp) ?_ (hnext reply htold) fun h ↦ ?_⟩
    · rintro (hlost | ⟨hnil, -⟩)
      · exact hlate hlost
      · exact hasked hnil
    · rcases Bool.or_eq_true_iff.1 h with hbefore | hnow
      · exact hbears.ended (hover hbefore)
      · exact hconcluded hnow
  | missed => cases hrest

/-- A move takes its poll to its next stage and leaves the others where they are. -/
theorem Polling.step (h : Polling broker i original operation.kind moves pool)
    (hstep : Pool.Step setting pool move pool') :
    Polling broker i original operation.kind (moves ++ [move]) pool' := by
  cases hstep with
  | @ask k question next reply w hrest hallows =>
    obtain ⟨hbears, hstage⟩ := (h.stage k).next hhealthy hdone hservice hasync hpending hid
      h.polled hrest hallows
    refine ⟨hbears.polled, ?_, fun j ↦ ?_⟩
    · rw [deleted_concat_iff, ← h.gone_iff]
      exact hbears.gone_iff
    · by_cases hj : j = k
      · subst hj
        have hcall : (pool.answered j question next reply w).calls j =
            ⟨(pool.calls j).asked ++ [⟨question, reply⟩], next reply⟩ := Function.update_self ..
        rw [hcall]
        refine hstage.mono (beginsDeleted_concat_iff.trans ?_) id
        rw [h.gone_iff]
        simp
      · have hcall : (pool.answered k question next reply w).calls j = pool.calls j :=
          Function.update_of_ne hj ..
        rw [hcall]
        refine (h.stage j).mono (beginsDeleted_concat_iff.trans (or_iff_left ?_)) hbears.ended
        rintro ⟨hk, -⟩
        exact hj hk.symm

theorem polling_of_steps (hfound : w.store.instances.get? i = some original)
    (hrun : Steps (Pool.Step setting) (Pool.start broker (polls i details) w) moves pool) :
    Polling broker i original operation.kind moves pool := by
  induction moves using List.reverseRecOn generalizing pool with
  | nil =>
    obtain rfl := Steps.nil_iff.1 hrun
    refine ⟨.inl hfound, iff_of_false ?_ (by simp [Deleted]), fun k ↦ .unread ?_⟩
    · show w.store.instances.get? i ≠ none
      rw [hfound]
      exact nofun
    · rintro ⟨early, first, late, hnil, -⟩
      simp at hnil
  | append_singleton moves move ih =>
    obtain ⟨before, hbefore, hstep⟩ := Steps.concat_iff.1 hrun
    exact (ih hbefore).step hhealthy hdone hservice hasync hpending hid hstep

/-- Polls of one operation do not disturb each other. A poll that returns reports success, unless
it began when another had already deleted the record, and then it finds no instance. A poll that has
not returned can go on, and none asks more than five times. As soon as one has returned, the record
is gone if the instance was being deprovisioned; otherwise it has nothing pending, and but for its
details and the time of the write it is as it was. Assumes: the store does not fail, the service is
one that works in the background, and its provider finds every operation done and refreshes nothing
but the details. There may be any number of polls, and they may move in any order. -/
theorem concurrent_polls_succeed (hfound : w.store.instances.get? i = some original)
    (hrun : Steps (Pool.Step setting) (Pool.start broker (polls i details) w) moves pool) :
    (∀ k (result : Except BrokerError LastOperation), (pool.calls k).result? = some result →
      (BeginsDeleted i moves k → result = .error (.instanceNotFound i)) ∧
        (¬ BeginsDeleted i moves k → result = .ok ⟨.succeeded, none⟩)) ∧
    (∀ k, (pool.calls k).result? = none →
      ∃ move pool', move.call = k ∧ Pool.Step setting pool move pool') ∧
    (∀ k, (pool.calls k).asked.length ≤ 5) ∧
    ((∃ k result, (pool.calls k).result? = some result) →
      (operation.kind = .deprovision → pool.world.store.instances.get? i = none) ∧
        (operation.kind ≠ .deprovision → ∃ otherDetails updatedAt,
          pool.world.store.instances.get? i =
            some { original with otherDetails, operation := none, updatedAt })) := by
  have hpolling := polling_of_steps hhealthy hdone hservice hasync hpending hid hfound hrun
  refine ⟨fun k result hresult ↦ ?_, fun k hunreturned ↦ ?_, length_asked_le hrun, ?_⟩
  · obtain ⟨hlate, hearly, -⟩ := (hpolling.stage k).of_result hresult
    exact ⟨hlate, hearly⟩
  · obtain ⟨question, next, hrest⟩ := Progress.rest_of_unreturned hunreturned
    obtain ⟨reply, w', hallows⟩ := (hpolling.stage k).answered hdone hrest pool.world
    exact ⟨_, _, rfl, .ask hrest hallows⟩
  · rintro ⟨k, result, hresult⟩
    obtain ⟨-, -, hover⟩ := (hpolling.stage k).of_result hresult
    generalize pool.world.store.instances.get? i = found at hover
    cases hover with
    | removed hkind => exact ⟨fun _ ↦ rfl, fun hother ↦ absurd hkind hother⟩
    | settled hkind => exact ⟨fun hother ↦ absurd hother hkind, fun _ ↦ ⟨_, _, rfl⟩⟩

end Race

/-- Three polls of an instance that is being deprovisioned. Two read the record before either
deletes it, and the third comes after it was deleted. -/
def threePolls : List (Move (Fin 3)) × Pool (polls "i-1" fun _ : Fin 3 ↦ {}) :=
  Pool.play "now" databaseProvider [0, 1, 0, 1, 0, 2, 1]
    (Pool.start (databaseBroker false) _ databaseCondemned.2)

theorem findsDone_database (serviceId : String) :
    (Setting.faithful databaseProvider).FindsDone serviceId where
  polled _ := ⟨_, rfl⟩
  done _ _ hreply := hreply.symm
  refreshed _ := ⟨_, rfl⟩
  keeps record _ hreply := ⟨record.otherDetails, hreply.symm⟩

theorem three_polls_succeed :
    databaseCondemned.2.store.instances.get? "i-1" = some condemnedDatabase ∧
      ¬ BeginsDeleted "i-1" threePolls.1 1 ∧ BeginsDeleted "i-1" threePolls.1 2 ∧
      (threePolls.2.calls 1).result? = some (.ok ⟨.succeeded, none⟩) ∧
      (threePolls.2.calls 2).result? = some (.error (.instanceNotFound "i-1")) ∧
      threePolls.2.world.store.instances.get? "i-1" = none := by
  have hbegins : BeginsDeleted "i-1" threePolls.1 2 :=
    ⟨threePolls.1.take 5, _, _, rfl, rfl, rfl, _, List.getElem_mem (n := 4) (by decide +kernel),
      rfl⟩
  have hsecond : (threePolls.2.calls 1).result? = some (.ok ⟨.succeeded, none⟩) := rfl
  obtain ⟨third, hthird⟩ : ∃ third : Except BrokerError LastOperation,
      (threePolls.2.calls 2).result? = some third := ⟨_, rfl⟩
  have hservice : (databaseBroker false).registry.resolve condemnedDatabase.serviceId =
      .ok databaseService := rfl
  obtain ⟨hreturns, -, -, hend⟩ := concurrent_polls_succeed (fun _ hfails ↦ hfails)
    (findsDone_database condemnedDatabase.serviceId) hservice rfl rfl rfl rfl
    (Pool.steps_of_play "now" databaseProvider [0, 1, 0, 1, 0, 2, 1]
      (Pool.start (databaseBroker false) (polls "i-1" fun _ : Fin 3 ↦ {}) databaseCondemned.2))
  have hearly : ¬ BeginsDeleted "i-1" threePolls.1 1 := by
    intro hlate
    cases (hreturns 1 _ hsecond).1 hlate
  have hlost : third = .error (.instanceNotFound "i-1") := (hreturns 2 third hthird).1 hbegins
  exact ⟨rfl, hearly, hbegins, hsecond, hlost ▸ hthird, (hend ⟨1, _, hsecond⟩).1 rfl⟩

end Broker

end Brokerage
