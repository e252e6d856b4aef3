import Brokerage.Proofs.LifeCycle
import Brokerage.Proofs.Refusal

/-!
Polling a pending operation. A poll that does not report success has changed nothing, whichever of
its four exchanges went wrong, so the poll may be made again: the first one that finds the operation
done, and whose exchanges all succeed, finishes it. After that there is nothing left to finish, and
a poll only reads.
-/

set_option autoImplicit false

namespace Brokerage

/-- A store says that a record is not there only if it is not; it may fail in other ways. -/
def Setting.MissesOnlyAbsent (setting : Setting) : Prop :=
  ∀ e, setting.storeFails e → e.isNotFound = false

/-- A question that was not answered but refused. -/
def Exchange.isRefused : Exchange Action.Reply → Bool
  | ⟨.store _, .error _⟩ | ⟨.vault _, .error _⟩ | ⟨.provider _, .error _⟩ => true
  | _ => false

theorem Exchange.writes_of_isReading {x : Exchange Action.Reply} (h : x.isReading = true) :
    x.writes = false := by
  obtain ⟨question, reply⟩ := x
  cases question with
  | store q =>
    cases reply with
    | error e => rfl
    | ok answer => exact (Bool.not_eq_true' _).mp h
  | vault q | provider q => cases h

/-- There is no operation that could be polled: the instance is absent or idle. -/
def Store.NothingPending (s : Store) (i : String) : Prop :=
  ∀ record, s.instances.get? i = some record → record.operation = none

namespace Broker

/-- The provider has done what the call is made for, and nothing that was asked has been refused. -/
def Served.Completes (call : Served) : Prop :=
  call.Acted ∧ ∀ x ∈ call.exchanges, x.isRefused = false

theorem Served.not_completes_of_refused {call : Served} {x : Exchange Action.Reply}
    (hx : x ∈ call.exchanges) (hrefused : x.isRefused = true) : ¬ call.Completes := by
  rintro ⟨-, hnone⟩
  rw [hnone x hx] at hrefused
  cases hrefused

theorem Served.not_completes_of_undone {call : Served}
    (hnone : ∀ x ∈ call.exchanges, x.did? ≠ some call.request.action) : ¬ call.Completes := by
  rintro ⟨⟨x, hx, hdid⟩, -⟩
  exact hnone x hx hdid

/-- What the call that finishes an operation makes of the records. An instance that was being
deprovisioned is gone. Any other has the details that the provider gave when it was asked to refresh
the record, has nothing pending and carries the time of the write; the rest of its record is as it
was, and so are all other records. -/
structure Served.Finishes (call : Served) (i : String) (record : InstanceRecord)
    (kind : OperationKind) (s t : Store) : Prop where
  removed : kind = .deprovision → t.instances.get? i = none
  refreshed : kind ≠ .deprovision → ∃ details now,
    .provider (.refresh record.serviceId record) (.ok { record with otherDetails := details })
        ∈ call.exchanges ∧
      t.instances.get? i =
        some { record with otherDetails := details, operation := none, updatedAt := now }
  others : ∀ j, j ≠ i → t.instances.get? j = s.instances.get? j
  bindings : t.bindings = s.bindings
  requests : t.requests = s.requests

theorem Served.Finishes.nothingPending {call : Served} {i : String} {record : InstanceRecord}
    {kind : OperationKind} {s t : Store} (h : call.Finishes i record kind s t) :
    t.NothingPending i := by
  intro found hfound
  by_cases hkind : kind = .deprovision
  · cases (h.removed hkind).symm.trans hfound
  · obtain ⟨details, now, -, hsettled⟩ := h.refreshed hkind
    cases hsettled.symm.trans hfound
    rfl

section Poll

variable {broker : Broker} {setting : Setting} {w w' : World} {i : String} {exchanges : Dialogue}
  {result : Except BrokerError LastOperation}

/-- A poll of a pending operation either leaves the records as they were and does not report
success, or is answered throughout, finishes the operation and reports success. -/
theorem PollCourse.leaves_or_finishes (h : PollCourse broker i exchanges result)
    (details : PollDetails) (hmisses : setting.MissesOnlyAbsent)
    (hrefresh : setting.RefreshOnlyDetails) (hw : w.store.Keyed) {record : InstanceRecord}
    {operation : PendingOperation} (hfound : w.store.instances.get? i = some record)
    (hpending : record.operation = some operation) (hsteps : Steps setting.Allows w exchanges w') :
    let call : Served := ⟨.lastOperation i details, exchanges, result⟩
    (call.state? ≠ some .succeeded ∧ ¬ call.Completes ∧ w'.store = w.store) ∨
      (call.state? = some .succeeded ∧ call.Completes ∧
        call.Finishes i record operation.kind w.store w'.store) := by
  intro call
  -- whatever is read first is the record that was found
  have hread {found : InstanceRecord} {rest : Dialogue}
      (hsteps : Steps setting.Allows w (.store (.getInstance i) (.ok found) :: rest) w') :
      found = record :=
    Option.some.inj ((Setting.steps_getInstance_iff.1 hsteps).1.symm.trans hfound)
  cases h with
  | unread | refused =>
    refine .inl ⟨nofun, ?_, Setting.store_eq_of_steps hsteps rfl⟩
    exact Served.not_completes_of_undone (Exchange.ne_some_of_all rfl)
  | idle hadmits hidle =>
    obtain rfl := hread hsteps
    cases hidle.symm.trans hpending
  | unanswered hadmits _ e =>
    refine .inl ⟨?_, ?_, Setting.store_eq_of_steps hsteps rfl⟩
    · exact fun hstate ↦ unanswered_ne_succeeded e (Option.some.inj hstate)
    · exact Served.not_completes_of_refused (.tail _ (.head _)) rfl
  | unfinished =>
    refine .inl ⟨nofun, ?_, Setting.store_eq_of_steps hsteps rfl⟩
    exact Served.not_completes_of_undone (Exchange.ne_some_of_all rfl)
  | unremoved =>
    refine .inl ⟨nofun, ?_, Setting.store_eq_of_steps hsteps rfl⟩
    exact Served.not_completes_of_refused (.tail _ (.tail _ (.head _))) rfl
  | unreread =>
    refine .inl ⟨nofun, ?_, Setting.store_eq_of_steps hsteps rfl⟩
    exact Served.not_completes_of_refused (.tail _ (.tail _ (.head _))) rfl
  | unrefreshed =>
    refine .inl ⟨nofun, ?_, Setting.store_eq_of_steps hsteps rfl⟩
    exact Served.not_completes_of_refused (.tail _ (.tail _ (.tail _ (.head _)))) rfl
  | unsettled =>
    refine .inl ⟨nofun, ?_, Setting.store_eq_of_steps hsteps rfl⟩
    exact Served.not_completes_of_refused (.tail _ (.tail _ (.tail _ (.tail _ (.head _))))) rfl
  | @removed found service _ hadmits hfoundPending hcompletion reply hreply =>
    obtain rfl := hread hsteps
    obtain rfl := Option.some.inj (hfoundPending.symm.trans hpending)
    have hkind := deprovision_of_deleteRecord hcompletion
    rw [Setting.steps_getInstance_iff, Setting.steps_provider_iff, Steps.singleton_iff] at hsteps
    obtain ⟨-, -, hdelete⟩ := hsteps
    rcases hreply with rfl | ⟨e, hlost, rfl⟩
    · obtain ⟨-, hstore⟩ := hdelete.answers.deleteInstance_ok
      refine .inr ⟨rfl, ⟨⟨_, .tail _ (.head _), rfl⟩, ?_⟩, ?_⟩
      · simp [call, Exchange.isRefused]
      · rw [hstore]
        refine ⟨fun _ ↦ ?_, fun hne ↦ absurd hkind hne, fun j hj ↦ ?_, rfl, rfl⟩
        · exact (Table.get?_remove ..).trans (if_pos rfl)
        · exact (Table.get?_remove ..).trans (if_neg hj)
    · -- the record was there, so the store has no reason to miss it
      have hfails := hdelete.answers.deleteInstance_error hfound
      rw [hmisses e hfails] at hlost
      cases hlost
  | @settled found service _ hadmits hfoundPending hcompletion reread refreshed =>
    obtain rfl := hread hsteps
    obtain rfl := Option.some.inj (hfoundPending.symm.trans hpending)
    have hkind := not_deprovision_of_refreshDetails hcompletion
    have hservice := serviceId_of_resolve (admitPoll_ok hadmits).1
    rw [Setting.steps_getInstance_iff, Setting.steps_provider_iff, Setting.steps_getInstance_iff,
      Setting.steps_provider_iff, Steps.singleton_iff] at hsteps
    obtain ⟨-, -, hreread, hrefreshed, hsave⟩ := hsteps
    obtain rfl := Option.some.inj (hreread.symm.trans hfound)
    obtain ⟨otherDetails, rfl⟩ := hrefresh _ _ _ hrefreshed
    have hid : reread.id = i := hw.instances i reread hfound
    obtain ⟨existing, hexisting, now, hstore⟩ := hsave.answers.saveInstance_ok
    simp only [settledRecord, hid] at hexisting hstore
    obtain rfl := Option.some.inj (hexisting.symm.trans hfound)
    refine .inr ⟨rfl, ⟨⟨_, .tail _ (.head _), rfl⟩, ?_⟩, ?_⟩
    · simp [call, Exchange.isRefused]
    · rw [hstore]
      refine ⟨fun heq ↦ absurd heq hkind, fun _ ↦ ⟨otherDetails, now, ?_, ?_⟩, fun j hj ↦ ?_,
        rfl, rfl⟩
      · have hasked : .provider (.refresh service.definition.id existing)
            (.ok { existing with otherDetails }) ∈ call.exchanges :=
          .tail _ (.tail _ (.tail _ (.head _)))
        rw [hservice] at hasked
        exact hasked
      · exact ((Table.get?_put ..).trans (if_pos rfl)).trans (by rw [hid])
      · exact (Table.get?_put ..).trans (if_neg hj)

/-- With nothing pending a poll only reads. -/
theorem PollCourse.reads (h : PollCourse broker i exchanges result)
    (hnothing : w.store.NothingPending i) (hsteps : Steps setting.Allows w exchanges w') :
    ∀ x ∈ exchanges, x.isReading = true := by
  have hidle {record : InstanceRecord} {operation : PendingOperation} {rest : Dialogue}
      (hsteps : Steps setting.Allows w (.store (.getInstance i) (.ok record) :: rest) w') :
      record.operation ≠ some operation := by
    rw [hnothing record (Setting.steps_getInstance_iff.1 hsteps).1]
    exact nofun
  cases h with
  | unread | refused | idle => exact List.forall_mem_singleton.2 rfl
  | unanswered _ hpending | unfinished _ hpending | removed _ hpending | unremoved _ hpending
  | unreread _ hpending | unrefreshed _ hpending | unsettled _ hpending | settled _ hpending =>
    exact absurd hpending (hidle hsteps)

end Poll

/-! ### Sequences of polls -/

section Polls

variable {broker : Broker} {setting : Setting} {w w' : World} {i : String} {calls : List Served}

/-- The calls are polls of one instance. -/
def PollsOnly (i : String) (calls : List Served) : Prop :=
  ∀ call ∈ calls, ∃ details, call.request = .lastOperation i details

/-- A poll of a pending operation, as a call that was served. -/
theorem Serves.leaves_or_finishes {call : Served} (h : broker.Serves setting w call w')
    {details : PollDetails} (hpoll : call.request = .lastOperation i details)
    (hmisses : setting.MissesOnlyAbsent) (hrefresh : setting.RefreshOnlyDetails)
    (hw : w.store.Keyed) {record : InstanceRecord} {operation : PendingOperation}
    (hfound : w.store.instances.get? i = some record)
    (hpending : record.operation = some operation) :
    (call.state? ≠ some .succeeded ∧ ¬ call.Completes ∧ w'.store = w.store) ∨
      (call.state? = some .succeeded ∧ call.Completes ∧
        call.Finishes i record operation.kind w.store w'.store) := by
  obtain ⟨request, exchanges, result⟩ := call
  obtain rfl : request = .lastOperation i details := hpoll
  exact (PollCourse.of_ends details h.1).leaves_or_finishes details hmisses hrefresh hw hfound
    hpending h.2

theorem Serves.poll_reads {call : Served} (h : broker.Serves setting w call w')
    {details : PollDetails} (hpoll : call.request = .lastOperation i details)
    (hnothing : w.store.NothingPending i) : ∀ x ∈ call.exchanges, x.isReading = true := by
  obtain ⟨request, exchanges, result⟩ := call
  obtain rfl : request = .lastOperation i details := hpoll
  exact (PollCourse.of_ends details h.1).reads hnothing h.2

/-- Polls without success leave the records as they were. -/
theorem store_eq_of_unsuccessful (hmisses : setting.MissesOnlyAbsent)
    (hrefresh : setting.RefreshOnlyDetails) (hw : w.store.Keyed) {record : InstanceRecord}
    {operation : PendingOperation} (hfound : w.store.instances.get? i = some record)
    (hpending : record.operation = some operation) (hpolls : PollsOnly i calls)
    (hnever : ∀ call ∈ calls, call.state? ≠ some .succeeded)
    (hrun : Steps (broker.Serves setting) w calls w') : w'.store = w.store := by
  refine hrun.preserves (P := fun v ↦ v.store = w.store) ?_ rfl
  intro v call v' hcall hv hserves
  obtain ⟨details, hpoll⟩ := hpolls call hcall
  rw [← hv] at hw hfound
  rcases hserves.leaves_or_finishes hpoll hmisses hrefresh hw hfound hpending with
    ⟨-, -, hsame⟩ | ⟨hsucceeded, -⟩
  · exact hsame.trans hv
  · exact absurd hsucceeded (hnever call hcall)

/-- Polls of an instance with nothing pending only read, and leave the records as they were. -/
theorem reads_of_nothingPending (hnothing : w.store.NothingPending i) (hpolls : PollsOnly i calls)
    (hrun : Steps (broker.Serves setting) w calls w') :
    (∀ call ∈ calls, ∀ x ∈ call.exchanges, x.isReading = true) ∧ w'.store = w.store := by
  induction hrun with
  | nil w => exact ⟨fun _ hcall ↦ absurd hcall List.not_mem_nil, rfl⟩
  | @cons w v last call calls head tail ih =>
    obtain ⟨⟨details, hpoll⟩, hrest⟩ := List.forall_mem_cons.1 hpolls
    have hreads := head.poll_reads hpoll hnothing
    have hstays : v.store = w.store := by
      refine Setting.store_eq_of_steps head.2 (List.any_eq_false.2 fun x hx ↦ ?_)
      exact Bool.eq_false_iff.1 (Exchange.writes_of_isReading (hreads x hx))
    obtain ⟨hlater, hlast⟩ := ih (hstays ▸ hnothing) hrest
    exact ⟨List.forall_mem_cons.2 ⟨hreads, hlater⟩, hlast.trans hstays⟩

/-- Polling is harmless until it succeeds, and can always be resumed. While no poll of a pending
operation has reported success, the records are those from before the polls. The first to report
success is the first to find the operation done and have everything that it asks answered; it
finishes the operation, and the polls after it only read, so the records stay as it leaves them.
Assumes: a store that misses only what is absent, and providers whose refresh touches only their own
details; it may fail in any other way, and the answers to the polls are arbitrary. -/
theorem polls_until_finished (hmisses : setting.MissesOnlyAbsent)
    (hrefresh : setting.RefreshOnlyDetails) (hw : w.store.Keyed) {record : InstanceRecord}
    {operation : PendingOperation} (hfound : w.store.instances.get? i = some record)
    (hpending : record.operation = some operation) (hpolls : PollsOnly i calls)
    (hrun : Steps (broker.Serves setting) w calls w') :
    ((∀ call ∈ calls, call.state? ≠ some .succeeded) → w'.store = w.store) ∧
      ∀ before call after, calls = before ++ call :: after →
        (∀ earlier ∈ before, earlier.state? ≠ some .succeeded) →
        (call.state? = some .succeeded ↔ call.Completes) ∧
          (call.Completes → call.Finishes i record operation.kind w.store w'.store ∧
            ∀ later ∈ after, ∀ x ∈ later.exchanges, x.isReading = true) := by
  refine ⟨fun hnever ↦ store_eq_of_unsuccessful hmisses hrefresh hw hfound hpending hpolls hnever
    hrun, ?_⟩
  rintro before call after rfl hnever
  obtain ⟨hbefore, hcall⟩ := List.forall_mem_append.1 hpolls
  obtain ⟨⟨details, hpoll⟩, hafter⟩ := List.forall_mem_cons.1 hcall
  obtain ⟨v, hearlier, hrest⟩ := Steps.append_iff.1 hrun
  obtain ⟨v', hserves, hlater⟩ := Steps.cons_iff.1 hrest
  have hstore :=
    store_eq_of_unsuccessful hmisses hrefresh hw hfound hpending hbefore hnever hearlier
  rw [← hstore] at hw hfound ⊢
  rcases hserves.leaves_or_finishes hpoll hmisses hrefresh hw hfound hpending with
    ⟨hunsuccessful, hincomplete, -⟩ | ⟨hsucceeded, hcompletes, hfinishes⟩
  · exact ⟨iff_of_false hunsuccessful hincomplete, fun h ↦ absurd h hincomplete⟩
  · obtain ⟨hreads, hlast⟩ := reads_of_nothingPending hfinishes.nothingPending hafter hlater
    exact ⟨iff_of_true hsucceeded hcompletes, fun _ ↦ ⟨hlast ▸ hfinishes, hreads⟩⟩

/-- A world in which two databases are being provisioned. -/
def provisioningWorld : World :=
  ((databaseBroker false).history "then" databaseProvider
    [.provision "i-1" { serviceId := "db", planId := "small" } true,
     .provision "i-2" { serviceId := "db", planId := "small" } true] {}).2

/-- A provider of databases that tells the details of one when it is asked to refresh its record. -/
def detailingProvider : (q : Provider.Request) → q.Reply
  | .refresh _ record => .ok { record with otherDetails := "port 5432" }
  | q => databaseProvider q

/-- Three polls. At the first the store cannot save, and the third comes after the end. -/
def polledProvision : List Served × World :=
  (databaseBroker false).faultyHistory "now" detailingProvider
    [(.lastOperation "i-1" {}, [.saveInstance]),
     (.lastOperation "i-1" { operationData := some "op-0" }, []), (.lastOperation "i-1" {}, [])]
    provisioningWorld

theorem finished_of_polledProvision :
    ∃ record failed finishing later,
      provisioningWorld.store.instances.get? "i-1" = some record ∧
      record.operation = some ⟨"op-1", .provision⟩ ∧ provisioningWorld.store.Keyed ∧
      (Setting.faulty detailingProvider).MissesOnlyAbsent ∧
      (Setting.faulty detailingProvider).RefreshOnlyDetails ∧
      polledProvision.1 = [failed, finishing, later] ∧ PollsOnly "i-1" polledProvision.1 ∧
      Steps ((databaseBroker false).Serves (.faulty detailingProvider))
        provisioningWorld polledProvision.1 polledProvision.2 ∧
      failed.state? ≠ some .succeeded ∧ finishing.state? = some .succeeded ∧
      finishing.Finishes "i-1" record .provision provisioningWorld.store polledProvision.2.store ∧
      ∀ x ∈ later.exchanges, x.isReading = true := by
  have hmisses : (Setting.faulty detailingProvider).MissesOnlyAbsent := by
    rintro e ⟨message, rfl⟩
    rfl
  have hrefresh : (Setting.faulty detailingProvider).RefreshOnlyDetails := by
    rintro serviceId record refreshed ⟨⟩
    exact ⟨_, rfl⟩
  have hkeyed : provisioningWorld.store.Keyed :=
    keyed_of_history (steps_history "then" databaseProvider (databaseBroker false) _ {})
      Store.keyed_empty
  have hfound : provisioningWorld.store.instances.get? "i-1" =
      some { id := "i-1", serviceId := "db", planId := "small", otherDetails := "null",
             operation := some ⟨"op-1", .provision⟩
             createdAt := "then", updatedAt := "then" } := by
    decide +kernel
  have hrun : Steps ((databaseBroker false).Serves (.faulty detailingProvider))
      provisioningWorld polledProvision.1 polledProvision.2 :=
    steps_faultyHistory "now" detailingProvider _ _ _
  obtain ⟨failed, finishing, later, hcalls, hpolls, hfailed, hfinishing⟩ :
      ∃ failed finishing later, polledProvision.1 = [failed, finishing, later] ∧
        PollsOnly "i-1" [failed, finishing, later] ∧ failed.state? ≠ some .succeeded ∧
        finishing.state? = some .succeeded := by
    refine ⟨_, _, _, rfl, ?_, ?_, ?_⟩
    · simp [PollsOnly]
    · decide +kernel
    · decide +kernel
  have hfirst := (polls_until_finished hmisses hrefresh hkeyed hfound rfl (hcalls ▸ hpolls) hrun).2
    [failed] finishing [later] hcalls (by simpa using hfailed)
  obtain ⟨hfinishes, hreads⟩ := hfirst.2 (hfirst.1.1 hfinishing)
  exact ⟨_, failed, finishing, later, hfound, rfl, hkeyed, hmisses, hrefresh, hcalls,
    hcalls ▸ hpolls, hrun, hfailed, hfinishing, hfinishes, List.forall_mem_singleton.1 hreads⟩

end Polls

end Broker

end Brokerage
