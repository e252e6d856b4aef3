import Brokerage.Proofs.Atomicity
import Brokerage.Proofs.LifeCycle
import Brokerage.Proofs.References

/-!
What a failed operation leaves behind. A poll to which the provider answers with a failure that
asking again cannot mend tells that the operation has failed, and leaves it in the record although
nothing is outstanding any more. A deprovision looks in the record for a deprovision only. So it
goes to the provider after a provision or an update has failed, and it is refused after a
deprovision has, whatever has been done since.
-/

set_option autoImplicit false

namespace Brokerage.Broker

variable {broker : Broker} {setting : Setting} {w w' : World} {i : String}

/-- The call has told that the operation on an instance has failed. -/
def Served.TellsFailed (call : Served) (i : String) : Prop :=
  call.request.subject = .instance i ∧ call.state? = some .failed

/-- The call does not ask how the operation on an instance goes, and has no provider deprovision
the instance. -/
def Served.LetsBe (call : Served) (i : String) : Prop :=
  call.request.subject = .instance i →
    call.request.action ≠ .poll ∧ (call.request.action = .deprovision → ¬ call.Acted)

/-- A poll that tells of a failure has read an operation of a service that is there, and leaves the
records as they were. -/
theorem Serves.of_tellsFailed {poll : Served} (h : broker.Serves setting w poll w')
    (hfailed : poll.TellsFailed i) :
    ∃ record operation service, w.store.instances.get? i = some record ∧
      record.operation = some operation ∧
      broker.registry.resolve record.serviceId = .ok service ∧ w'.store = w.store := by
  obtain ⟨request, exchanges, result⟩ := poll
  obtain ⟨hends, hsteps⟩ := h
  obtain ⟨hsubject, hstate⟩ := hfailed
  cases request with
  | lastOperation j details =>
    cases hsubject
    cases PollCourse.of_ends details hends with
    | @unanswered record service operation hadmits hpending e =>
      have hread := (Setting.steps_getInstance_iff.1 hsteps).1
      exact ⟨record, operation, service, hread, hpending, (admitPoll_ok hadmits).1,
        Setting.store_eq_of_steps hsteps rfl⟩
    | _ => cases hstate
  | _ => cases hstate

/-- A record with an operation in it stays as it is unless the operation is polled or a provider
deprovisions the instance. -/
theorem Serves.record_stays {call : Served} (h : broker.Serves setting w call w')
    (hid : setting.RefreshKeepsId) (hw : w.store.Keyed) {record : InstanceRecord}
    {operation : PendingOperation} (hfound : w.store.instances.get? i = some record)
    (hpending : record.operation = some operation) (hlets : call.LetsBe i) :
    w'.store.instances.get? i = some record := by
  by_cases hsubject : call.request.subject = .instance i
  case neg => exact (h.instance_stays hid hw hsubject).trans hfound
  obtain ⟨hpoll, hdeprovision⟩ := hlets hsubject
  have hunwritten (hnone : ∀ x ∈ call.exchanges, x.written? ≠ some (.instance i)) :
      w'.store.instances.get? i = some record :=
    (Setting.sameRecord_of_unwritten h.2 hnone).of_instance.trans hfound
  obtain ⟨request, exchanges, result⟩ := call
  have hends := h.1
  cases request with
  | provision j details acceptsIncomplete =>
    cases hsubject
    have honly := (ProvisionCourse.of_ends hends).created_of_written
    exact hunwritten (Setting.unwritten_of_has h.2 (fun x hx hwritten ↦
      (honly x hx _ hwritten).2) ⟨record, hfound⟩)
  | update j details acceptsIncomplete =>
    cases hsubject
    cases UpdateCourse.of_ends hends with
    | unread | refused | declined | unsaved => exact hunwritten (Exchange.ne_some_of_all rfl)
    | unlogged hadmits | completed hadmits =>
      cases (Setting.steps_getInstance_iff.1 h.2).1.symm.trans hfound
      cases (admitUpdate_ok hadmits).2.1.symm.trans hpending
  | deprovision j details acceptsIncomplete =>
    cases hsubject
    rw [((atomic_up_to_provider h nofun).2 (hdeprovision rfl)).2]
    exact hfound
  | lastOperation j details => exact absurd rfl hpoll
  | bind | unbind => cases hsubject

/-- A deprovision of a recorded instance is refused for the operation in the record, if it is a
deprovision. -/
theorem admitDeprovision_of_pending {record : InstanceRecord} {operation : PendingOperation}
    {service : RegisteredService} (hpending : record.operation = some operation)
    (hresolve : broker.registry.resolve record.serviceId = .ok service) :
    broker.admitDeprovision i record true =
      if operation.kind = .deprovision then .error (.operationInProgress i .deprovision)
      else .ok service := by
  have hdeprovision : pendingDeprovision record =
      if operation.kind = .deprovision then some operation else none := by
    rw [pendingDeprovision, hpending, Option.filter_some]
    simp only [beq_iff_eq]
  by_cases hkind : operation.kind = .deprovision
  · simp [admitDeprovision, hresolve, hdeprovision, hkind]
  · simp [admitDeprovision, hresolve, hdeprovision, hkind]

/-- A deprovision that accepts to wait asks the provider exactly if the operation in the record is
not a deprovision; if it is one, it is refused. -/
theorem DeprovisionCourse.asks_iff {details : DeprovisionDetails} {exchanges : Dialogue}
    {result : Except BrokerError OperationResponse}
    (h : DeprovisionCourse broker i details true exchanges result)
    (hhealthy : ∀ e, ¬ setting.storeFails e) (hsteps : Steps setting.Allows w exchanges w')
    {record : InstanceRecord} {operation : PendingOperation} {service : RegisteredService}
    (hfound : w.store.instances.get? i = some record)
    (hpending : record.operation = some operation)
    (hresolve : broker.registry.resolve record.serviceId = .ok service) :
    ((∃ serviceId reply, .provider (.deprovision serviceId record details) reply ∈ exchanges) ↔
      operation.kind ≠ .deprovision) ∧
    (operation.kind = .deprovision →
      result = .error (.operationInProgress i .deprovision) ∧ w'.store = w.store) := by
  have hadmission := admitDeprovision_of_pending (i := i) hpending hresolve
  have hread {read : InstanceRecord} {rest : Dialogue}
      (hsteps : Steps setting.Allows w (.store (.getInstance i) (.ok read) :: rest) w') :
      record = read :=
    Option.some.inj (hfound.symm.trans (Setting.steps_getInstance_iff.1 hsteps).1)
  cases h with
  | unread e =>
    rcases (Steps.singleton_iff.1 hsteps).answers.getInstance_error with hfails | ⟨hnone, -⟩
    · exact absurd hfails (hhealthy e)
    · cases hnone.symm.trans hfound
  | refused hadmits =>
    cases hread hsteps
    rw [hadmission] at hadmits
    split at hadmits
    next hkind =>
      cases hadmits
      refine ⟨iff_of_false (by simp) (not_not.2 hkind), fun _ ↦ ⟨rfl, ?_⟩⟩
      exact Setting.store_eq_of_steps hsteps rfl
    next => cases hadmits
  | declined hadmits | undeleted hadmits | deleted hadmits | unsaved hadmits | condemned hadmits =>
    cases hread hsteps
    rw [hadmission] at hadmits
    split at hadmits
    next => cases hadmits
    next hkind => exact ⟨iff_of_true ⟨_, _, .tail _ (.head _)⟩ hkind, fun h ↦ absurd h hkind⟩

/-! ### Runs -/

/-- After a poll has told that the operation on an instance has failed, and until another poll asks
for it or a provider has deprovisioned the instance, the operation stays in the record. A
deprovision that accepts to wait asks the provider exactly if that operation is not a deprovision;
if it is one then the deprovision is refused as in progress, and changes nothing. Assumes: a store
that does not fail, and providers whose refresh keeps the id of a record; their other answers and
the vault are arbitrary. -/
theorem deprovisions_after_failure_iff (hhealthy : ∀ e, ¬ setting.storeFails e)
    (hid : setting.RefreshKeepsId) {vault : Vault} {before between : List Served} {poll : Served}
    (hrun : Steps (broker.Serves setting) ⟨Store.empty, vault⟩ (before ++ poll :: between) w)
    (hfailed : poll.TellsFailed i) (hbetween : ∀ call ∈ between, call.LetsBe i) :
    ∃ record operation, w.store.instances.get? i = some record ∧
      record.operation = some operation ∧
      ∀ details exchanges result w',
        broker.Serves setting w ⟨.deprovision i details true, exchanges, result⟩ w' →
        ((∃ serviceId reply,
            .provider (.deprovision serviceId record details) reply ∈ exchanges) ↔
          operation.kind ≠ .deprovision) ∧
        (operation.kind = .deprovision →
          result = .error (.operationInProgress i .deprovision) ∧ w'.store = w.store) := by
  obtain ⟨u, hbefore, hrest⟩ := Steps.append_iff.1 hrun
  obtain ⟨v, hpoll, hafter⟩ := Steps.cons_iff.1 hrest
  obtain ⟨record, operation, service, hfound, hpending, hresolve, hsame⟩ :=
    hpoll.of_tellsFailed hfailed
  have hkeyed : v.store.Keyed :=
    Setting.keyed_of_steps hpoll.2 (keyed_of_history hbefore Store.keyed_empty)
  have hkept := hafter.preserves
    (P := fun t ↦ t.store.Keyed ∧ t.store.instances.get? i = some record) ?_
    ⟨hkeyed, hsame ▸ hfound⟩
  · refine ⟨record, operation, hkept.2, hpending, fun details exchanges result w' hserves ↦ ?_⟩
    exact (DeprovisionCourse.of_ends hserves.1).asks_iff hhealthy hserves.2 hkept.2 hpending
      hresolve
  · rintro t call t' hcall ⟨ht, hthere⟩ hserves
    exact ⟨Setting.keyed_of_steps hserves.2 ht,
      hserves.record_stays hid ht hthere hpending (hbetween call hcall)⟩

/-- A provider that starts what it is asked for, and tells that it has failed. -/
def failingProvider : (q : Provider.Request) → q.Reply
  | .poll _ _ => .error (.failed "out of space")
  | q => databaseProvider q

theorem refreshKeepsId_failing : (Setting.faithful failingProvider).RefreshKeepsId := by
  rintro serviceId record refreshed ⟨⟩
  rfl

/-- A provision that has failed, and an update that is refused because of it. -/
def failedProvision : List Served × World :=
  (databaseBroker false).history "now" failingProvider
    [.provision "i-1" { serviceId := "db", planId := "small" } true, .lastOperation "i-1" {},
     .update "i-1" { serviceId := "db" } true] {}

theorem deprovisions_after_failedProvision :
    let details : DeprovisionDetails := { serviceId := "db", planId := "small" }
    ∃ record call w', failedProvision.2.store.instances.get? "i-1" = some record ∧
      (databaseBroker false).Serves (.faithful failingProvider) failedProvision.2 call w' ∧
      call.request = .deprovision "i-1" details true ∧
      ∃ serviceId reply,
        .provider (.deprovision serviceId record details) reply ∈ call.exchanges := by
  intro details
  have hrun : Steps ((databaseBroker false).Serves (.faithful failingProvider)) {}
      failedProvision.1 failedProvision.2 :=
    steps_history "now" failingProvider (databaseBroker false) _ {}
  obtain ⟨record, operation, hfound, hpending, hasks⟩ :=
    @deprovisions_after_failure_iff (databaseBroker false) (.faithful failingProvider)
      failedProvision.2 "i-1" (fun _ hfails ↦ hfails) refreshKeepsId_failing Vault.empty [_] [_] _
      hrun ⟨rfl, rfl⟩ (List.forall_mem_singleton.2 fun _ ↦ ⟨nofun, nofun⟩)
  have hkind : operation.kind ≠ .deprovision := by
    obtain rfl : record = _ := Option.some.inj (hfound.symm.trans rfl)
    obtain rfl : operation = _ := Option.some.inj (hpending.symm.trans rfl)
    exact nofun
  have hserves := Steps.singleton_iff.1 (steps_history "now" failingProvider (databaseBroker false)
    [.deprovision "i-1" details true] failedProvision.2)
  exact ⟨record, _, _, hfound, hserves, rfl, (hasks _ _ _ _ hserves).1.2 hkind⟩

/-- After a failure a deprovision does not always ask the provider: if it was a deprovision that
failed, every later one is refused. -/
theorem not_deprovisions_after_failure :
    ¬ ∀ (broker : Broker) (setting : Setting) (before : List Served) (poll call : Served)
      (w w' : World) (i : String) (details : DeprovisionDetails),
      (∀ e, ¬ setting.storeFails e) → setting.VaultInMemory → setting.RefreshKeepsId →
      Steps (broker.Serves setting) {} (before ++ [poll]) w → poll.TellsFailed i →
      broker.Serves setting w call w' → call.request = .deprovision i details true →
      ∃ serviceId record reply,
        .provider (.deprovision serviceId record details) reply ∈ call.exchanges := by
  intro h
  let details : DeprovisionDetails := { serviceId := "db", planId := "small" }
  let requests : List Request :=
    [.provision "i-1" { serviceId := "db", planId := "small" } true,
     .deprovision "i-1" details true, .lastOperation "i-1" {}]
  let served := (databaseBroker false).history "now" failingProvider requests {}
  have hrun := steps_history "now" failingProvider (databaseBroker false) requests {}
  have hserves := Steps.singleton_iff.1 (steps_history "now" failingProvider (databaseBroker false)
    [.deprovision "i-1" details true] served.2)
  obtain ⟨serviceId, record, reply, hasked⟩ := h _ _ [_, _] _ _ _ _ "i-1" details
    (fun _ hfails ↦ hfails) (fun _ _ _ _ hanswer ↦ hanswer) refreshKeepsId_failing hrun
    ⟨rfl, rfl⟩ hserves rfl
  cases hasked with
  | tail _ hrest => cases hrest

end Brokerage.Broker
