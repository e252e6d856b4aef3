import Brokerage.Broker.LastOperation
import Brokerage.Proofs.Course.Load

/-!
The ways a poll can go. With nothing pending the provider is not asked; what it reports done is
finished by dropping the record of a deprovision, or else by saving a refreshed one.
-/

set_option autoImplicit false

namespace Brokerage.Broker

/-- The service whose provider may be polled, unless the poll is refused. -/
def admitPoll (broker : Broker) (record : InstanceRecord) : Except BrokerError RegisteredService :=
  match broker.registry.resolve record.serviceId with
  | .error e => .error e
  | .ok service => if !service.isAsync then .error .asyncRequired else .ok service

theorem admitPoll_ok {broker : Broker} {record : InstanceRecord} {service : RegisteredService}
    (h : broker.admitPoll record = .ok service) :
    broker.registry.resolve record.serviceId = .ok service ∧ service.isAsync = true := by
  unfold admitPoll at h
  split at h
  next => cases h
  next hresolve =>
    split at h
    next => cases h
    next hasync =>
      cases h
      exact ⟨hresolve, by simpa using hasync⟩

/-- What is saved of an instance whose operation is done. -/
def settledRecord (refreshed : InstanceRecord) : InstanceRecord :=
  { refreshed with operation := none }

theorem deprovision_of_deleteRecord {kind : OperationKind} (h : kind.completion = .deleteRecord) :
    kind = .deprovision := by
  cases kind with
  | deprovision => rfl
  | provision | update => cases h

theorem not_deprovision_of_refreshDetails {kind : OperationKind}
    (h : kind.completion = .refreshDetails) : kind ≠ .deprovision := by
  rintro rfl
  cases h

section LastOperation

variable (broker : Broker) (i : String)

inductive PollCourse : Dialogue → Except BrokerError LastOperation → Prop
  | unread (e : Store.Error) :
    PollCourse [.store (.getInstance i) (.error e)] (.error (unreadInstance i e))
  | refused {record : InstanceRecord} {e : BrokerError}
    (hadmits : broker.admitPoll record = .error e) :
    PollCourse [.store (.getInstance i) (.ok record)] (.error e)
  | idle {record : InstanceRecord} {service : RegisteredService}
    (hadmits : broker.admitPoll record = .ok service) (hidle : record.operation = none) :
    PollCourse [.store (.getInstance i) (.ok record)] (.ok ⟨.succeeded, none⟩)
  | unanswered {record : InstanceRecord} {service : RegisteredService}
    {operation : PendingOperation} (hadmits : broker.admitPoll record = .ok service)
    (hpending : record.operation = some operation) (e : Provider.Error) :
    PollCourse
      [.store (.getInstance i) (.ok record),
       .provider (.poll service.definition.id record) (.error e)]
      (.ok (Broker.unanswered e))
  | unfinished {record : InstanceRecord} {service : RegisteredService}
    {operation : PendingOperation} (hadmits : broker.admitPoll record = .ok service)
    (hpending : record.operation = some operation) :
    PollCourse
      [.store (.getInstance i) (.ok record),
       .provider (.poll service.definition.id record) (.ok false)]
      (.ok ⟨.inProgress, none⟩)
  | removed {record : InstanceRecord} {service : RegisteredService}
    {operation : PendingOperation} (hadmits : broker.admitPoll record = .ok service)
    (hpending : record.operation = some operation)
    (hcompletion : operation.kind.completion = .deleteRecord) (reply : Except Store.Error Unit)
    (hreply : reply = .ok () ∨ ∃ e, e.isNotFound = true ∧ reply = .error e) :
    PollCourse
      [.store (.getInstance i) (.ok record),
       .provider (.poll service.definition.id record) (.ok true),
       .store (.deleteInstance i) reply]
      (.ok ⟨.succeeded, none⟩)
  | unremoved {record : InstanceRecord} {service : RegisteredService}
    {operation : PendingOperation} (hadmits : broker.admitPoll record = .ok service)
    (hpending : record.operation = some operation)
    (hcompletion : operation.kind.completion = .deleteRecord) (e : Store.Error)
    (hfound : e.isNotFound = false) :
    PollCourse
      [.store (.getInstance i) (.ok record),
       .provider (.poll service.definition.id record) (.ok true),
       .store (.deleteInstance i) (.error e)]
      (.error (.completionFailed i operation.kind e.message))
  | unreread {record : InstanceRecord} {service : RegisteredService}
    {operation : PendingOperation} (hadmits : broker.admitPoll record = .ok service)
    (hpending : record.operation = some operation)
    (hcompletion : operation.kind.completion = .refreshDetails) (e : Store.Error) :
    PollCourse
      [.store (.getInstance i) (.ok record),
       .provider (.poll service.definition.id record) (.ok true),
       .store (.getInstance i) (.error e)]
      (.error (.completionFailed i operation.kind e.message))
  | unrefreshed {record : InstanceRecord} {service : RegisteredService}
    {operation : PendingOperation} (hadmits : broker.admitPoll record = .ok service)
    (hpending : record.operation = some operation)
    (hcompletion : operation.kind.completion = .refreshDetails) (reread : InstanceRecord)
    (e : Provider.Error) :
    PollCourse
      [.store (.getInstance i) (.ok record),
       .provider (.poll service.definition.id record) (.ok true),
       .store (.getInstance i) (.ok reread),
       .provider (.refresh service.definition.id reread) (.error e)]
      (.error (.completionFailed i operation.kind e.message))
  | unsettled {record : InstanceRecord} {service : RegisteredService}
    {operation : PendingOperation} (hadmits : broker.admitPoll record = .ok service)
    (hpending : record.operation = some operation)
    (hcompletion : operation.kind.completion = .refreshDetails) (reread refreshed : InstanceRecord)
    (e : Store.Error) :
    PollCourse
      [.store (.getInstance i) (.ok record),
       .provider (.poll service.definition.id record) (.ok true),
       .store (.getInstance i) (.ok reread),
       .provider (.refresh service.definition.id reread) (.ok refreshed),
       .store (.saveInstance (settledRecord refreshed)) (.error e)]
      (.error (.completionFailed i operation.kind e.message))
  | settled {record : InstanceRecord} {service : RegisteredService}
    {operation : PendingOperation} (hadmits : broker.admitPoll record = .ok service)
    (hpending : record.operation = some operation)
    (hcompletion : operation.kind.completion = .refreshDetails)
    (reread refreshed : InstanceRecord) :
    PollCourse
      [.store (.getInstance i) (.ok record),
       .provider (.poll service.definition.id record) (.ok true),
       .store (.getInstance i) (.ok reread),
       .provider (.refresh service.definition.id reread) (.ok refreshed),
       .store (.saveInstance (settledRecord refreshed)) (.ok ())]
      (.ok ⟨.succeeded, none⟩)

variable {broker i} (details : PollDetails)

theorem PollCourse.of_ends {exchanges : Dialogue} {result : Except BrokerError LastOperation}
    (h : (broker.lastOperation i details).Ends exchanges result) :
    PollCourse broker i exchanges result := by
  rw [lastOperation, ends_loadInstance_bind_iff] at h
  rcases h with ⟨e, rfl, rfl⟩ | ⟨record, rest, rfl, h⟩
  · exact .unread e
  rw [Program.ends_ofExcept_bind_iff] at h
  rcases h with ⟨e, hresolve, rfl, rfl⟩ | ⟨service, hresolve, h⟩
  · exact .refused (by rw [admitPoll, hresolve])
  rw [Program.ends_refuseIf_bind_iff] at h
  rcases h with ⟨hasync, rfl, rfl⟩ | ⟨hasync, h⟩
  · exact .refused (by simp [admitPoll, hresolve, hasync])
  have hadmits : broker.admitPoll record = .ok service := by simp [admitPoll, hresolve, hasync]
  cases hpending : record.operation with
  | none =>
    simp only [hpending] at h
    obtain ⟨rfl, rfl⟩ := Program.ends_done_iff.1 h
    exact .idle hadmits hpending
  | some operation =>
    simp only [hpending, pollPending, Call.provider_eq_ask, Program.ask_bind, Program.ok_bind,
      Program.ends_ask_iff] at h
    obtain ⟨reply, rest, rfl, h⟩ := h
    cases reply with
    | error e =>
      obtain ⟨rfl, rfl⟩ := Program.ends_done_iff.1 h
      exact .unanswered hadmits hpending e
    | ok done =>
      cases done with
      | false =>
        obtain ⟨rfl, rfl⟩ := Program.ends_done_iff.1 h
        exact .unfinished hadmits hpending
      | true =>
        cases hcompletion : operation.kind.completion with
        | deleteRecord =>
          simp only [complete, hcompletion, deleteCompleted, Call.store_eq_ask, Program.ask_bind,
            Program.ok_bind, Program.ends_ask_iff] at h
          obtain ⟨deleted, rest, rfl, h⟩ := h
          cases deleted with
          | ok value =>
            obtain ⟨rfl, rfl⟩ := Program.ends_done_iff.1 h
            exact .removed hadmits hpending hcompletion (.ok ()) (.inl rfl)
          | error e =>
            cases hfound : e.isNotFound with
            | true =>
              simp only [hfound, if_true, Program.pure_bind] at h
              obtain ⟨rfl, rfl⟩ := Program.ends_done_iff.1 h
              exact .removed hadmits hpending hcompletion (.error e) (.inr ⟨e, hfound, rfl⟩)
            | false =>
              simp only [hfound, Bool.false_eq_true, if_false, Program.fail_eq_done,
                Program.error_bind] at h
              obtain ⟨rfl, rfl⟩ := Program.ends_done_iff.1 h
              exact .unremoved hadmits hpending hcompletion e hfound
        | refreshDetails =>
          simp only [complete, hcompletion, refreshCompleted, Call.store_eq_ask,
            Call.provider_eq_ask, Program.ask_bind, Program.ok_bind, Program.ends_ask_iff] at h
          obtain ⟨reread, rest, rfl, h⟩ := h
          cases reread with
          | error e =>
            obtain ⟨rfl, rfl⟩ := Program.ends_done_iff.1 h
            exact .unreread hadmits hpending hcompletion e
          | ok reread =>
            simp only [Program.orFail_ok, Program.ok_bind, Program.ask_bind,
              Program.ends_ask_iff] at h
            obtain ⟨refreshed, rest, rfl, h⟩ := h
            cases refreshed with
            | error e =>
              obtain ⟨rfl, rfl⟩ := Program.ends_done_iff.1 h
              exact .unrefreshed hadmits hpending hcompletion reread e
            | ok refreshed =>
              simp only [Program.orFail_ok, Program.ok_bind, Program.ask_bind,
                Program.ends_ask_iff] at h
              obtain ⟨saved, rest, rfl, h⟩ := h
              cases saved with
              | error e =>
                obtain ⟨rfl, rfl⟩ := Program.ends_done_iff.1 h
                exact .unsettled hadmits hpending hcompletion reread refreshed e
              | ok value =>
                obtain ⟨rfl, rfl⟩ := Program.ends_done_iff.1 h
                exact .settled hadmits hpending hcompletion reread refreshed

end LastOperation

end Brokerage.Broker
