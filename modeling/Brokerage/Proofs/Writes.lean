import Brokerage.Proofs.Course.Bind
import Brokerage.Proofs.Course.Deprovision
import Brokerage.Proofs.Course.LastOperation
import Brokerage.Proofs.Course.Provision
import Brokerage.Proofs.Course.Unbind
import Brokerage.Proofs.Course.Update
import Brokerage.Proofs.Serving

/-!
What records calls write. A provision and a bind write the record they are made for and no other,
and only to create it; an unbind only deletes the record of its binding. No other call creates a
record.
-/

set_option autoImplicit false

namespace Brokerage.Broker

variable {broker : Broker} {i b : String} {exchanges : Dialogue}

theorem subject_of_written {own : Subject} {p : Exchange Action.Reply → Prop}
    (h : ∀ x ∈ exchanges, x.written? = none ∨ x.written? = some own ∧ p x) :
    ∀ x ∈ exchanges, ∀ subject, x.written? = some subject → subject = own ∧ p x := by
  intro x hx subject hwritten
  rcases h x hx with hnone | ⟨hsome, hp⟩
  · cases hnone.symm.trans hwritten
  · cases hsome.symm.trans hwritten
    exact ⟨rfl, hp⟩

theorem ProvisionCourse.created_of_written {details : ProvisionDetails} {acceptsIncomplete : Bool}
    {result : Except BrokerError OperationResponse}
    (h : ProvisionCourse broker i details acceptsIncomplete exchanges result) :
    ∀ x ∈ exchanges, ∀ subject, x.written? = some subject →
      subject = .instance i ∧ x.created? = some (.instance i) := by
  refine subject_of_written (p := fun x ↦ x.created? = some (.instance i)) ?_
  cases h <;>
    simp [Exchange.written?, Exchange.created?, Store.Request.subject?, Store.Request.created?,
      provisionedRecord]

theorem BindCourse.created_of_written {details : BindDetails} {result : Except BrokerError Binding}
    (h : BindCourse broker i b details exchanges result) :
    ∀ x ∈ exchanges, ∀ subject, x.written? = some subject →
      subject = .binding i b ∧ x.created? = some (.binding i b) := by
  refine subject_of_written (p := fun x ↦ x.created? = some (.binding i b)) ?_
  cases h <;>
    simp [Exchange.written?, Exchange.created?, Store.Request.subject?, Store.Request.created?,
      issuedRecord]

theorem UnbindCourse.deleted_of_written {result : Except BrokerError Unit}
    (h : UnbindCourse broker i b exchanges result) :
    ∀ x ∈ exchanges, ∀ subject, x.written? = some subject →
      subject = .binding i b ∧ x = .store (.deleteBinding i b) (.ok ()) := by
  refine subject_of_written (p := fun x ↦ x = .store (.deleteBinding i b) (.ok ())) ?_
  cases h with
  | unread | instanceUnread | unresolved => simp [Exchange.written?, Store.Request.subject?]
  | uncleared _ _ _ hclear | declined _ _ _ hclear | undeleted _ _ _ hclear
  | unbound _ _ _ hclear => cases hclear <;> simp [Exchange.written?, Store.Request.subject?]

theorem UpdateCourse.creates_nothing {details : UpdateDetails} {acceptsIncomplete : Bool}
    {result : Except BrokerError OperationResponse}
    (h : UpdateCourse broker i details acceptsIncomplete exchanges result) :
    ∀ x ∈ exchanges, x.created? = none := by
  cases h <;> exact Exchange.eq_none_of_all rfl

theorem DeprovisionCourse.creates_nothing {details : DeprovisionDetails} {acceptsIncomplete : Bool}
    {result : Except BrokerError OperationResponse}
    (h : DeprovisionCourse broker i details acceptsIncomplete exchanges result) :
    ∀ x ∈ exchanges, x.created? = none := by
  cases h <;> exact Exchange.eq_none_of_all rfl

theorem PollCourse.creates_nothing {result : Except BrokerError LastOperation}
    (h : PollCourse broker i exchanges result) : ∀ x ∈ exchanges, x.created? = none := by
  cases h with
  | removed _ _ _ reply => cases reply <;> exact Exchange.eq_none_of_all rfl
  | _ => exact Exchange.eq_none_of_all rfl

/-- What a call creates is what it is made for, and only a provision and a bind create. -/
theorem Serves.created_cases {setting : Setting} {w w' : World} {call : Served}
    (h : broker.Serves setting w call w') {x : Exchange Action.Reply} (hx : x ∈ call.exchanges)
    {subject : Subject} (hcreated : x.created? = some subject) :
    (∃ i details acceptsIncomplete,
      call.request = .provision i details acceptsIncomplete ∧ subject = .instance i) ∨
      ∃ i b details, call.request = .bind i b details ∧ subject = .binding i b := by
  obtain ⟨request, exchanges, result⟩ := call
  obtain ⟨hends, -⟩ := h
  have hwritten := Exchange.written_of_created hcreated
  cases request with
  | provision i details acceptsIncomplete =>
    exact .inl ⟨i, details, acceptsIncomplete, rfl,
      ((ProvisionCourse.of_ends hends).created_of_written x hx _ hwritten).1⟩
  | bind i b details =>
    exact .inr ⟨i, b, details, rfl,
      ((BindCourse.of_ends hends).created_of_written x hx _ hwritten).1⟩
  | update =>
    cases hcreated.symm.trans ((UpdateCourse.of_ends hends).creates_nothing x hx)
  | deprovision =>
    cases hcreated.symm.trans ((DeprovisionCourse.of_ends hends).creates_nothing x hx)
  | lastOperation i details =>
    cases hcreated.symm.trans ((PollCourse.of_ends details hends).creates_nothing x hx)
  | unbind i b details =>
    obtain ⟨-, rfl⟩ := (UnbindCourse.of_ends details hends).deleted_of_written x hx _ hwritten
    cases hcreated

end Brokerage.Broker
