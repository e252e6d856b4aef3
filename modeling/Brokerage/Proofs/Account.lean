import Brokerage.Proofs.Answers
import Mathlib.Logic.Function.Basic

/-!
What a record store says of one instance, times aside: whether it is there and as what, what is
bound to it and what was requested for it. A request about the instance is answered from that
account alone, and leaves another account; a request about another instance leaves the account as
it was. So a store is, to whoever asks about one instance and does not look at the times, no more
than its account.
-/

set_option autoImplicit false

namespace Brokerage

/-! ### Records without their times -/

def InstanceRecord.unstamped (record : InstanceRecord) : InstanceRecord :=
  { record with createdAt := "", updatedAt := "" }

def BindingRecord.unstamped (record : BindingRecord) : BindingRecord :=
  { record with createdAt := "" }

def RequestRecord.unstamped (record : RequestRecord) : RequestRecord :=
  { record with updatedAt := "" }

theorem InstanceRecord.restamp_of_unstamped_eq {record other : InstanceRecord}
    (h : record.unstamped = other.unstamped) :
    { record with createdAt := other.createdAt, updatedAt := other.updatedAt } = other := by
  cases record
  cases other
  cases h
  rfl

theorem BindingRecord.restamp_of_unstamped_eq {record other : BindingRecord}
    (h : record.unstamped = other.unstamped) :
    { record with createdAt := other.createdAt } = other := by
  cases record
  cases other
  cases h
  rfl

namespace Store

/-- A reply without the times in it. -/
def Request.bare : (q : Request) → q.Reply → q.Reply
  | .getInstance _, reply => reply.map InstanceRecord.unstamped
  | .getBinding _ _, reply => reply.map BindingRecord.unstamped
  | .getRequest _, reply => reply.map RequestRecord.unstamped
  | _, reply => reply

/-- What the records say of one instance. -/
@[ext] structure Account where
  record : Option InstanceRecord
  bindings : String → Option BindingRecord
  history : List RequestRecord

/-- What the records of a store say of an instance, times aside. -/
def accountOf (s : Store) (i : String) : Account where
  record := (s.instances.get? i).map InstanceRecord.unstamped
  bindings b := (s.bindings.get? (i, b)).map BindingRecord.unstamped
  history := (s.history i).map RequestRecord.unstamped

/-! ### Requests about the instance -/

namespace Account

/-- Answers a request about the instance of an account. -/
def answer (a : Account) : (q : Request) → q.Reply × Account
  | .instanceExists _ => (.ok a.record.isSome, a)
  | .getInstance i =>
    match a.record with
    | some record => (.ok record, a)
    | none => (.error (.instanceNotFound i), a)
  | .createInstance record =>
    match a.record with
    | some _ => (.error (.instanceAlreadyExists record.id), a)
    | none => (.ok (), { a with record := some record.unstamped })
  | .saveInstance record =>
    match a.record with
    | some _ => (.ok (), { a with record := some record.unstamped })
    | none => (.error (.instanceNotFound record.id), a)
  | .deleteInstance i =>
    match a.record with
    | some _ => (.ok (), { a with record := none })
    | none => (.error (.instanceNotFound i), a)
  | .bindingExists _ b => (.ok (a.bindings b).isSome, a)
  | .getBinding i b =>
    match a.bindings b with
    | some record => (.ok record, a)
    | none => (.error (.bindingNotFound i b), a)
  | .createBinding record =>
    match a.bindings record.bindingId with
    | some _ => (.error (.bindingAlreadyExists record.instanceId record.bindingId), a)
    | none =>
      (.ok (), { a with
        bindings := Function.update a.bindings record.bindingId (some record.unstamped) })
  | .deleteBinding i b =>
    match a.bindings b with
    | some _ => (.ok (), { a with bindings := Function.update a.bindings b none })
    | none => (.error (.bindingNotFound i b), a)
  | .createRequest record => (.ok (), { a with history := a.history ++ [record.unstamped] })
  | .saveRequest record =>
    (.ok (), { a with history := a.history.dropLast ++ [record.unstamped] })
  | .getRequest i =>
    match a.history.getLast? with
    | some record => (.ok record, a)
    | none => (.error (.requestNotFound i), a)

end Account

variable {s t : Store} {i : String}

@[simp] theorem record_accountOf (s : Store) (i : String) :
    (s.accountOf i).record = (s.instances.get? i).map InstanceRecord.unstamped := rfl

@[simp] theorem bindings_accountOf (s : Store) (i b : String) :
    (s.accountOf i).bindings b = (s.bindings.get? (i, b)).map BindingRecord.unstamped := rfl

@[simp] theorem history_accountOf (s : Store) (i : String) :
    (s.accountOf i).history = (s.history i).map RequestRecord.unstamped := rfl

@[simp] theorem accountOf_put_instance (s : Store) (i : String) (record : InstanceRecord) :
    accountOf { s with instances := s.instances.put i record } i =
      { s.accountOf i with record := some record.unstamped } := by
  simp [accountOf, history, Table.get?_put]

@[simp] theorem accountOf_remove_instance (s : Store) (i : String) :
    accountOf { s with instances := s.instances.remove i } i =
      { s.accountOf i with record := none } := by
  simp [accountOf, history, Table.get?_remove]

@[simp] theorem accountOf_put_binding (s : Store) (i b : String) (record : BindingRecord) :
    accountOf { s with bindings := s.bindings.put (i, b) record } i =
      { s.accountOf i with
        bindings := Function.update (s.accountOf i).bindings b (some record.unstamped) } := by
  refine Account.ext rfl (funext fun c ↦ ?_) rfl
  by_cases hc : c = b <;> simp [Table.get?_put, hc]

@[simp] theorem accountOf_remove_binding (s : Store) (i b : String) :
    accountOf { s with bindings := s.bindings.remove (i, b) } i =
      { s.accountOf i with bindings := Function.update (s.accountOf i).bindings b none } := by
  refine Account.ext rfl (funext fun c ↦ ?_) rfl
  by_cases hc : c = b <;> simp [Table.get?_remove, hc]

@[simp] theorem accountOf_put_history (s : Store) (i : String) (entries : List RequestRecord) :
    accountOf { s with requests := s.requests.put i entries } i =
      { s.accountOf i with history := entries.map RequestRecord.unstamped } := by
  simp [accountOf, history, Table.get?_put]

section Answer

attribute [local simp] Account.answer answer Request.bare Request.instanceId Table.contains written

/-- A store answers what it is asked about an instance as its account of the instance does, at
whatever time it is. -/
theorem answer_accountOf (s : Store) (now : String) {q : Request} (hq : q.instanceId = i) :
    (s.accountOf i).answer q = (q.bare (s.answer now q).1, (s.answer now q).2.accountOf i) := by
  subst hq
  cases q with
  | instanceExists i => simp
  | getInstance i => cases h : s.instances.get? i <;> simp [getInstance, h, Except.map]
  | createInstance record =>
    cases h : s.instances.get? record.id <;>
      simp [createInstance, h, InstanceRecord.unstamped]
  | saveInstance record =>
    cases h : s.instances.get? record.id <;> simp [saveInstance, h, InstanceRecord.unstamped]
  | deleteInstance i => cases h : s.instances.get? i <;> simp [deleteInstance, h]
  | bindingExists i b => simp
  | getBinding i b => cases h : s.bindings.get? (i, b) <;> simp [getBinding, h, Except.map]
  | createBinding record =>
    cases h : s.bindings.get? (record.instanceId, record.bindingId) <;>
      simp [createBinding, h, BindingRecord.unstamped]
  | deleteBinding i b => cases h : s.bindings.get? (i, b) <;> simp [deleteBinding, h]
  | createRequest record => simp [createRequest, RequestRecord.unstamped]
  | saveRequest record => simp [saveRequest, replaceLatest_eq, RequestRecord.unstamped]
  | getRequest i => cases h : (s.history i).getLast? <;> simp [getRequest, h, Except.map]

end Answer

/-- Stores with one account of an instance answer what is asked about it alike but for the times,
and keep one account of it. -/
theorem answer_alike (hst : s.accountOf i = t.accountOf i) (now later : String) {q : Request}
    (hq : q.instanceId = i) :
    q.bare (s.answer now q).1 = q.bare (t.answer later q).1 ∧
      (s.answer now q).2.accountOf i = (t.answer later q).2.accountOf i := by
  have hanswer := (s.answer_accountOf now hq).symm.trans (hst ▸ t.answer_accountOf later hq)
  exact Prod.mk.inj hanswer

/-- It makes no difference to them at what times the record was written that is to be saved. -/
theorem answer_save_alike (hst : s.accountOf i = t.accountOf i) (now later : String)
    {record other : InstanceRecord} (hid : record.id = i)
    (hrecord : record.unstamped = other.unstamped) :
    (s.answer now (.saveInstance record)).1 = (t.answer later (.saveInstance other)).1 ∧
      (s.answer now (.saveInstance record)).2.accountOf i =
        (t.answer later (.saveInstance other)).2.accountOf i := by
  rw [← InstanceRecord.restamp_of_unstamped_eq hrecord]
  have hs := s.answer_accountOf now (q := .saveInstance record) hid
  have ht := t.answer_accountOf later (i := i)
    (q := .saveInstance
      { record with createdAt := other.createdAt, updatedAt := other.updatedAt }) hid
  rw [← hst] at ht
  exact Prod.mk.inj (hs.symm.trans ht)

/-! ### Requests about another instance -/

theorem Request.subject?_ne {q : Request} (hq : q.instanceId ≠ i) {subject : Subject}
    (hsubject : subject.instanceId = i) : q.subject? ≠ some subject := by
  rintro h
  cases q <;> cases h <;> exact hq hsubject

theorem Request.logged?_ne {q : Request} (hq : q.instanceId ≠ i) : q.logged? ≠ some i := by
  rintro h
  cases q <;> cases h <;> exact hq rfl

/-- A request about another instance leaves the account of an instance as it was. -/
theorem Answers.accountOf_eq {fails : Error → Prop} {q : Request} {reply : q.Reply}
    (h : s.Answers fails q reply t) (hq : q.instanceId ≠ i) : t.accountOf i = s.accountOf i := by
  have hrecord : t.instances.get? i = s.instances.get? i :=
    (h.sameRecord (Request.subject?_ne hq rfl)).of_instance
  have hbindings (b : String) : t.bindings.get? (i, b) = s.bindings.get? (i, b) :=
    (h.sameRecord (Request.subject?_ne hq rfl)).of_binding
  have hhistory : t.history i = s.history i := h.history_eq (Request.logged?_ne hq)
  simp only [accountOf, hrecord, hbindings, hhistory]

end Store

end Brokerage
