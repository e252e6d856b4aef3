import Brokerage.Conformance.Trial
import Brokerage.Proofs.Account

/-!
Stores that conform. A store is whatever answers requests and has a state. It conforms if, whatever
it has been asked, it answers as the store in memory does but for the times, gives no empty time and
keeps the time of a record's creation when the record is saved. A trial of such a store is followed
request by request on the store in memory, where what it is told can be computed.
-/

set_option autoImplicit false

namespace Brokerage

namespace Store

theorem Request.bare_error (q : Request) (e : Error) : q.bare (.error e) = .error e := by
  cases q <;> rfl

theorem Request.eq_error_of_bare {q : Request} {reply : q.Reply} {e : Error}
    (h : q.bare reply = .error e) : reply = .error e := by
  cases reply with
  | error e' => rwa [bare_error] at h
  | ok answer => cases q <;> cases h

theorem Request.eq_ok_of_bare {q : Request} {reply : q.Reply} {a : q.Answer}
    (h : q.bare reply = q.bare (.ok a)) : ∃ b, reply = .ok b := by
  cases reply with
  | error e =>
    rw [bare_error] at h
    cases (eq_error_of_bare h.symm)
  | ok b => exact ⟨b, rfl⟩

end Store

theorem InstanceRecord.eq_restamped {record other : InstanceRecord}
    (h : record.unstamped = other.unstamped) :
    record = { other with createdAt := record.createdAt, updatedAt := record.updatedAt } :=
  (restamp_of_unstamped_eq h.symm).symm

theorem BindingRecord.eq_restamped {record other : BindingRecord}
    (h : record.unstamped = other.unstamped) :
    record = { other with createdAt := record.createdAt } :=
  (restamp_of_unstamped_eq h.symm).symm

theorem RequestRecord.eq_restamped {record other : RequestRecord}
    (h : record.unstamped = other.unstamped) :
    record = { other with updatedAt := record.updatedAt } := by
  cases record
  cases other
  cases h
  rfl

namespace Conformance

/-- Answers requests, each in the state that the ones before it left. -/
abbrev Backend (σ : Type) := σ → (q : Store.Request) → q.Reply × σ

variable {σ : Type}

/-- The state of a backend after some requests. -/
def Backend.after (respond : Backend σ) (s : σ) : List Store.Request → σ
  | [] => s
  | q :: rest => respond.after (respond s q).2 rest

theorem Backend.after_concat (respond : Backend σ) (s : σ) (asked : List Store.Request)
    (q : Store.Request) :
    respond.after s (asked ++ [q]) = (respond (respond.after s asked) q).2 := by
  induction asked generalizing s with
  | nil => rfl
  | cons first rest ih => exact ih _

/-- The store in memory, with no clock. What it answers, times aside, it answers with any. -/
def memory : Backend Store :=
  Store.answer ""

/-- No time in a reply is empty. -/
def Stamped : (q : Store.Request) → q.Reply → Prop
  | .getInstance _, .ok record => record.createdAt ≠ "" ∧ record.updatedAt ≠ ""
  | .getBinding _ _, .ok record => record.createdAt ≠ ""
  | .getRequest _, .ok record => record.updatedAt ≠ ""
  | _, _ => True

/-- A backend conforms to the store in memory, from a fresh state on. -/
structure Conforms (respond : Backend σ) (fresh : σ) : Prop where
  /-- Whatever has been asked, the next reply is that of the store in memory, times aside. -/
  alike : ∀ asked (q : Store.Request), q.bare (respond (respond.after fresh asked) q).1 =
    q.bare (memory (memory.after .empty asked) q).1
  stamped : ∀ asked q, Stamped q (respond (respond.after fresh asked) q).1
  /-- An instance that is read, saved and read again was created when it was created before. -/
  kept : ∀ asked i record saved got s t,
    respond (respond.after fresh asked) (.getInstance i) = (.ok record, s) → saved.id = i →
      respond s (.saveInstance saved) = (.ok (), t) → (respond t (.getInstance i)).1 = .ok got →
        got.createdAt = record.createdAt

variable {respond : Backend σ} {fresh s : σ} {c c' : Store} {q : Store.Request}

/-- A backend and the store in memory have been asked the same. -/
def Follows (respond : Backend σ) (fresh s : σ) (c : Store) : Prop :=
  ∃ asked, s = respond.after fresh asked ∧ c = memory.after .empty asked

theorem Follows.start (respond : Backend σ) (fresh : σ) : Follows respond fresh fresh .empty :=
  ⟨[], rfl, rfl⟩

/-- They are still asked the same when both are asked one thing more. -/
theorem Follows.next (hs : Follows respond fresh s c) (q : Store.Request) :
    Follows respond fresh (respond s q).2 (memory c q).2 := by
  obtain ⟨asked, rfl, rfl⟩ := hs
  exact ⟨asked ++ [q], (respond.after_concat ..).symm, (memory.after_concat ..).symm⟩

namespace Conforms

variable (h : Conforms respond fresh)
include h

theorem alike_of_follows (hs : Follows respond fresh s c) (q : Store.Request) :
    q.bare (respond s q).1 = q.bare (memory c q).1 := by
  obtain ⟨asked, rfl, rfl⟩ := hs
  exact h.alike asked q

theorem keeps_created (hs : Follows respond fresh s c) {i : String}
    {record saved got : InstanceRecord} {read written reread : σ}
    (hread : respond s (.getInstance i) = (.ok record, read)) (hid : saved.id = i)
    (hsaved : respond read (.saveInstance saved) = (.ok (), written))
    (hreread : respond written (.getInstance i) = (.ok got, reread)) :
    got.createdAt = record.createdAt := by
  obtain ⟨asked, rfl, rfl⟩ := hs
  exact h.kept asked i record saved got read written hread hid hsaved (by rw [hreread])

/-- What is refused in memory is refused, and with the same error. -/
theorem refuses (hs : Follows respond fresh s c) {e : Store.Error}
    (hc : memory c q = (.error e, c')) :
    ∃ s', respond s q = (.error e, s') ∧ Follows respond fresh s' c' := by
  have halike := h.alike_of_follows hs q
  have hnext := hs.next q
  rw [hc] at halike hnext
  rw [Store.Request.bare_error] at halike
  exact ⟨_, Prod.ext (Store.Request.eq_error_of_bare halike) rfl, hnext⟩

/-- What is answered in memory is answered, and with the same but for the times. -/
theorem answers (hs : Follows respond fresh s c) {a : q.Answer} (hc : memory c q = (.ok a, c')) :
    ∃ b s', respond s q = (.ok b, s') ∧ q.bare (.ok b) = q.bare (.ok a) ∧ Stamped q (.ok b) ∧
      Follows respond fresh s' c' := by
  have halike := h.alike_of_follows hs q
  have hnext := hs.next q
  have hstamped : Stamped q (respond s q).1 := by
    obtain ⟨asked, rfl, rfl⟩ := hs
    exact h.stamped asked q
  rw [hc] at halike hnext
  obtain ⟨b, hb⟩ := Store.Request.eq_ok_of_bare halike
  rw [hb] at halike hstamped
  exact ⟨b, _, Prod.ext hb rfl, halike, hstamped, hnext⟩

theorem reads_instance (hs : Follows respond fresh s c) {i : String} {record : InstanceRecord}
    (hc : memory c (.getInstance i) = (.ok record, c')) :
    ∃ created updated s', created ≠ "" ∧ updated ≠ "" ∧
      respond s (.getInstance i) =
        (.ok { record with createdAt := created, updatedAt := updated }, s') ∧
      Follows respond fresh s' c' := by
  obtain ⟨got, s', hreply, hbare, ⟨hcreated, hupdated⟩, hs'⟩ := h.answers hs hc
  have hgot := InstanceRecord.eq_restamped (Except.ok.inj hbare)
  refine ⟨got.createdAt, got.updatedAt, s', hcreated, hupdated, ?_, hs'⟩
  rw [← hgot]
  exact hreply

theorem reads_binding (hs : Follows respond fresh s c) {i b : String} {record : BindingRecord}
    (hc : memory c (.getBinding i b) = (.ok record, c')) :
    ∃ created s', created ≠ "" ∧
      respond s (.getBinding i b) = (.ok { record with createdAt := created }, s') ∧
      Follows respond fresh s' c' := by
  obtain ⟨got, s', hreply, hbare, hcreated, hs'⟩ := h.answers hs hc
  have hgot := BindingRecord.eq_restamped (Except.ok.inj hbare)
  refine ⟨got.createdAt, s', hcreated, ?_, hs'⟩
  rw [← hgot]
  exact hreply

theorem reads_request (hs : Follows respond fresh s c) {i : String} {record : RequestRecord}
    (hc : memory c (.getRequest i) = (.ok record, c')) :
    ∃ updated s', updated ≠ "" ∧
      respond s (.getRequest i) = (.ok { record with updatedAt := updated }, s') ∧
      Follows respond fresh s' c' := by
  obtain ⟨got, s', hreply, hbare, hupdated, hs'⟩ := h.answers hs hc
  have hgot := RequestRecord.eq_restamped (Except.ok.inj hbare)
  refine ⟨got.updatedAt, s', hupdated, ?_, hs'⟩
  rw [← hgot]
  exact hreply

end Conforms

/-! ### Trials that pass -/

/-- A trial ends well when it is run from a state of a backend. -/
def Passes {α : Type} (respond : Backend σ) (s : σ) (trial : Trial α) : Prop :=
  ∃ a, (trial.run respond s).1 = .ok a

section Passes

variable {α : Type} {f : Store.Error → String}

theorem Passes.done (respond : Backend σ) (s : σ) (a : α) :
    Passes respond s (.done (.ok a)) :=
  ⟨a, rfl⟩

theorem Passes.request_bind {next : q.Reply → Trial α} {reply : q.Reply} {s' : σ}
    (hreply : respond s q = (reply, s')) (hnext : Passes respond s' (next reply)) :
    Passes respond s (Trial.request q >>= next) := by
  obtain ⟨a, ha⟩ := hnext
  refine ⟨a, ?_⟩
  show (Program.run respond (next (respond s q).1) (respond s q).2).1 = .ok a
  rw [hreply]
  exact ha

theorem Passes.need_bind {next : q.Answer → Trial α} {a : q.Answer} {s' : σ}
    (hreply : respond s q = (.ok a, s')) (hnext : Passes respond s' (next a)) :
    Passes respond s ((Trial.request q >>= fun reply ↦ Program.orFail f reply) >>= next) := by
  have hgoes : Passes respond s
      (Trial.request q >>= fun reply ↦ Program.orFail f reply >>= next) :=
    .request_bind hreply hnext
  exact hgoes

theorem Passes.failIf_bind {condition : Bool} {reason : String} {next : Unit → Trial α}
    (hcondition : condition = false) (hnext : Passes respond s (next ())) :
    Passes respond s (Trial.failIf condition reason >>= next) := by
  subst hcondition
  exact hnext

theorem Passes.failIf {condition : Bool} {reason : String} (hcondition : condition = false) :
    Passes respond s (Trial.failIf condition reason) := by
  subst hcondition
  exact .done respond s ()

namespace Conforms

variable (h : Conforms respond fresh) (hs : Follows respond fresh s c)
include h hs

/-- What is answered in memory may be needed. It is the same if there is no time in it. -/
theorem need {next : q.Answer → Trial α} {a : q.Answer} (hplain : ∀ reply, q.bare reply = reply)
    (hc : memory c q = (.ok a, c'))
    (hnext : ∀ s', respond s q = (.ok a, s') → Follows respond fresh s' c' →
      Passes respond s' (next a)) :
    Passes respond s ((Trial.request q >>= fun reply ↦ Program.orFail f reply) >>= next) := by
  obtain ⟨b, s', hreply, hbare, -, hs'⟩ := h.answers hs hc
  rw [hplain, hplain] at hbare
  obtain rfl := Except.ok.inj hbare
  exact .need_bind hreply (hnext s' hreply hs')

theorem needLast {a : q.Answer} (hc : memory c q = (.ok a, c')) :
    Passes respond s (Trial.request q >>= fun reply ↦ Program.orFail f reply) := by
  obtain ⟨b, s', hreply, hbare, -, hs'⟩ := h.answers hs hc
  exact .request_bind hreply (.done respond s' b)

theorem needInstance {i : String} {record : InstanceRecord} {next : InstanceRecord → Trial α}
    (hc : memory c (.getInstance i) = (.ok record, c'))
    (hnext : ∀ created updated s', created ≠ "" → updated ≠ "" →
      respond s (.getInstance i) =
        (.ok { record with createdAt := created, updatedAt := updated }, s') →
      Follows respond fresh s' c' →
      Passes respond s' (next { record with createdAt := created, updatedAt := updated })) :
    Passes respond s
      ((Trial.request (.getInstance i) >>= fun reply ↦ Program.orFail f reply) >>= next) := by
  obtain ⟨created, updated, s', hcreated, hupdated, hreply, hs'⟩ := h.reads_instance hs hc
  exact .need_bind hreply (hnext created updated s' hcreated hupdated hreply hs')

theorem needBinding {i b : String} {record : BindingRecord} {next : BindingRecord → Trial α}
    (hc : memory c (.getBinding i b) = (.ok record, c'))
    (hnext : ∀ created s', created ≠ "" → Follows respond fresh s' c' →
      Passes respond s' (next { record with createdAt := created })) :
    Passes respond s
      ((Trial.request (.getBinding i b) >>= fun reply ↦ Program.orFail f reply) >>= next) := by
  obtain ⟨created, s', hcreated, hreply, hs'⟩ := h.reads_binding hs hc
  exact .need_bind hreply (hnext created s' hcreated hs')

theorem needRequest {i : String} {record : RequestRecord} {next : RequestRecord → Trial α}
    (hc : memory c (.getRequest i) = (.ok record, c'))
    (hnext : ∀ updated s', updated ≠ "" → Follows respond fresh s' c' →
      Passes respond s' (next { record with updatedAt := updated })) :
    Passes respond s
      ((Trial.request (.getRequest i) >>= fun reply ↦ Program.orFail f reply) >>= next) := by
  obtain ⟨updated, s', hupdated, hreply, hs'⟩ := h.reads_request hs hc
  exact .need_bind hreply (hnext updated s' hupdated hs')

/-- What is refused in memory may be expected to be refused so. -/
theorem refused {next : q.Reply → Trial α} {e : Store.Error} (hc : memory c q = (.error e, c'))
    (hnext : ∀ s', Follows respond fresh s' c' → Passes respond s' (next (.error e))) :
    Passes respond s (Trial.request q >>= next) := by
  obtain ⟨s', hreply, hs'⟩ := h.refuses hs hc
  exact .request_bind hreply (hnext s' hs')

end Conforms

end Passes

end Conformance

end Brokerage
