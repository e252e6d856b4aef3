import Brokerage.Proofs.Account
import Brokerage.Proofs.Serving

/-!
Calls that do not look at the times in the records they read. Two calls are alike that ask the
same, as far as it is not about times, and go on alike when they are told the same, as far as it is
not about times. Served by a broker without a vault, each call is alike to itself: it asks only
about its own instance, and what it reads of the times it only writes back or passes on. So calls
that are alike return the same beside stores that have one account of their instance, and leave
them so.
-/

set_option autoImplicit false

namespace Brokerage

/-! ### What a provider tells in one call -/

namespace Provider

/-- What a provider that means to succeed has to tell: asked to refresh a record, nothing but the
details it found. -/
abbrev Request.Told : Request → Type
  | .provision _ _ => Outcome Json
  | .update _ _ => Outcome Unit
  | .deprovision _ _ _ => Outcome Unit
  | .bind _ _ => Json
  | .buildCredentials _ _ _ => Binding
  | .unbind _ _ _ => Unit
  | .poll _ _ => Bool
  | .refresh _ _ => String

/-- What a provider tells in a call, whatever it is asked there. -/
def Script := (q : Request) → Except Error q.Told

/-- Answers as scripted, without a look at the times in a record. A record that is refreshed gets
other details and stays as it is in everything else. -/
def Script.answer (script : Script) : (q : Request) → q.Reply
  | .provision s vars => script (.provision s vars)
  | .update s vars => script (.update s vars)
  | .deprovision s record details => script (.deprovision s record.unstamped details)
  | .bind s vars => script (.bind s vars)
  | .buildCredentials s binding record =>
    script (.buildCredentials s binding.unstamped record.unstamped)
  | .unbind s record binding => script (.unbind s record.unstamped binding.unstamped)
  | .poll s record => script (.poll s record.unstamped)
  | .refresh s record =>
    (script (.refresh s record.unstamped)).map fun details ↦
      { record with otherDetails := details }

end Provider

/-! ### Worlds alike to an instance -/

/-- Two worlds with one account of an instance, and with every record under its own ids. -/
structure World.Alike (i : String) (w v : World) : Prop where
  left : w.store.Keyed
  right : v.store.Keyed
  account : w.store.accountOf i = v.store.accountOf i

theorem World.Alike.rfl {i : String} {w : World} (hw : w.store.Keyed) : w.Alike i w :=
  ⟨hw, hw, Eq.refl _⟩

theorem World.Alike.trans {i : String} {u v w : World} (huv : u.Alike i v) (hvw : v.Alike i w) :
    u.Alike i w :=
  ⟨huv.left, hvw.right, huv.account.trans hvw.account⟩

theorem World.keyed_respond {w : World} (hw : w.store.Keyed) (now : String)
    (provider : (q : Provider.Request) → q.Reply) (question : Action) :
    (w.respond now provider question).2.store.Keyed := by
  have hallows : (Setting.faithful provider).Allows w
      ⟨question, (w.respond now provider question).1⟩ (w.respond now provider question).2 :=
    Broker.allows_of_respond now provider (Eq.refl _)
  exact hallows.keyed hw

/-- A reply with an instance in it has that of the id that was asked for. -/
def Store.Request.Keyed : (q : Store.Request) → q.Reply → Prop
  | .getInstance i, .ok record => record.id = i
  | _, _ => True

theorem Store.keyed_answer {s : Store} (hs : s.Keyed) (now : String) (q : Store.Request) :
    q.Keyed (s.answer now q).1 := by
  cases q with
  | getInstance i =>
    show Request.Keyed (.getInstance i) (s.getInstance i)
    cases h : s.instances.get? i with
    | none =>
      rw [getInstance, h]
      trivial
    | some record =>
      rw [getInstance, h]
      exact hs.instances i record h
  | _ => trivial

/-- Replies that are the same but for the times are two refusals of one kind or two answers. -/
theorem refused_or_answered_of_map_eq {ρ α β : Type} {f : α → β} {x y : Except ρ α}
    (h : x.map f = y.map f) :
    (∃ e, x = .error e ∧ y = .error e) ∨ ∃ a b, x = .ok a ∧ y = .ok b ∧ f a = f b := by
  cases x with
  | error e =>
    cases y with
    | error e' =>
      cases h
      exact .inl ⟨e, rfl, rfl⟩
    | ok b => cases h
  | ok a =>
    cases y with
    | error e => cases h
    | ok b => exact .inr ⟨a, b, rfl, rfl, Except.ok.inj h⟩

/-! ### Calls alike -/

namespace Call

/-- Two calls that ask alike about one instance and go on alike, to results of the given kind, when
told alike. -/
inductive Alike (i : String) (script : Provider.Script) {α : Type} (R : α → α → Prop) :
    Call α → Call α → Prop
  | done {x y : α} (h : R x y) : Alike i script R (.done (.ok x)) (.done (.ok y))
  | failed (e : BrokerError) : Alike i script R (.done (.error e)) (.done (.error e))
  | store {q : Store.Request} {next other : q.Reply → Call α} (hq : q.instanceId = i)
    (h : ∀ x y, q.bare x = q.bare y → q.Keyed x → Alike i script R (next x) (other y)) :
    Alike i script R (.ask (.store q) next) (.ask (.store q) other)
  | save {record record' : InstanceRecord} {next other : Except Store.Error Unit → Call α}
    (hid : record.id = i) (hrecord : record.unstamped = record'.unstamped)
    (h : ∀ reply, Alike i script R (next reply) (other reply)) :
    Alike i script R (.ask (.store (.saveInstance record)) next)
      (.ask (.store (.saveInstance record')) other)
  | provider {q q' : Provider.Request} {next : q.Reply → Call α} {other : q'.Reply → Call α}
    (h : Alike i script R (next (script.answer q)) (other (script.answer q'))) :
    Alike i script R (.ask (.provider q) next) (.ask (.provider q') other)

namespace Alike

variable {i : String} {script : Provider.Script} {α β : Type} {R : α → α → Prop}
  {S : β → β → Prop}

/-- Calls that are alike stay so when told one reply each from worlds that are alike, at any
times, and leave the worlds alike. -/
theorem respond {q q' : Action} {next : q.Reply → Call α} {other : q'.Reply → Call α}
    {w v : World} (h : Alike i script R (.ask q next) (.ask q' other)) (hw : w.Alike i v)
    (now later : String) :
    Alike i script R (next (w.respond now script.answer q).1)
        (other (v.respond later script.answer q').1) ∧
      (w.respond now script.answer q).2.Alike i (v.respond later script.answer q').2 := by
  have hleft := World.keyed_respond hw.left now script.answer q
  have hright := World.keyed_respond hw.right later script.answer q'
  cases h with
  | @store q _ _ hq h =>
    obtain ⟨hreply, haccount⟩ := Store.answer_alike hw.account now later hq
    exact ⟨h _ _ hreply (Store.keyed_answer hw.left now q), hleft, hright, haccount⟩
  | @save record record' _ other hid hrecord h =>
    obtain ⟨hreply, haccount⟩ := Store.answer_save_alike hw.account now later hid hrecord
    refine ⟨?_, hleft, hright, haccount⟩
    show Alike i script R _ (other (v.store.answer later (.saveInstance record')).1)
    rw [← hreply]
    exact h _
  | provider h => exact ⟨h, hleft, hright, hw.account⟩

/-- A call leaves the account of another instance as it was. -/
theorem account_respond {q : Action} {next : q.Reply → Call α} {other : Call α}
    (h : Alike i script R (.ask q next) other) {j : String} (hj : j ≠ i) (w : World)
    (now : String) :
    (w.respond now script.answer q).2.store.accountOf j = w.store.accountOf j := by
  have hframe {q : Store.Request} (hq : q.instanceId = i) :
      (w.store.answer now q).2.accountOf j = w.store.accountOf j := by
    have hanswers : w.store.Answers (fun _ ↦ False) q (w.store.answer now q).1
        (w.store.answer now q).2 := .inl ⟨now, rfl⟩
    exact hanswers.accountOf_eq (hq ▸ hj.symm)
  cases h with
  | store hq h => exact hframe hq
  | @save record _ _ _ hid hrecord h => exact hframe (q := .saveInstance record) hid
  | provider h => rfl

/-- Calls that are alike return the same from worlds that are alike, and leave them alike. -/
theorem run {p p' : Call α} (h : Alike i script Eq p p') {w v : World} (hw : w.Alike i v)
    (now later : String) :
    (p.run (World.respond now script.answer) w).1 =
        (p'.run (World.respond later script.answer) v).1 ∧
      (p.run (World.respond now script.answer) w).2.Alike i
        (p'.run (World.respond later script.answer) v).2 := by
  induction p generalizing p' w v with
  | done result =>
    cases h with
    | done hxy => exact ⟨congrArg Except.ok hxy, hw⟩
    | failed e => exact ⟨rfl, hw⟩
  | ask q next ih =>
    cases p' with
    | done result => cases h
    | ask q' other =>
      obtain ⟨hnext, hafter⟩ := h.respond hw now later
      exact ih _ hnext hafter

/-! ### Sequences of calls -/

theorem bind {p p' : Call α} {f f' : α → Call β} (h : Alike i script R p p')
    (hf : ∀ x y, R x y → Alike i script S (f x) (f' y)) :
    Alike i script S (p >>= f) (p' >>= f') := by
  induction h with
  | done hxy => exact hf _ _ hxy
  | failed e => exact .failed e
  | store hq h ih => exact .store hq fun x y hxy hx ↦ ih x y hxy hx
  | save hid hrecord h ih => exact .save hid hrecord ih
  | provider h ih => exact .provider ih

theorem andThen {p p' : Call α} {f f' : α → Call β} (h : Alike i script Eq p p')
    (hf : ∀ x, Alike i script S (f x) (f' x)) : Alike i script S (p >>= f) (p' >>= f') := by
  refine h.bind fun x y hxy ↦ ?_
  subst hxy
  exact hf x

/-- Both go on after a check that depends on nothing they read. -/
theorem checked {r : Except BrokerError α} {f f' : α → Call β}
    (hf : ∀ x, r = .ok x → Alike i script S (f x) (f' x)) :
    Alike i script S (Program.ofExcept r >>= f) (Program.ofExcept r >>= f') := by
  cases r with
  | error e => exact .failed e
  | ok x => exact hf x rfl

theorem orFail {ρ : Type} (wrap : ρ → BrokerError) (r : Except ρ α) :
    Alike i script Eq (Program.orFail wrap r) (Program.orFail wrap r) := by
  cases r with
  | error e => exact .failed (wrap e)
  | ok x => exact .done rfl

/-- Both go on when a request is granted, and fail in one way when it is refused. -/
theorem granted {ρ : Type} {wrap : ρ → BrokerError} {p p' : Call (Except ρ α)} {f f' : α → Call β}
    (h : Alike i script Eq p p') (hf : ∀ x, Alike i script S (f x) (f' x)) :
    Alike i script S (p >>= fun reply ↦ Program.orFail wrap reply >>= f)
      (p' >>= fun reply ↦ Program.orFail wrap reply >>= f') :=
  h.andThen fun reply ↦ (orFail wrap reply).andThen hf

theorem refuseIf {condition : Bool} {e : BrokerError} {f f' : Unit → Call β}
    (hf : Alike i script S (f ()) (f' ())) :
    Alike i script S (Program.refuseIf condition e >>= f)
      (Program.refuseIf condition e >>= f') := by
  cases condition with
  | true => exact .failed e
  | false => exact hf

/-- A request of which the reply has no times in it. -/
theorem ask {q : Store.Request} (hq : q.instanceId = i) (hbare : ∀ x, q.bare x = x) :
    Alike i script Eq (Call.store q) (Call.store q) := by
  refine .store hq fun x y hxy _ ↦ ?_
  rw [hbare, hbare] at hxy
  exact .done hxy

theorem saved {record other : InstanceRecord} (hid : record.id = i)
    (hrecord : record.unstamped = other.unstamped) :
    Alike i script Eq (Call.store (.saveInstance record)) (Call.store (.saveInstance other)) :=
  .save hid hrecord fun _ ↦ .done rfl

end Alike

end Call

/-! ### The calls of a broker -/

namespace Broker

open Call

variable {broker : Broker} {i : String} {script : Provider.Script}

/-- Records of one instance, alike but for the times. -/
def SameInstance (i : String) (record other : InstanceRecord) : Prop :=
  record.id = i ∧ ∃ created updated,
    other = { record with createdAt := created, updatedAt := updated }

theorem alike_getInstance {α : Type} {R : α → α → Prop}
    {f f' : Except Store.Error InstanceRecord → Call α}
    (herror : ∀ e, Alike i script R (f (.error e)) (f' (.error e)))
    (hok : ∀ record other, SameInstance i record other →
      Alike i script R (f (.ok record)) (f' (.ok other))) :
    Alike i script R (Call.store (.getInstance i) >>= f)
      (Call.store (.getInstance i) >>= f') := by
  refine .store rfl fun x y hxy hid ↦ ?_
  rcases refused_or_answered_of_map_eq hxy with ⟨e, rfl, rfl⟩ | ⟨record, other, rfl, rfl, hsame⟩
  · exact herror e
  · exact hok record other ⟨hid, _, _, (InstanceRecord.restamp_of_unstamped_eq hsame).symm⟩

theorem alike_loadInstance : Alike i script (SameInstance i) (loadInstance i) (loadInstance i) :=
  alike_getInstance (fun _ ↦ .failed _) fun _ _ hsame ↦ .done hsame

theorem alike_recordInstance {record : InstanceRecord} (hid : record.id = i) :
    Alike i script Eq (recordInstance record) (recordInstance record) := by
  refine .andThen (.ask hid fun _ ↦ rfl) fun reply ↦ ?_
  cases reply with
  | error e => exact .failed _
  | ok _ => exact .done rfl

theorem alike_provision (details : ProvisionDetails) (acceptsIncomplete : Bool) :
    Alike i script Eq (broker.provision i details acceptsIncomplete)
      (broker.provision i details acceptsIncomplete) := by
  refine .granted (.ask rfl fun _ ↦ rfl) fun taken ↦ ?_
  refine .refuseIf ?_
  refine .checked fun (service, plan) _ ↦ ?_
  refine .refuseIf ?_
  refine .checked fun _ _ ↦ ?_
  refine .checked fun vars _ ↦ ?_
  refine .granted (.provider (.done rfl)) fun outcome ↦ ?_
  refine .andThen (alike_recordInstance rfl) fun _ ↦ ?_
  exact .granted (.ask rfl fun _ ↦ rfl) fun _ ↦ .done rfl

theorem alike_refuseWhilePending (pending : Option PendingOperation) :
    Alike i script Eq (refuseWhilePending i pending) (refuseWhilePending i pending) := by
  cases pending with
  | none => exact .done rfl
  | some operation => exact .failed _

theorem alike_update (details : UpdateDetails) (acceptsIncomplete : Bool) :
    Alike i script Eq (broker.update i details acceptsIncomplete)
      (broker.update i details acceptsIncomplete) := by
  refine .bind alike_loadInstance fun record other ⟨hid, created, updated, hother⟩ ↦ ?_
  subst hother
  refine .checked fun (service, plan) _ ↦ ?_
  refine .refuseIf ?_
  refine .andThen (alike_refuseWhilePending _) fun _ ↦ ?_
  refine .checked fun _ _ ↦ ?_
  refine .checked fun changes _ ↦ ?_
  refine .refuseIf ?_
  refine .checked fun vars _ ↦ ?_
  refine .granted (.provider (.done rfl)) fun outcome ↦ ?_
  refine .granted (.saved hid rfl) fun _ ↦ ?_
  exact .granted (.ask rfl fun _ ↦ rfl) fun _ ↦ .done rfl

theorem alike_deprovision (details : DeprovisionDetails) (acceptsIncomplete : Bool) :
    Alike i script Eq (broker.deprovision i details acceptsIncomplete)
      (broker.deprovision i details acceptsIncomplete) := by
  refine .bind alike_loadInstance fun record other ⟨hid, created, updated, hother⟩ ↦ ?_
  subst hother
  refine .checked fun service _ ↦ ?_
  refine .refuseIf ?_
  refine .andThen (alike_refuseWhilePending _) fun _ ↦ ?_
  refine .granted (.provider (.done rfl)) fun outcome ↦ ?_
  cases outcome with
  | completed u => exact .granted (.ask rfl fun _ ↦ rfl) fun _ ↦ .done rfl
  | pending operationId u => exact .granted (.saved hid rfl) fun _ ↦ .done rfl

theorem alike_deleteCompleted (operation : PendingOperation) :
    Alike i script Eq (deleteCompleted i operation) (deleteCompleted i operation) := by
  refine .andThen (.ask rfl fun _ ↦ rfl) fun reply ↦ ?_
  cases reply with
  | ok _ => exact .done rfl
  | error e =>
    dsimp only
    split
    · exact .done rfl
    · exact .failed _

/-- A record that is refreshed stays that of its instance, whatever details the provider tells. -/
theorem alike_refresh {α : Type} {R : α → α → Prop} (s : String) {record other : InstanceRecord}
    {f f' : Except Provider.Error InstanceRecord → Call α} (hsame : SameInstance i record other)
    (herror : ∀ e, Alike i script R (f (.error e)) (f' (.error e)))
    (hok : ∀ record other, SameInstance i record other →
      Alike i script R (f (.ok record)) (f' (.ok other))) :
    Alike i script R (Call.provider (.refresh s record) >>= f)
      (Call.provider (.refresh s other) >>= f') := by
  obtain ⟨hid, created, updated, rfl⟩ := hsame
  refine .provider ?_
  show Alike i script R (f ((script (.refresh s record.unstamped)).map _))
    (f' ((script (.refresh s record.unstamped)).map _))
  cases script (.refresh s record.unstamped) with
  | error e => exact herror e
  | ok details => exact hok _ _ ⟨hid, created, updated, rfl⟩

theorem alike_refreshCompleted (s : String) (operation : PendingOperation) :
    Alike i script Eq (refreshCompleted s i operation) (refreshCompleted s i operation) := by
  refine alike_getInstance (fun _ ↦ .failed _) fun record other hsame ↦ ?_
  simp only [Program.orFail_ok, Program.ok_bind]
  refine alike_refresh s hsame (fun _ ↦ .failed _) fun refreshed other hrefreshed ↦ ?_
  obtain ⟨hid, created, updated, rfl⟩ := hrefreshed
  simp only [Program.orFail_ok, Program.ok_bind]
  exact .andThen (.saved hid rfl) fun reply ↦ .orFail _ reply

theorem alike_complete (s : String) (operation : PendingOperation) :
    Alike i script Eq (complete s i operation) (complete s i operation) := by
  unfold complete
  split
  · exact alike_deleteCompleted operation
  · exact alike_refreshCompleted s operation

theorem alike_pollPending (service : RegisteredService) {record other : InstanceRecord}
    (hsame : SameInstance i record other) (operation : PendingOperation) :
    Alike i script Eq (pollPending service i record operation)
      (pollPending service i other operation) := by
  obtain ⟨-, created, updated, rfl⟩ := hsame
  refine .andThen (.provider (.done rfl)) fun reply ↦ ?_
  match reply with
  | .error e => exact .done rfl
  | .ok false => exact .done rfl
  | .ok true => exact .andThen (alike_complete _ operation) fun _ ↦ .done rfl

theorem alike_lastOperation (details : PollDetails) :
    Alike i script Eq (broker.lastOperation i details) (broker.lastOperation i details) := by
  refine .bind alike_loadInstance fun record other hsame ↦ ?_
  have hpending : other.operation = record.operation := by
    obtain ⟨-, created, updated, rfl⟩ := hsame
    rfl
  have hservice : other.serviceId = record.serviceId := by
    obtain ⟨-, created, updated, rfl⟩ := hsame
    rfl
  simp only [hpending, hservice]
  refine .checked fun service _ ↦ ?_
  refine .refuseIf ?_
  cases record.operation with
  | none => exact .done rfl
  | some operation => exact alike_pollPending service hsame operation

theorem alike_loadBinding (b : String) :
    Alike i script (fun binding other ↦ ∃ created, other = { binding with createdAt := created })
      (loadBinding i b) (loadBinding i b) := by
  refine .store rfl fun x y hxy _ ↦ ?_
  rcases refused_or_answered_of_map_eq hxy with ⟨e, rfl, rfl⟩ | ⟨binding, other, rfl, rfl, hsame⟩
  · exact .failed _
  · exact .done ⟨_, (BindingRecord.restamp_of_unstamped_eq hsame).symm⟩

theorem alike_recordBinding {record : BindingRecord} (hid : record.instanceId = i) :
    Alike i script Eq (recordBinding record) (recordBinding record) := by
  refine .andThen (.ask hid fun _ ↦ rfl) fun reply ↦ ?_
  cases reply with
  | error e => exact .failed _
  | ok _ => exact .done rfl

theorem alike_bind (hvault : broker.hasVault = false) (b : String) (details : BindDetails) :
    Alike i script Eq (broker.bind i b details) (broker.bind i b details) := by
  refine .granted (.ask rfl fun _ ↦ rfl) fun taken ↦ ?_
  refine .refuseIf ?_
  refine .bind alike_loadInstance fun record other ⟨hid, created, updated, hother⟩ ↦ ?_
  subst hother
  refine .checked fun (service, plan) _ ↦ ?_
  refine .checked fun _ _ ↦ ?_
  refine .checked fun reader hreader ↦ ?_
  refine .checked fun vars _ ↦ ?_
  refine .granted (.provider (.done rfl)) fun issued ↦ ?_
  refine .andThen (alike_recordBinding rfl) fun _ ↦ ?_
  refine .granted (.provider (.done rfl)) fun binding ↦ ?_
  -- without a vault the credentials are handed to nobody but the caller
  simp only [vaultReader, hvault, Bool.false_eq_true, if_false, Except.ok.injEq] at hreader
  subst hreader
  exact .done rfl

theorem alike_unbind (hvault : broker.hasVault = false) (b : String) (details : UnbindDetails) :
    Alike i script Eq (broker.unbind i b details) (broker.unbind i b details) := by
  refine .bind (alike_loadBinding b) fun binding other ⟨created, hother⟩ ↦ ?_
  subst hother
  refine .bind alike_loadInstance fun record other ⟨hid, created, updated, hother⟩ ↦ ?_
  subst hother
  refine .checked fun service _ ↦ ?_
  simp only [hvault]
  refine .granted (.provider (.done rfl)) fun _ ↦ ?_
  exact .andThen (.ask rfl fun _ ↦ rfl) fun reply ↦ .orFail _ reply

/-- Without a vault, each call of a broker that is made for an instance is alike to itself: it asks
about that instance only, and the times it reads change neither what it asks nor what it returns. -/
theorem alike_serve (hvault : broker.hasVault = false) {request : Request}
    (hrequest : request.subject.instanceId = i) :
    Alike i script Eq (broker.serve request) (broker.serve request) := by
  cases request <;> cases hrequest
  case provision details acceptsIncomplete => exact alike_provision details acceptsIncomplete
  case update details acceptsIncomplete => exact alike_update details acceptsIncomplete
  case deprovision details acceptsIncomplete => exact alike_deprovision details acceptsIncomplete
  case lastOperation details => exact alike_lastOperation details
  case bind b details => exact alike_bind hvault b details
  case unbind b details => exact alike_unbind hvault b details

end Broker

end Brokerage
