import Brokerage.Proofs.Atomicity
import Brokerage.Proofs.Recovery
import Mathlib.Data.List.Induction

/-!
Deletions that come too late. A deprovision that is done at once and an unbind delete the record
last, when the provider has been told already. What others do meanwhile can have deleted it before:
then the call is told that there is no record, and reports that the broker still lists it. With a
store that does not fail this is the only way to that report, so that what it says is never true.
-/

set_option autoImplicit false

namespace Brokerage

/-! ### What is deleted -/

/-- The deletion of a record, and what the store replies. -/
def Subject.deleting : Subject → Except Store.Error Unit → Exchange Action.Reply
  | .instance i, reply => .store (.deleteInstance i) reply
  | .binding i b, reply => .store (.deleteBinding i b) reply

/-- What the store says of a record that is not there. -/
def Subject.missing : Subject → Store.Error
  | .instance i => .instanceNotFound i
  | .binding i b => .bindingNotFound i b

/-- What the record is of that an exchange has found. -/
def Exchange.found? : Exchange Action.Reply → Option Subject
  | ⟨.store (.getInstance i), .ok _⟩ => some (.instance i)
  | ⟨.store (.getBinding i b), .ok _⟩ => some (.binding i b)
  | _ => none

/-- A provider says that an instance is gone, or the credentials of a binding. -/
def Exchange.revokes : Exchange Action.Reply → Bool
  | ⟨.provider (.deprovision _ _ _), .ok (.completed _)⟩ => true
  | ⟨.provider (.unbind _ _ _), .ok _⟩ => true
  | _ => false

namespace Setting

variable {setting : Setting} {w w' : World} {subject : Subject}

theorem Allows.has_of_found {x : Exchange Action.Reply} (h : setting.Allows w x w')
    (hfound : x.found? = some subject) : w'.store.Has subject := by
  obtain ⟨question, reply⟩ := x
  cases question with
  | store q =>
    cases reply with
    | error e => cases q <;> cases hfound
    | ok answer =>
      cases q with
      | getInstance i =>
        cases hfound
        rw [h.answers.of_read rfl]
        exact ⟨_, h.answers.getInstance_ok⟩
      | getBinding i b =>
        cases hfound
        rw [h.answers.of_read rfl]
        exact ⟨_, h.answers.getBinding_ok⟩
      | _ => cases hfound
  | vault q => cases hfound
  | provider q => cases hfound

/-- A store that does not fail deletes a record that is there, and says of one that is not that it
is missing. -/
theorem Allows.deleting_cases {reply : Except Store.Error Unit}
    (h : setting.Allows w (subject.deleting reply) w') (hhealthy : ∀ e, ¬ setting.storeFails e) :
    reply = .ok () ∧ w.store.Has subject ∨
      reply = .error subject.missing ∧ ¬ w.store.Has subject := by
  cases subject with
  | «instance» i =>
    cases reply with
    | ok _ => exact .inl ⟨rfl, h.answers.deleteInstance_ok.1⟩
    | error e =>
      obtain ⟨habsent, rfl⟩ := h.answers.deleteInstance_refused.resolve_left (hhealthy e)
      exact .inr ⟨rfl, Store.not_has_instance_iff.2 habsent⟩
  | binding i b =>
    cases reply with
    | ok _ => exact .inl ⟨rfl, h.answers.deleteBinding_ok.1⟩
    | error e =>
      obtain ⟨habsent, rfl⟩ := h.answers.deleteBinding_refused.resolve_left (hhealthy e)
      exact .inr ⟨rfl, Store.not_has_binding_iff.2 habsent⟩

theorem Allows.absent_of_deleting (h : setting.Allows w (subject.deleting (.ok ())) w') :
    ¬ w'.store.Has subject := by
  cases subject with
  | «instance» i => exact Store.not_has_instance_iff.2 h.answers.instance_of_deleteInstance
  | binding i b => exact Store.not_has_binding_iff.2 h.answers.binding_of_deleteBinding

/-- A record is lost only by being deleted. -/
theorem Allows.deleting_of_lost {x : Exchange Action.Reply} (h : setting.Allows w x w')
    (hhas : w.store.Has subject) (hlost : ¬ w'.store.Has subject) :
    x = subject.deleting (.ok ()) := by
  have hwritten : x.written? = some subject := by
    by_contra hunwritten
    exact hlost ((h.sameRecord_of_written hunwritten).has_iff.2 hhas)
  obtain ⟨question, reply⟩ := x
  cases question with
  | store q =>
    cases reply with
    | error e => cases hwritten
    | ok answer =>
      cases q with
      | deleteInstance i | deleteBinding i b =>
        cases hwritten
        rfl
      | saveInstance record =>
        cases hwritten
        obtain ⟨created, now, hsaved⟩ := h.answers.instance_of_saveInstance
        exact absurd ⟨_, hsaved⟩ hlost
      | createInstance | createBinding =>
        exact absurd (h.created hwritten).2 hlost
      | _ => cases hwritten
  | vault q => cases hwritten
  | provider q => cases hwritten

end Setting

/-! ### A call and what is done beside it -/

/-- An exchange of a call, or one of others beside it. -/
structure Turn where
  own : Bool
  exchange : Exchange Action.Reply

/-- What a call itself asks, and what it is told. -/
def ownTurns (turns : List Turn) : Dialogue :=
  (turns.filter Turn.own).map Turn.exchange

/-- A turn is taken in a world, which is left as the answer given leaves it. -/
def Setting.Takes (setting : Setting) (w : World) (turn : Turn) (w' : World) : Prop :=
  setting.Allows w turn.exchange w'

theorem ownTurns_append (first second : List Turn) :
    ownTurns (first ++ second) = ownTurns first ++ ownTurns second := by
  simp [ownTurns]

/-- Where a call asks something, it does so in a turn of its own. -/
theorem split_of_ownTurns {turns : List Turn} {x : Exchange Action.Reply} {early late : Dialogue}
    (h : ownTurns turns = early ++ x :: late) :
    ∃ before after, turns = before ++ ⟨true, x⟩ :: after ∧ ownTurns before = early ∧
      ownTurns after = late := by
  obtain ⟨first, second, hfilter, hfirst, hsecond⟩ := List.map_eq_append_iff.1 h
  obtain ⟨⟨own, exchange⟩, rest, rfl, rfl, hrest⟩ := List.map_eq_cons_iff.1 hsecond
  obtain ⟨before, tail, rfl, hbefore, htail⟩ := List.filter_eq_append_iff.1 hfilter
  obtain ⟨between, after, rfl, hbetween, howner, hafter⟩ := List.filter_eq_cons_iff.1 htail
  obtain rfl : own = true := howner
  refine ⟨before ++ between, after, by simp, ?_, ?_⟩
  · rw [ownTurns_append, ownTurns, hbefore, hfirst, ownTurns,
      List.filter_eq_nil_iff.2 hbetween, List.map_nil, List.append_nil]
  · rw [ownTurns, hafter, hrest]

/-- Others have deleted a record, and it has not been created anew since. -/
def LostToOthers (subject : Subject) (turns : List Turn) : Prop :=
  ∃ early late, turns = early ++ ⟨false, subject.deleting (.ok ())⟩ :: late ∧
    ∀ turn ∈ late, turn.exchange.created? ≠ some subject

section Beside

variable {setting : Setting} {w w' : World} {subject : Subject} {turns : List Turn}

theorem absent_of_takes (h : Steps setting.Takes w turns w')
    (hnone : ∀ turn ∈ turns, turn.exchange.created? ≠ some subject)
    (habsent : ¬ w.store.Has subject) : ¬ w'.store.Has subject := by
  refine h.preserves (P := fun v ↦ ¬ v.store.Has subject) ?_ habsent
  intro v turn v' hturn hv hstep
  exact Setting.absent_of_steps (Steps.singleton_iff.2 hstep)
    (List.forall_mem_singleton.2 (hnone turn hturn)) hv

/-- A record that a call does not write is gone exactly if others have deleted it and it has not
been created anew since. -/
theorem absent_iff_lostToOthers (h : Steps setting.Takes w turns w') (hhas : w.store.Has subject)
    (hown : ∀ x ∈ ownTurns turns, x.written? ≠ some subject) :
    ¬ w'.store.Has subject ↔ LostToOthers subject turns := by
  constructor
  · intro habsent
    induction turns using List.reverseRecOn generalizing w' with
    | nil =>
      obtain rfl := Steps.nil_iff.1 h
      exact absurd hhas habsent
    | append_singleton turns turn ih =>
      obtain ⟨v, hbefore, hstep⟩ := Steps.concat_iff.1 h
      rw [ownTurns_append] at hown
      obtain ⟨hownBefore, hownLast⟩ := List.forall_mem_append.1 hown
      by_cases hthere : v.store.Has subject
      · -- the last turn deletes the record, so it is not one of the call
        have hdeletes := Setting.Allows.deleting_of_lost hstep hthere habsent
        obtain ⟨own, exchange⟩ := turn
        obtain rfl : exchange = _ := hdeletes
        cases own with
        | true => exact absurd (by cases subject <;> rfl) (hownLast _ (List.mem_singleton_self _))
        | false => exact ⟨turns, [], rfl, by simp⟩
      · obtain ⟨early, late, rfl, hlate⟩ := ih hbefore hownBefore hthere
        have hlast : turn.exchange.created? ≠ some subject :=
          fun hcreated ↦ habsent (Setting.Allows.created hstep hcreated).2
        exact ⟨early, late ++ [turn], by simp,
          List.forall_mem_append.2 ⟨hlate, List.forall_mem_singleton.2 hlast⟩⟩
  · rintro ⟨early, late, rfl, hlate⟩
    obtain ⟨v, -, hrest⟩ := Steps.append_iff.1 h
    obtain ⟨v', hdelete, hafter⟩ := Steps.cons_iff.1 hrest
    exact absent_of_takes hafter hlate (Setting.Allows.absent_of_deleting hdelete)

/-- A call reads a record, goes on beside others, and asks for the deletion of the record in a
world. -/
def AsksToDelete (setting : Setting) (w : World) (turns : List Turn) (subject : Subject)
    (during : List Turn) (reply : Except Store.Error Unit) (v : World) : Prop :=
  ∃ before read after,
    turns = (before ++ ⟨true, read⟩ :: during) ++ ⟨true, subject.deleting reply⟩ :: after ∧
      read.found? = some subject ∧ Steps setting.Takes w (before ++ ⟨true, read⟩ :: during) v

/-- A call that reads a record and writes nothing until it asks for the deletion does so at a moment
at which the record is gone exactly if others have deleted it. -/
theorem exists_asksToDelete (h : Steps setting.Takes w turns w')
    (hhealthy : ∀ e, ¬ setting.storeFails e) {read : Exchange Action.Reply} {told : Dialogue}
    {reply : Except Store.Error Unit}
    (hasked : ownTurns turns = read :: (told ++ [subject.deleting reply]))
    (hread : read.found? = some subject) (htold : ∀ x ∈ told, x.written? = none) :
    ∃ during v, AsksToDelete setting w turns subject during reply v ∧
      (reply = .ok () ∧ v.store.Has subject ∨
        reply = .error subject.missing ∧ ¬ v.store.Has subject) ∧
      (¬ v.store.Has subject ↔ LostToOthers subject during) := by
  have hfirst : ownTurns turns = [] ++ read :: (told ++ [subject.deleting reply]) := hasked
  obtain ⟨before, rest, rfl, -, hrest⟩ := split_of_ownTurns hfirst
  obtain ⟨during, after, rfl, hduring, -⟩ := split_of_ownTurns hrest
  obtain ⟨u, hbefore, htail⟩ := Steps.append_iff.1 h
  obtain ⟨u', hfound, htail⟩ := Steps.cons_iff.1 htail
  obtain ⟨v, hbeside, htail⟩ := Steps.append_iff.1 htail
  obtain ⟨v', hdelete, -⟩ := Steps.cons_iff.1 htail
  have hhas : u'.store.Has subject := Setting.Allows.has_of_found hfound hread
  have hunwritten : ∀ x ∈ ownTurns during, x.written? ≠ some subject := by
    rw [hduring]
    exact fun x hx hwritten ↦ Option.some_ne_none _ (hwritten.symm.trans (htold x hx))
  exact ⟨during, v, ⟨before, read, after, by simp, hread,
      Steps.append_iff.2 ⟨u, hbefore, .cons hfound hbeside⟩⟩,
    Setting.Allows.deleting_cases hdelete hhealthy, absent_iff_lostToOthers hbeside hhas hunwritten⟩

end Beside

namespace Broker

/-! ### Calls that delete a record -/

/-- What the record is of that a call deletes when it has been revoked. -/
def Request.deletes? : Request → Option Subject
  | .deprovision i _ _ => some (.instance i)
  | .unbind i b _ => some (.binding i b)
  | _ => none

/-- The report that a record could not be deleted of which all else is gone. -/
def leftListed : Subject → Store.Error → BrokerError
  | .instance _, e =>
    .orphanedResource "deprovision" "deleting the instance record" stillListed e
  | .binding _ _, e => .orphanedResource "unbind" "deleting the binding record" revokedButListed e

/-- How a call that deletes a record can go: it does not come to that, or everything else is gone
and the deletion is the last that it asks. -/
inductive RemovalCourse {α : Type} (subject : Subject) : Dialogue → Except BrokerError α → Prop
  | earlier {exchanges : Dialogue} {result : Except BrokerError α}
    (hrevokes : ∀ x ∈ exchanges, x.revokes = false)
    (hresult : ∀ e, result ≠ .error (leftListed subject e)) :
    RemovalCourse subject exchanges result
  | deleted (read : Exchange Action.Reply) (told : Dialogue) (x : α)
    (hread : read.found? = some subject) (htold : ∀ x ∈ told, x.written? = none)
    (hrevokes : ∃ x ∈ told, x.revokes = true) :
    RemovalCourse subject (read :: (told ++ [subject.deleting (.ok ())])) (.ok x)
  | undeleted (read : Exchange Action.Reply) (told : Dialogue) (e : Store.Error)
    (hread : read.found? = some subject) (htold : ∀ x ∈ told, x.written? = none)
    (hrevokes : ∃ x ∈ told, x.revokes = true) :
    RemovalCourse subject (read :: (told ++ [subject.deleting (.error e)]))
      (.error (leftListed subject e))

theorem leftListed_inj {subject : Subject} {e e' : Store.Error} :
    leftListed subject e = leftListed subject e' ↔ e = e' := by
  cases subject <;> simp [leftListed]

theorem leftListed_isPartialFailure (subject : Subject) (e : Store.Error) :
    (leftListed subject e).isPartialFailure = true := by
  cases subject <;> rfl

theorem ne_leftListed_of_whole {α : Type} {result : Except BrokerError α} (h : Whole result)
    (subject : Subject) (e : Store.Error) : result ≠ .error (leftListed subject e) := by
  intro heq
  have hpartial := h _ heq
  rw [leftListed_isPartialFailure] at hpartial
  cases hpartial

variable {broker : Broker} {i b : String} {exchanges : Dialogue}

theorem DeprovisionCourse.removalCourse {details : DeprovisionDetails} {acceptsIncomplete : Bool}
    {result : Except BrokerError OperationResponse}
    (h : DeprovisionCourse broker i details acceptsIncomplete exchanges result) :
    RemovalCourse (.instance i) exchanges result := by
  cases h with
  | unread e =>
    exact .earlier (by simp [Exchange.revokes]) (ne_leftListed_of_whole
      (whole_error_iff.2 (unreadInstance_isPartialFailure i e)) _)
  | refused hadmits =>
    exact .earlier (by simp [Exchange.revokes]) (ne_leftListed_of_whole
      ((broker.whole_admitDeprovision i _ _).of_error hadmits) _)
  | declined | unsaved =>
    exact .earlier (by simp [Exchange.revokes]) (by simp [leftListed])
  | condemned => exact .earlier (by simp [Exchange.revokes]) nofun
  | @undeleted record service hadmits e =>
    exact .undeleted _ [_] e rfl (by simp [Exchange.written?]) (by simp [Exchange.revokes])
  | @deleted record service hadmits =>
    exact .deleted _ [_] _ rfl (by simp [Exchange.written?]) (by simp [Exchange.revokes])

theorem Clearing.asks_vault {name : String} {clearing : Dialogue} {failure : Option Vault.Error}
    (h : Clearing broker name clearing failure) :
    ∀ x ∈ clearing, x.written? = none ∧ x.revokes = false := by
  cases h <;> simp [Exchange.written?, Exchange.revokes]

theorem UnbindCourse.removalCourse {result : Except BrokerError Unit}
    (h : UnbindCourse broker i b exchanges result) :
    RemovalCourse (.binding i b) exchanges result := by
  have htold {name : String} {clearing : Dialogue} (hclear : Clearing broker name clearing none)
      (record : InstanceRecord) (q : Provider.Request) (reply : q.Reply) :
      ∀ x ∈ (.store (.getInstance i) (.ok record) :: (clearing ++ [.provider q reply]) : Dialogue),
        x.written? = none := by
    refine List.forall_mem_cons.2 ⟨rfl, List.forall_mem_append.2 ⟨fun x hx ↦ ?_, ?_⟩⟩
    · exact (hclear.asks_vault x hx).1
    · exact List.forall_mem_singleton.2 rfl
  cases h with
  | unread e =>
    exact .earlier (by simp [Exchange.revokes]) (ne_leftListed_of_whole
      (whole_error_iff.2 (unreadBinding_isPartialFailure i b e)) _)
  | instanceUnread binding e =>
    exact .earlier (by simp [Exchange.revokes]) (ne_leftListed_of_whole
      (whole_error_iff.2 (unreadInstance_isPartialFailure i e)) _)
  | unresolved binding record hresolve =>
    exact .earlier (by simp [Exchange.revokes]) (ne_leftListed_of_whole
      ((broker.registry.whole_resolve _).of_error hresolve) _)
  | uncleared binding record _ hclear =>
    refine .earlier ?_ (by simp [leftListed])
    simpa [Exchange.revokes] using fun x hx ↦ (hclear.asks_vault x hx).2
  | declined binding record _ hclear e =>
    refine .earlier ?_ (by simp [leftListed])
    simpa [or_imp, forall_and, Exchange.revokes] using fun x hx ↦ (hclear.asks_vault x hx).2
  | undeleted binding record _ hclear e =>
    rw [List.append_cons]
    exact .undeleted _ (_ :: (_ ++ [_])) e rfl (htold hclear record _ _)
      (by simp [Exchange.revokes])
  | unbound binding record _ hclear =>
    rw [List.append_cons]
    exact .deleted _ (_ :: (_ ++ [_])) () rfl (htold hclear record _ _)
      (by simp [Exchange.revokes])

theorem removalCourse_of_ends {q : Request} {subject : Subject} (hq : q.deletes? = some subject)
    {result : Except BrokerError q.Answer} (h : (broker.serve q).Ends exchanges result) :
    RemovalCourse subject exchanges result := by
  cases q with
  | deprovision i details acceptsIncomplete =>
    cases hq
    exact (DeprovisionCourse.of_ends h).removalCourse
  | unbind i b details =>
    cases hq
    exact (UnbindCourse.of_ends details h).removalCourse
  | _ => cases hq

/-! ### Deletions that come too late -/

variable {setting : Setting} {w w' : World}

/-- Beside whatever others do with the store, the vault and the providers, a call that deletes a
record reports that the broker still lists it only when the provider has revoked what it is of. When
the provider has, the call asks for the deletion at a moment of which this is true: it succeeds
exactly if the record is there, it makes that report exactly if the record is not, and the record is
not there exactly if others have deleted it since the call has read it and it has not been created
anew since. Assumes: a store that does not fail. -/
theorem reported_iff_lost (hhealthy : ∀ e, ¬ setting.storeFails e) {q : Request} {subject : Subject}
    (hq : q.deletes? = some subject) {turns : List Turn} {result : Except BrokerError q.Answer}
    (hends : (broker.serve q).Ends (ownTurns turns) result)
    (hrun : Steps setting.Takes w turns w') :
    ((∃ e, result = .error (leftListed subject e)) → ∃ x ∈ ownTurns turns, x.revokes = true) ∧
    ((∃ x ∈ ownTurns turns, x.revokes = true) →
      ∃ during reply v, AsksToDelete setting w turns subject during reply v ∧
        ((∃ x, result = .ok x) ↔ v.store.Has subject) ∧
        (∀ e, result = .error (leftListed subject e) ↔
          e = subject.missing ∧ ¬ v.store.Has subject) ∧
        (¬ v.store.Has subject ↔ LostToOthers subject during)) := by
  have hcourse := removalCourse_of_ends hq hends
  generalize hasked : ownTurns turns = asked at hcourse
  cases hcourse with
  | earlier hrevokes hresult =>
    refine ⟨fun ⟨e, heq⟩ ↦ absurd heq (hresult e), ?_⟩
    rintro ⟨x, hx, hrevoked⟩
    cases (hrevokes x hx).symm.trans hrevoked
  | deleted read told x hread htold hrevokes =>
    obtain ⟨during, v, hasks, hreply, hlost⟩ :=
      exists_asksToDelete hrun hhealthy hasked hread htold
    obtain ⟨-, hhas⟩ := hreply.resolve_right nofun
    refine ⟨nofun, fun _ ↦ ⟨during, .ok (), v, hasks, ?_, fun e ↦ ?_, hlost⟩⟩
    · exact iff_of_true ⟨x, rfl⟩ hhas
    · exact iff_of_false nofun fun h ↦ h.2 hhas
  | undeleted read told e hread htold hrevokes =>
    obtain ⟨during, v, hasks, hreply, hlost⟩ :=
      exists_asksToDelete hrun hhealthy hasked hread htold
    obtain ⟨he, habsent⟩ := hreply.resolve_left nofun
    obtain rfl : e = subject.missing := Except.error.inj he
    refine ⟨fun _ ↦ ?_, fun _ ↦ ⟨during, .error subject.missing, v, hasks, ?_, fun e ↦ ?_, hlost⟩⟩
    · obtain ⟨x, hx, hrevoked⟩ := hrevokes
      exact ⟨x, by simp [hx], hrevoked⟩
    · exact iff_of_false nofun habsent
    · rw [Except.error.injEq, leftListed_inj, eq_comm]
      exact (and_iff_left habsent).symm

/-- A binding of an instance of the database service. -/
def databaseBinding : BindingRecord where
  instanceId := "i-1"
  bindingId := "b-1"
  serviceId := "db"
  otherDetails := "null"

def boundDatabase : World where
  store := { databaseWorld.store with bindings := [(("i-1", "b-1"), databaseBinding)] }

/-- An unbind during which someone else deletes the record of the binding. -/
def lateUnbind : List Turn :=
  let record : InstanceRecord := { id := "i-1", serviceId := "db", planId := "small" }
  [⟨true, .store (.getBinding "i-1" "b-1") (.ok databaseBinding)⟩,
   ⟨true, .store (.getInstance "i-1") (.ok record)⟩,
   ⟨false, .store (.deleteBinding "i-1" "b-1") (.ok ())⟩,
   ⟨true, .provider (.unbind "db" record databaseBinding) (.ok ())⟩,
   ⟨true, .store (.deleteBinding "i-1" "b-1") (.error (.bindingNotFound "i-1" "b-1"))⟩]

theorem takes_of_respond (now : String) (provider : (q : Provider.Request) → q.Reply) {turn : Turn}
    (h : w.respond now provider turn.exchange.question = (turn.exchange.reply, w')) :
    (Setting.faithful provider).Takes w turn w' :=
  allows_of_respond now provider h

theorem reported_of_lateUnbind :
    ∃ during reply v, AsksToDelete (.faithful databaseProvider) boundDatabase lateUnbind
        (.binding "i-1" "b-1") during reply v ∧
      ¬ v.store.Has (.binding "i-1" "b-1") ∧ LostToOthers (.binding "i-1" "b-1") during := by
  have hrun : Steps (Setting.faithful databaseProvider).Takes boundDatabase lateUnbind
      databaseWorld :=
    have htakes {w w' : World} {turn : Turn} := @takes_of_respond w w' "now" databaseProvider turn
    .cons (htakes rfl) (.cons (htakes rfl) (.cons (htakes rfl) (.cons (htakes rfl)
      (.cons (htakes rfl) (.nil _)))))
  have hends : ((databaseBroker false).serve
      (.unbind "i-1" "b-1" { serviceId := "db", planId := "small" })).Ends (ownTurns lateUnbind)
      (.error (leftListed (.binding "i-1" "b-1") (.bindingNotFound "i-1" "b-1"))) :=
    .ask (.ask (.ask (.ask (.here _))))
  obtain ⟨-, hmoment⟩ := reported_iff_lost (fun _ hfails ↦ hfails) rfl hends hrun
  obtain ⟨during, reply, v, hasks, -, hreported, hlost⟩ :=
    hmoment ⟨_, List.getElem_mem (n := 2) (by decide), rfl⟩
  have habsent := ((hreported _).1 rfl).2
  exact ⟨during, reply, v, hasks, habsent, hlost.1 habsent⟩

/-- The record of an instance that is provisioned at once. -/
def promptDatabase : InstanceRecord where
  id := "i-1"
  serviceId := "db"
  planId := "small"
  otherDetails := "null"
  createdAt := "now"
  updatedAt := "now"

/-- A deprovision during which someone else deletes the record of the instance. -/
def lateDeprovision : List Turn :=
  [⟨true, .store (.getInstance "i-1") (.ok promptDatabase)⟩,
   ⟨false, .store (.deleteInstance "i-1") (.ok ())⟩,
   ⟨true, .provider (.deprovision "db" promptDatabase { serviceId := "db", planId := "small" })
     (.ok (.completed ()))⟩,
   ⟨true, .store (.deleteInstance "i-1") (.error (.instanceNotFound "i-1"))⟩]

/-- A record is not always there of which a call reports that the broker still lists it, and a call
does not always succeed when others have deleted the record before it, even where nothing fails. -/
theorem not_reported_as_listed :
    ¬ ∀ (broker : Broker) (setting : Setting) (calls : List Served) (w w' v : World) (q : Request)
      (subject : Subject) (turns during : List Turn) (result : Except BrokerError q.Answer)
      (reply : Except Store.Error Unit),
      (∀ e, ¬ setting.storeFails e) → setting.VaultInMemory →
      Steps (broker.Serves setting) {} calls w → q.deletes? = some subject →
      (broker.serve q).Ends (ownTurns turns) result → Steps setting.Takes w turns w' →
      AsksToDelete setting w turns subject during reply v →
      ((∃ e, result = .error (leftListed subject e)) → v.store.Has subject) ∧
        (¬ v.store.Has subject → ∃ x, result = .ok x) := by
  intro h
  let served := (databaseBroker false).history "now" promptProvider
    [.provision "i-1" { serviceId := "db", planId := "small" } true] {}
  let lost := served.2.store.instances.remove "i-1"
  have hserved := steps_history "now" promptProvider (databaseBroker false)
    [.provision "i-1" { serviceId := "db", planId := "small" } true] {}
  have htakes {w w' : World} {turn : Turn} := @takes_of_respond w w' "now" promptProvider turn
  have hbefore : Steps (Setting.faithful promptProvider).Takes served.2 (lateDeprovision.take 3)
      ⟨{ served.2.store with instances := lost }, served.2.vault⟩ :=
    .cons (htakes rfl) (.cons (htakes rfl) (.cons (htakes rfl) (.nil _)))
  have hrun : Steps (Setting.faithful promptProvider).Takes served.2 lateDeprovision
      ⟨{ served.2.store with instances := lost }, served.2.vault⟩ :=
    Steps.concat_iff.2 ⟨_, hbefore, htakes rfl⟩
  have hends : ((databaseBroker false).serve
      (.deprovision "i-1" { serviceId := "db", planId := "small" } true)).Ends
      (ownTurns lateDeprovision)
      (.error (leftListed (.instance "i-1") (.instanceNotFound "i-1"))) :=
    .ask (.ask (.ask (.here _)))
  obtain ⟨hlisted, -⟩ := h _ _ _ _ _ _ _ (.instance "i-1") _ _ _ _ (fun _ hfails ↦ hfails)
    (fun _ _ _ _ hanswer ↦ hanswer) hserved rfl hends hrun
    ⟨[], _, [], rfl, rfl, hbefore⟩
  obtain ⟨record, hrecord⟩ := hlisted ⟨_, rfl⟩
  cases hrecord

end Broker

end Brokerage
