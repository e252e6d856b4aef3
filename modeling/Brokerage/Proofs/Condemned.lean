import Brokerage.Proofs.Course.Deprovision
import Brokerage.Proofs.Course.LastOperation
import Brokerage.Proofs.Course.Update
import Brokerage.Proofs.Pool

/-!
Whether an acknowledged deprovision is kept. Calls on one instance run beside each other in any
order. Once a deprovision has returned its token, calls that begin later leave the record to it:
they read that it is under way and are refused, or poll it and delete the record when it is done.
Only a call that was under way already and had read the record before can save over it or delete
it.
-/

set_option autoImplicit false

namespace Brokerage.Broker

/-- An update, a deprovision or a poll of an instance. -/
def Request.Manages (i : String) : Request → Prop
  | .update j _ _ | .deprovision j _ _ | .lastOperation j _ => j = i
  | _ => False

/-! ### Dialogues about a condemned instance -/

section Dialogues

variable {broker : Broker} {i token : String} {q : Request} {result : Except BrokerError q.Answer}

/-- A call that manages an instance begins by reading it, and ends if it cannot. -/
theorem reads_first {exchanges : Dialogue} (hq : q.Manages i)
    (hends : (broker.serve q).Ends exchanges result) :
    ∃ reply rest, exchanges = .store (.getInstance i) reply :: rest ∧
      ∀ e, reply = .error e → rest = [] := by
  cases q with
  | update j details acceptsIncomplete =>
    cases hq
    cases UpdateCourse.of_ends hends <;> exact ⟨_, _, rfl, by simp⟩
  | deprovision j details acceptsIncomplete =>
    cases hq
    cases DeprovisionCourse.of_ends hends <;> exact ⟨_, _, rfl, by simp⟩
  | lastOperation j details =>
    cases hq
    cases PollCourse.of_ends details hends <;> exact ⟨_, _, rfl, by simp⟩
  | provision | bind | unbind => cases hq

/-- A call that manages an instance does not create one. -/
theorem creates_nothing {exchanges : Dialogue} (hq : q.Manages i)
    (hends : (broker.serve q).Ends exchanges result) :
    ∀ record reply, .store (.createInstance record) reply ∉ exchanges := by
  intro record reply
  cases q with
  | update => cases UpdateCourse.of_ends hends <;> simp
  | deprovision => cases DeprovisionCourse.of_ends hends <;> simp
  | lastOperation j details => cases PollCourse.of_ends details hends <;> simp
  | provision | bind | unbind => cases hq

/-- After reading that an instance is being deprovisioned, a call at most polls that operation and,
if it is done, deletes the record. -/
theorem rest_of_condemned {record : InstanceRecord} {rest : Dialogue} (hq : q.Manages i)
    (hends : (broker.serve q).Ends (.store (.getInstance i) (.ok record) :: rest) result)
    (hcondemned : record.operation = some ⟨token, .deprovision⟩) :
    rest = [] ∨ (∃ details, q = .lastOperation i details) ∧ ∃ serviceId,
      (∃ reply, rest = [.provider (.poll serviceId record) reply]) ∨
      ∃ reply, rest = [.provider (.poll serviceId record) (.ok true),
        .store (.deleteInstance i) reply] := by
  cases q with
  | update j details acceptsIncomplete =>
    cases UpdateCourse.of_ends hends with
    | refused => exact .inl rfl
    | declined hadmits | unsaved hadmits | unlogged hadmits | completed hadmits =>
      cases (admitUpdate_ok hadmits).2.1.symm.trans hcondemned
  | deprovision j details acceptsIncomplete =>
    have hpending : pendingDeprovision record = some ⟨token, .deprovision⟩ := by
      rw [pendingDeprovision, hcondemned]
      rfl
    cases DeprovisionCourse.of_ends hends with
    | refused => exact .inl rfl
    | declined hadmits | undeleted hadmits | deleted hadmits | unsaved hadmits
    | condemned hadmits =>
      cases (admitDeprovision_ok hadmits).2.symm.trans hpending
  | lastOperation j details =>
    cases hq
    cases PollCourse.of_ends details hends with
    | refused | idle => exact .inl rfl
    | unanswered | unfinished => exact .inr ⟨⟨details, rfl⟩, _, .inl ⟨_, rfl⟩⟩
    | removed | unremoved => exact .inr ⟨⟨details, rfl⟩, _, .inr ⟨_, rfl⟩⟩
    | unreread _ hpending hcompletion | unrefreshed _ hpending hcompletion
    | unsettled _ hpending hcompletion | settled _ hpending hcompletion =>
      cases hpending.symm.trans hcondemned
      cases hcompletion
  | provision | bind | unbind => cases hq

/-- The call began by reading the record of the instance when this deprovision was not in it. -/
def ReadBefore (i token : String) (asked : Dialogue) : Prop :=
  ∃ record rest, asked = .store (.getInstance i) (.ok record) :: rest ∧
    record.operation ≠ some ⟨token, .deprovision⟩

/-- A call that did not read the record before reads it, asks a provider, or deletes the record
having been told that the deprovision is done. -/
theorem next_of_not_readBefore {asked later : Dialogue} {x : Exchange Action.Reply}
    (hq : q.Manages i) (hends : (broker.serve q).Ends (asked ++ x :: later) result)
    (hfresh : ¬ ReadBefore i token asked) :
    (asked = [] ∧ ∃ reply, x = .store (.getInstance i) reply) ∨
      (∃ p reply, x = .provider p reply) ∨
      (∃ details, q = .lastOperation i details) ∧
        (∃ serviceId record, .provider (.poll serviceId record) (.ok true) ∈ asked ∧
          record.operation = some ⟨token, .deprovision⟩) ∧
        ∃ reply, x = .store (.deleteInstance i) reply := by
  obtain ⟨reply, rest, hexchanges, hunread⟩ := reads_first hq hends
  cases asked with
  | nil =>
    obtain ⟨rfl, -⟩ := List.cons.inj hexchanges
    exact .inl ⟨rfl, reply, rfl⟩
  | cons first asked =>
    obtain ⟨rfl, hrest⟩ := List.cons.inj hexchanges
    cases reply with
    | error e => simp [hunread e rfl] at hrest
    | ok record =>
      have hcondemned : record.operation = some ⟨token, .deprovision⟩ := by
        by_contra hother
        exact hfresh ⟨record, asked, rfl, hother⟩
      rw [List.cons_append] at hends
      rcases rest_of_condemned hq hends hcondemned with
        hnil | ⟨hpoll, serviceId, ⟨reply, hone⟩ | ⟨reply, htwo⟩⟩
      · simp at hnil
      · cases asked with
        | nil =>
          obtain ⟨rfl, -⟩ := List.cons.inj hone
          exact .inr (.inl ⟨_, _, rfl⟩)
        | cons second asked => simp at hone
      · cases asked with
        | nil =>
          obtain ⟨rfl, -⟩ := List.cons.inj htwo
          exact .inr (.inl ⟨_, _, rfl⟩)
        | cons second asked =>
          obtain ⟨rfl, htail⟩ := List.cons.inj htwo
          cases asked with
          | nil =>
            obtain ⟨rfl, -⟩ := List.cons.inj htail
            exact .inr (.inr ⟨hpoll, ⟨serviceId, record, by simp, hcondemned⟩, reply, rfl⟩)
          | cons third asked => simp at htail

end Dialogues

/-! ### Moves beside each other -/

/-- The record of an instance says that a deprovision is under way. -/
def Condemned (s : Store) (i token : String) : Prop :=
  ∃ record, s.instances.get? i = some record ∧ record.operation = some ⟨token, .deprovision⟩

section Moves

variable {ι : Type} (requests : ι → Request) (i token : String)

/-- A poll that was told the deprovision is done deletes the record. -/
def Removes (move : Move ι) : Prop :=
  (∃ details, requests move.call = .lastOperation i details) ∧
    (∃ serviceId record, .provider (.poll serviceId record) (.ok true) ∈ move.asked ∧
      record.operation = some ⟨token, .deprovision⟩) ∧
    move.exchange = .store (.deleteInstance i) (.ok ())

/-- The record says that the deprovision is under way after every move, until a poll that was told
it is done deletes the record. -/
def CondemnedUntilRemoved : List (Move ι) → Prop
  | [] => True
  | move :: rest => Removes requests i token move ∨
      Condemned move.after.store i token ∧ CondemnedUntilRemoved rest

/-- A move saves the record with anything but the deprovision under way, or deletes it without
having been told that the deprovision is done. -/
def Overwrites (move : Move ι) : Prop :=
  (∃ record, move.exchange = .store (.saveInstance record) (.ok ()) ∧ record.id = i ∧
      record.operation ≠ some ⟨token, .deprovision⟩) ∨
    move.exchange = .store (.deleteInstance i) (.ok ()) ∧ ¬ Removes requests i token move

end Moves

namespace Pool

variable {ι : Type} [DecidableEq ι] {requests : ι → Request} {broker : Broker} {setting : Setting}
  {i token : String} {pool pool' : Pool requests} {move : Move ι}

/-- What is known of a pool while the record says that the deprovision is under way: only the
calls that are known to be stale have read the record before. -/
structure Condemning (broker : Broker) (i token : String) (stale : ι → Prop)
    (pool : Pool requests) : Prop where
  consistent : Consistent broker pool
  condemned : Condemned pool.world.store i token
  stale_of_readBefore : ∀ k, ReadBefore i token (pool.calls k).asked → stale k

/-- While the record says that the deprovision is under way, no call comes to have read it
before. -/
theorem Step.readBefore (hstep : Step setting pool move pool')
    (hcondemned : Condemned pool.world.store i token) (k : ι)
    (h : ReadBefore i token (pool'.calls k).asked) : ReadBefore i token (pool.calls k).asked := by
  rw [hstep.asked_after] at h
  split at h
  next heq =>
    subst heq
    obtain ⟨record, rest, hasked, hother⟩ := h
    rw [← hstep.asked_eq]
    cases hbefore : move.asked with
    | nil =>
      -- the call has just read the record, which is as the deprovision left it
      rw [hbefore] at hasked
      obtain ⟨hexchange, -⟩ := List.cons.inj hasked
      have hread := (hstep.answers hexchange).getInstance_ok
      obtain ⟨found, hfound, hoperation⟩ := hcondemned
      cases hfound.symm.trans hread
      exact absurd hoperation hother
    | cons first asked =>
      rw [hbefore] at hasked
      obtain ⟨rfl, -⟩ := List.cons.inj hasked
      exact ⟨record, asked, rfl, hother⟩
  next => exact h

theorem Condemning.after {stale : ι → Prop} (h : Condemning broker i token stale pool)
    (hstep : Step setting pool move pool') (hcondemned : Condemned pool'.world.store i token) :
    Condemning broker i token stale pool' where
  consistent := hstep.consistent h.consistent
  condemned := hcondemned
  stale_of_readBefore k hread := h.stale_of_readBefore k (hstep.readBefore h.condemned k hread)

theorem Step.condemned_iff_of_saves {record : InstanceRecord} (hstep : Step setting pool move pool')
    (hsave : move.exchange = .store (.saveInstance record) (.ok ())) (hid : record.id = i) :
    Condemned pool'.world.store i token ↔ record.operation = some ⟨token, .deprovision⟩ := by
  obtain ⟨created, now, hsaved⟩ := (hstep.answers hsave).instance_of_saveInstance
  rw [hid] at hsaved
  constructor
  · rintro ⟨found, hfound, hoperation⟩
    cases hsaved.symm.trans hfound
    exact hoperation
  · intro hoperation
    exact ⟨_, hsaved, hoperation⟩

/-- Only a stale call overwrites the record. -/
theorem Condemning.stale_of_overwrites {stale : ι → Prop}
    (h : Condemning broker i token stale pool) (hrequests : ∀ k, (requests k).Manages i)
    (hstep : Step setting pool move pool') (hoverwrites : Overwrites requests i token move) :
    stale move.call := by
  obtain ⟨later, result, hends⟩ := hstep.exists_ends h.consistent
  by_contra hk
  have hfresh : ¬ ReadBefore i token move.asked := by
    rw [hstep.asked_eq]
    exact fun hread ↦ hk (h.stale_of_readBefore move.call hread)
  have hnext := next_of_not_readBefore (hrequests move.call) hends hfresh
  rcases hoverwrites with ⟨record, hsave, -⟩ | ⟨hdelete, hnot⟩
  · rw [hsave] at hnext
    rcases hnext with ⟨-, reply, hx⟩ | ⟨p, reply, hx⟩ | ⟨-, -, reply, hx⟩ <;> cases hx
  · rcases hnext with ⟨-, reply, hx⟩ | ⟨p, reply, hx⟩ | ⟨hpoll, htold, -⟩
    · cases hdelete.symm.trans hx
    · cases hdelete.symm.trans hx
    · exact hnot ⟨hpoll, htold, hdelete⟩

/-- One move from there deletes the record rightly, leads on to such a pool, or overwrites the
record. -/
theorem Condemning.step {stale : ι → Prop} (h : Condemning broker i token stale pool)
    (hrequests : ∀ k, (requests k).Manages i) (hstep : Step setting pool move pool') :
    Removes requests i token move ∨ Condemning broker i token stale pool' ∨
      Overwrites requests i token move := by
  rcases hstep.allows.instance_cases i with
    hsame | ⟨record, hcreate, -⟩ | ⟨record, hsave, hid⟩ | hdelete
  · obtain ⟨found, hfound, hoperation⟩ := h.condemned
    exact .inr (.inl (h.after hstep ⟨found, hsame.of_instance.trans hfound, hoperation⟩))
  · obtain ⟨later, result, hends⟩ := hstep.exists_ends h.consistent
    exact absurd (by simp [hcreate])
      (creates_nothing (hrequests move.call) hends record (.ok ()))
  · by_cases hoperation : record.operation = some ⟨token, .deprovision⟩
    · exact .inr (.inl (h.after hstep ((hstep.condemned_iff_of_saves hsave hid).2 hoperation)))
    · exact .inr (.inr (.inl ⟨record, hsave, hid, hoperation⟩))
  · by_cases hremoves : Removes requests i token move
    · exact .inl hremoves
    · exact .inr (.inr (.inr ⟨hdelete, hremoves⟩))

/-! ### After the record is gone -/

/-- Calls that manage an instance do not bring its record back, and write nothing over it. -/
theorem Step.absent (hstep : Step setting pool move pool') (hpool : Consistent broker pool)
    (hrequests : ∀ k, (requests k).Manages i)
    (habsent : pool.world.store.instances.get? i = none) :
    pool'.world.store.instances.get? i = none ∧ ¬ Overwrites requests i token move := by
  obtain ⟨later, result, hends⟩ := hstep.exists_ends hpool
  have hsave {record : InstanceRecord}
      (hsave : move.exchange = .store (.saveInstance record) (.ok ())) : record.id ≠ i := by
    rintro rfl
    obtain ⟨existing, hfound, -⟩ := (hstep.answers hsave).saveInstance_ok
    cases habsent.symm.trans hfound
  have hdelete : move.exchange ≠ .store (.deleteInstance i) (.ok ()) := by
    intro hdelete
    obtain ⟨⟨existing, hfound⟩, -⟩ := (hstep.answers hdelete).deleteInstance_ok
    cases habsent.symm.trans hfound
  refine ⟨?_, ?_⟩
  · rcases hstep.allows.instance_cases i with
      hsame | ⟨record, hcreate, -⟩ | ⟨record, hsaved, hid⟩ | hdeleted
    · exact hsame.of_instance.trans habsent
    · exact absurd (by simp [hcreate])
        (creates_nothing (hrequests move.call) hends record (.ok ()))
    · exact absurd hid (hsave hsaved)
    · exact absurd hdeleted hdelete
  · rintro (⟨record, hsaved, hid, -⟩ | ⟨hdeleted, -⟩)
    · exact hsave hsaved hid
    · exact hdelete hdeleted

theorem not_overwrites_of_absent {moves : List (Move ι)}
    (hrun : Steps (Step setting) pool moves pool') (hpool : Consistent broker pool)
    (hrequests : ∀ k, (requests k).Manages i)
    (habsent : pool.world.store.instances.get? i = none) :
    ∀ move ∈ moves, ¬ Overwrites requests i token move := by
  induction hrun with
  | nil pool => exact fun move hmove ↦ absurd hmove List.not_mem_nil
  | cons head tail ih =>
    obtain ⟨hafter, hmove⟩ := head.absent hpool hrequests habsent
    rw [List.forall_mem_cons]
    exact ⟨hmove, ih (head.consistent hpool) hafter⟩

theorem Step.absent_of_removes (hstep : Step setting pool move pool')
    (h : Removes requests i token move) : pool'.world.store.instances.get? i = none :=
  (hstep.answers h.2.2).instance_of_deleteInstance

theorem Step.not_condemned_of_overwrites (hstep : Step setting pool move pool')
    (h : Overwrites requests i token move) : ¬ Condemned pool'.world.store i token := by
  rcases h with ⟨record, hsave, hid, hother⟩ | ⟨hdelete, -⟩
  · rw [hstep.condemned_iff_of_saves hsave hid]
    exact hother
  · rintro ⟨found, hfound, -⟩
    cases (hstep.answers hdelete).instance_of_deleteInstance.symm.trans hfound

/-! ### Runs -/

theorem Condemning.until_removed_iff {stale : ι → Prop} {moves : List (Move ι)}
    (h : Condemning broker i token stale pool) (hrequests : ∀ k, (requests k).Manages i)
    (hrun : Steps (Step setting) pool moves pool') :
    CondemnedUntilRemoved requests i token moves ↔
      ∀ move ∈ moves, stale move.call → ¬ Overwrites requests i token move := by
  induction hrun with
  | nil pool => exact iff_of_true trivial fun _ hmove ↦ absurd hmove List.not_mem_nil
  | @cons pool next last move moves head tail ih =>
    rw [List.forall_mem_cons]
    constructor
    · rintro (hremoves | ⟨hcondemned, hrest⟩)
      · refine ⟨fun _ hoverwrites ↦ ?_, fun later hlater _ ↦ ?_⟩
        · rcases hoverwrites with ⟨record, hsave, -⟩ | ⟨-, hnot⟩
          · cases hsave.symm.trans hremoves.2.2
          · exact hnot hremoves
        · exact not_overwrites_of_absent tail (head.consistent h.consistent) hrequests
            (head.absent_of_removes hremoves) later hlater
      · rw [← head.world_eq] at hcondemned
        refine ⟨fun _ hoverwrites ↦ head.not_condemned_of_overwrites hoverwrites hcondemned, ?_⟩
        exact (ih (h.after head hcondemned)).1 hrest
    · rintro ⟨hmove, hrest⟩
      rcases h.step hrequests head with hremoves | hnext | hoverwrites
      · exact .inl hremoves
      · refine .inr ⟨?_, (ih hnext).2 hrest⟩
        rw [← head.world_eq]
        exact hnext.condemned
      · exact absurd hoverwrites (hmove (h.stale_of_overwrites hrequests head hoverwrites))

end Pool

/-! ### Acknowledged deprovisions -/

/-- The call is a deprovision that has returned this token. -/
def Progress.Acknowledges (token : String) : {q : Request} → Progress q → Prop
  | .deprovision _ _ _, progress => progress.rest = .done (.ok (.pending token))
  | _, _ => False

/-- A deprovision returns its token after it has saved what it read with the operation. -/
theorem Progress.saved_of_acknowledges {broker : Broker} {i token : String} {q : Request}
    {progress : Progress q} (h : progress.Acknowledges token) (hq : q.Manages i)
    (hreaches : (broker.serve q).Reaches progress.asked progress.rest) :
    ∃ before record, .store (.getInstance i) (.ok record) ∈ progress.asked ∧
      progress.asked =
        before ++ [.store (.saveInstance (condemnedRecord record token)) (.ok ())] := by
  cases q with
  | deprovision j details acceptsIncomplete =>
    cases hq
    have hends : (broker.deprovision i details acceptsIncomplete).Ends progress.asked
        (.ok (.pending token)) := by
      rw [Program.Ends, ← show progress.rest = _ from h]
      exact hreaches
    generalize progress.asked = asked at hends
    cases DeprovisionCourse.of_ends hends with
    | @condemned record service =>
      exact ⟨[_, _], record, List.mem_cons_self .., rfl⟩
  | _ => cases h

section Acknowledged

variable {ι : Type} [DecidableEq ι] {requests : ι → Request} {broker : Broker} {setting : Setting}
  {i token : String} {w : World} {early late : List (Move ι)} {returned : Move ι}
  {before recorded last : Pool requests}

theorem Pool.condemning_of_acknowledges (hrequests : ∀ k, (requests k).Manages i)
    (hw : w.store.Keyed)
    (hearly : Steps (Pool.Step setting) (Pool.start broker requests w) early before)
    (hreturn : Pool.Step setting before returned recorded)
    (hreturned : (recorded.calls returned.call).Acknowledges token) :
    Condemning broker i token (fun k ↦ ReadBefore i token (recorded.calls k).asked) recorded := by
  have hbefore : Consistent broker before :=
    Pool.consistent_of_steps hearly (Pool.consistent_start broker w)
  have hrecorded : Consistent broker recorded := hreturn.consistent hbefore
  have hid := Pool.id_of_asked (Steps.concat_iff.2 ⟨before, hearly, hreturn⟩) hw
    (fun k record hmem ↦ absurd hmem List.not_mem_nil) (i := i)
  obtain ⟨first, record, hread, hasked⟩ := Progress.saved_of_acknowledges hreturned
    (hrequests returned.call) (hrecorded returned.call)
  have hsave : returned.exchange =
      .store (.saveInstance (condemnedRecord record token)) (.ok ()) := by
    have hafter := hreturn.asked_after returned.call
    rw [if_pos rfl, hasked] at hafter
    exact (List.singleton_inj.1 (List.append_inj_right' hafter rfl)).symm
  have hcondemned : Condemned recorded.world.store i token :=
    (hreturn.condemned_iff_of_saves hsave (hid returned.call record hread)).2 rfl
  exact ⟨hrecorded, hcondemned, fun k hread ↦ hread⟩

/-- Once a deprovision has returned its token, the record says that it is under way until a poll
that was told it is done deletes the record, exactly when no call that had read the record before
the deprovision was in it goes on to overwrite it. Other calls, those that begin later among them,
overwrite nothing. The calls may be made beside each other in any order, and the store, the vault
and the providers may fail in any way. -/
theorem condemned_until_removed_iff (hrequests : ∀ k, (requests k).Manages i)
    (hw : w.store.Keyed)
    (hearly : Steps (Pool.Step setting) (Pool.start broker requests w) early before)
    (hreturn : Pool.Step setting before returned recorded)
    (hreturned : (recorded.calls returned.call).Acknowledges token)
    (hlate : Steps (Pool.Step setting) recorded late last) :
    Condemned recorded.world.store i token ∧
      (CondemnedUntilRemoved requests i token late ↔
        ∀ move ∈ late, ReadBefore i token (recorded.calls move.call).asked →
          ¬ Overwrites requests i token move) := by
  have hcondemning := Pool.condemning_of_acknowledges hrequests hw hearly hreturn hreturned
  exact ⟨hcondemning.condemned, hcondemning.until_removed_iff hrequests hlate⟩

end Acknowledged

/-- A poll of an instance and a deprovision of it. -/
def pollAndDeprovision : Bool → Request
  | false => .lastOperation "i-1" {}
  | true => .deprovision "i-1" { serviceId := "db", planId := "small" } true

theorem pollAndDeprovision_manages (k : Bool) : (pollAndDeprovision k).Manages "i-1" := by
  cases k <;> rfl

/-- An instance of the database service has been asked for and is not yet there. -/
def databaseRequested : List Served × World :=
  (databaseBroker false).history "now" databaseProvider
    [.provision "i-1" { serviceId := "db", planId := "small" } true] {}

/-- The two calls at their beginning, and what they go on to in the order of a schedule. -/
def pollAndDeprovisionPool : Pool pollAndDeprovision :=
  Pool.start (databaseBroker false) pollAndDeprovision databaseRequested.2

theorem condemned_until_polled :
    let play (schedule : List Bool) (pool : Pool pollAndDeprovision) :=
      Pool.play "now" databaseProvider schedule pool
    let before := (play [true, true] pollAndDeprovisionPool).2
    let recorded := (play [true] before).2
    let polled := play [false, false, false] recorded
    (recorded.calls true).Acknowledges "op-2" ∧
      CondemnedUntilRemoved pollAndDeprovision "i-1" "op-2" polled.1 ∧
      polled.2.world.store.instances = [] := by
  intro play before recorded polled
  have hsteps (schedule : List Bool) (pool : Pool pollAndDeprovision)
      (h : Pool.plays "now" databaseProvider (fun _ _ ↦ True) schedule pool = true) :
      Steps (Pool.Step (.faithful databaseProvider)) pool (play schedule pool).1
        (play schedule pool).2 :=
    (Pool.steps_play "now" databaseProvider (fun _ _ ↦ True) schedule pool h).mono
      fun _ _ _ hstep ↦ hstep.1
  have hw : databaseRequested.2.store.Keyed :=
    keyed_of_history (steps_history "now" databaseProvider _ _ _) Store.keyed_empty
  have hreturn : Pool.Step (.faithful databaseProvider) before (play [true] before).1[0] recorded :=
    (Pool.step_of_advance "now" databaseProvider (k := true) rfl).2
  have hpoll : ∀ move ∈ polled.1, move.call = false := by decide +kernel
  refine ⟨rfl, ?_, rfl⟩
  refine (condemned_until_removed_iff pollAndDeprovision_manages hw (hsteps _ _ rfl) hreturn rfl
    (hsteps _ _ rfl)).2.2 ?_
  intro move hmove hread
  rw [hpoll move hmove] at hread
  obtain ⟨record, rest, hasked, -⟩ := hread
  cases hasked

/-- The call has not begun or has ended. -/
def Progress.isWhole {q : Request} (progress : Progress q) : Bool :=
  match progress.rest with
  | .done _ => true
  | .ask _ _ => progress.asked.isEmpty

/-- The call waits for a provider to update, to poll or to refresh. -/
def Progress.waits {q : Request} (progress : Progress q) : Bool :=
  match progress.rest with
  | .ask (.provider (.update _ _)) _ | .ask (.provider (.poll _ _)) _
  | .ask (.provider (.refresh _ _)) _ => true
  | _ => false

/-- A call may move when no other has begun and not ended, but for an outer one that waits. -/
def Pool.Nests {ι : Type} {requests : ι → Request} (outer : ι) (pool : Pool requests) (k : ι) :
    Prop :=
  ∀ j, j ≠ k → (pool.calls j).isWhole = true ∨ j = outer ∧ (pool.calls j).waits = true

instance {requests : Bool → Request} (outer : Bool) (pool : Pool requests) (k : Bool) :
    Decidable (pool.Nests outer k) :=
  inferInstanceAs (Decidable (∀ j : Bool, j ≠ k →
    (pool.calls j).isWhole = true ∨ j = outer ∧ (pool.calls j).waits = true))

/-- An acknowledged deprovision is not always kept, even where all other calls are whole while one
waits for a provider, and nothing fails: a poll that waited while the instance was being provisioned
clears the operation that it finds when it reads the record again. -/
theorem not_condemned_until_removed :
    ¬ ∀ (ι : Type) [DecidableEq ι] (requests : ι → Request) (broker : Broker) (setting : Setting)
      (i token : String) (calls : List Served) (w : World) (outer : ι)
      (early late : List (Move ι)) (returned : Move ι) (before recorded last : Pool requests),
      let Nested := fun pool (move : Move ι) pool' ↦
        Pool.Step setting pool move pool' ∧ pool.Nests outer move.call
      (∀ k, (requests k).Manages i) → (∀ e, ¬ setting.storeFails e) →
      (∀ serviceId record refreshed, setting.provider (.refresh serviceId record) (.ok refreshed) →
        ∃ text, refreshed = { record with otherDetails := text }) →
      Steps (broker.Serves setting) {} calls w →
      Steps Nested (Pool.start broker requests w) early before →
      Nested before returned recorded →
      (recorded.calls returned.call).Acknowledges token →
      Steps Nested recorded late last →
      CondemnedUntilRemoved requests i token late := by
  intro h
  let play (schedule : List Bool) (pool : Pool pollAndDeprovision) :=
    Pool.play "now" databaseProvider schedule pool
  have hsteps := Pool.steps_play "now" databaseProvider
    (fun (pool : Pool pollAndDeprovision) k ↦ pool.Nests false k)
  let before := (play [false, true, true] pollAndDeprovisionPool).2
  let recorded := (play [true] before).2
  have hreturn : Pool.Step (.faithful databaseProvider) before (play [true] before).1[0] recorded :=
    (Pool.step_of_advance "now" databaseProvider (k := true) rfl).2
  have hrefresh (serviceId : String) (record refreshed : InstanceRecord)
      (hreply : (Setting.faithful databaseProvider).provider (.refresh serviceId record)
        (.ok refreshed)) : ∃ text, refreshed = { record with otherDetails := text } := by
    cases hreply
    exact ⟨record.otherDetails, rfl⟩
  have hkept := h Bool pollAndDeprovision _ _ "i-1" "op-2" _ _ false _ _ _ _ _ _
    pollAndDeprovision_manages (fun _ hfails ↦ hfails) hrefresh
    (steps_history "now" databaseProvider (databaseBroker false) _ _)
    (hsteps [false, true, true] pollAndDeprovisionPool rfl) ⟨hreturn, by decide +kernel⟩ rfl
    (hsteps [false, false, false, false] recorded rfl)
  rcases hkept with
    hpoll | ⟨-, hread | ⟨-, hrefreshed | ⟨-, hsaved | ⟨⟨record, hfound, hoperation⟩, -⟩⟩⟩⟩
  · cases hpoll.2.2
  · cases hread.2.2
  · cases hrefreshed.2.2
  · cases hsaved.2.2
  · cases hfound
    cases hoperation

end Brokerage.Broker
