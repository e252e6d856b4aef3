import Brokerage.Proofs.Condemned
import Brokerage.Proofs.Writes
import Mathlib.Data.List.Induction

/-!
What a poll deletes. A poll that is told that a deprovision is done deletes the record of the
instance under its id, whatever has become of it since the poll read it. The record deleted carries
the operation that was polled exactly when the last write to it meanwhile, if there was one, left
that operation in it. Calls for the instance leave the record as it was read while the operation is
pending, unless another poll deletes it first and a provision creates it anew; then the poll deletes
the record of an instance that it knows nothing of.
-/

set_option autoImplicit false

namespace Brokerage

/-- The operation that an exchange leaves in the record of an instance that it writes. -/
def Exchange.leaves? (i : String) : Exchange Action.Reply → Option (Option PendingOperation)
  | ⟨.store (.createInstance record), .ok _⟩ | ⟨.store (.saveInstance record), .ok _⟩ =>
    if record.id = i then some record.operation else none
  | _ => none

/-- The operation that a dialogue leaves in the record of an instance, if it writes it. -/
def lastLeft? (i : String) (exchanges : Dialogue) : Option (Option PendingOperation) :=
  (exchanges.filterMap (Exchange.leaves? i)).getLast?

theorem Exchange.leaves?_of_unwritten {i : String} {x : Exchange Action.Reply}
    (h : x.written? ≠ some (.instance i)) : x.leaves? i = none := by
  unfold leaves?
  split
  next record _ => exact if_neg fun hid ↦ h (by rw [← hid]; rfl)
  next record _ => exact if_neg fun hid ↦ h (by rw [← hid]; rfl)
  next => rfl

variable {setting : Setting} {i : String} {w v : World} {record found : InstanceRecord}

/-- A write after which there is a record has left its operation in it. -/
theorem Exchange.leaves?_of_written {x : Exchange Action.Reply} (h : setting.Allows w x v)
    (hwritten : x.written? = some (.instance i)) (hafter : v.store.instances.get? i = some found) :
    x.leaves? i = some found.operation := by
  obtain ⟨question, reply⟩ := x
  cases question with
  | store q =>
    cases reply with
    | error e => cases hwritten
    | ok answer =>
      cases q with
      | createInstance record =>
        cases hwritten
        obtain ⟨now, hcreated⟩ := h.answers.instance_of_createInstance
        cases hcreated.symm.trans hafter
        exact if_pos rfl
      | saveInstance record =>
        cases hwritten
        obtain ⟨created, now, hsaved⟩ := h.answers.instance_of_saveInstance
        cases hsaved.symm.trans hafter
        exact if_pos rfl
      | deleteInstance j =>
        cases hwritten
        cases h.answers.instance_of_deleteInstance.symm.trans hafter
      | _ => cases hwritten
  | vault q => cases hwritten
  | provider q => cases hwritten

theorem lastLeft?_concat (exchanges : Dialogue) (x : Exchange Action.Reply) :
    lastLeft? i (exchanges ++ [x]) = (x.leaves? i).or (lastLeft? i exchanges) := by
  unfold lastLeft?
  rw [List.filterMap_append]
  cases hx : x.leaves? i with
  | none => simp [hx]
  | some left => simp [hx]

/-- The record of an instance carries what was last left in it, or else what it carried before. -/
theorem operation_of_steps {exchanges : Dialogue} (h : Steps setting.Allows w exchanges v)
    (hbefore : w.store.instances.get? i = some record)
    (hafter : v.store.instances.get? i = some found) :
    found.operation = (lastLeft? i exchanges).getD record.operation := by
  induction exchanges using List.reverseRecOn generalizing v found with
  | nil =>
    obtain rfl := Steps.nil_iff.1 h
    cases hbefore.symm.trans hafter
    rfl
  | append_singleton exchanges x ih =>
    obtain ⟨t, ht, hstep⟩ := Steps.concat_iff.1 h
    rw [lastLeft?_concat]
    by_cases hwritten : x.written? = some (.instance i)
    · rw [Exchange.leaves?_of_written hstep hwritten hafter]
      rfl
    · have hsame := (hstep.sameRecord_of_written hwritten).of_instance
      rw [Exchange.leaves?_of_unwritten hwritten, Option.none_or]
      exact ih ht (hsame.symm.trans hafter)

namespace Broker

/-! ### What is done beside a call -/

/-- What may be done while a call waits: one request made of the store, or a call of the broker. -/
inductive Deed where
  | ask (q : Store.Request) (reply : q.Reply)
  | serve (call : Served)

def Deed.exchanges : Deed → Dialogue
  | .ask q reply => [.store q reply]
  | .serve call => call.exchanges

/-- A deed is done in a world, which is left as the answers given leave it. -/
inductive Does (broker : Broker) (setting : Setting) (w : World) : Deed → World → Prop
  | ask {q : Store.Request} {reply : q.Reply} {w' : World}
    (h : setting.Allows w (.store q reply) w') : Does broker setting w (.ask q reply) w'
  | serve {call : Served} {w' : World} (h : broker.Serves setting w call w') :
    Does broker setting w (.serve call) w'

variable {broker : Broker} {deeds : List Deed}

theorem Does.allows {deed : Deed} (h : broker.Does setting w deed v) :
    Steps setting.Allows w deed.exchanges v := by
  cases h with
  | ask h => exact .cons h (.nil v)
  | serve h => exact h.2

/-- Deeds make of the world what their exchanges make of it. -/
theorem allows_of_deeds (h : Steps (broker.Does setting) w deeds v) :
    Steps setting.Allows w (deeds.flatMap Deed.exchanges) v := by
  induction h with
  | nil w => exact .nil w
  | cons head tail ih =>
    rw [List.flatMap_cons]
    exact Steps.append_iff.2 ⟨_, head.allows, ih⟩

theorem does_of_serves {calls : List Served} (h : Steps (broker.Serves setting) w calls v) :
    Steps (broker.Does setting) w (calls.map .serve) v := by
  induction h with
  | nil w => exact .nil w
  | cons head tail ih => exact .cons (.serve head) ih

/-! ### Calls beside a poll -/

/-- A call for an instance that is being deprovisioned leaves the record as it is or deletes it,
if it does not create one. -/
theorem Serves.kept_or_gone {call : Served} (h : broker.Serves setting w call v)
    (hsubject : call.request.subject.instanceId = i)
    (hcreates : ∀ x ∈ call.exchanges, x.created? ≠ some (.instance i))
    (hfound : w.store.instances.get? i = some record) {token : String}
    (hcondemned : record.operation = some ⟨token, .deprovision⟩) :
    v.store.instances.get? i = some record ∨ v.store.instances.get? i = none := by
  obtain ⟨request, exchanges, result⟩ := call
  obtain ⟨hends, hsteps⟩ := h
  have hkept (hnone : ∀ x ∈ exchanges, x.written? ≠ some (.instance i)) :
      v.store.instances.get? i = some record ∨ v.store.instances.get? i = none :=
    .inl ((Setting.sameRecord_of_unwritten hsteps hnone).of_instance.trans hfound)
  have hmanages (hq : request.Manages i) :
      v.store.instances.get? i = some record ∨ v.store.instances.get? i = none := by
    obtain ⟨reply, rest, rfl, hunread⟩ := reads_first hq hends
    cases reply with
    | error e =>
      obtain rfl := hunread e rfl
      exact hkept (Exchange.ne_some_of_all rfl)
    | ok read =>
      obtain ⟨t, hread, hrest⟩ := Steps.cons_iff.1 hsteps
      cases hfound.symm.trans hread.answers.getInstance_ok
      rcases rest_of_condemned hq hends hcondemned with
        rfl | ⟨-, serviceId, ⟨reply, rfl⟩ | ⟨reply, rfl⟩⟩
      · exact hkept (Exchange.ne_some_of_all rfl)
      · exact hkept (Exchange.ne_some_of_all rfl)
      · cases reply with
        | error e => exact hkept (Exchange.ne_some_of_all rfl)
        | ok deleted =>
          obtain ⟨t', -, hlast⟩ := Steps.cons_iff.1 hrest
          obtain ⟨t'', hdelete, hend⟩ := Steps.cons_iff.1 hlast
          obtain rfl := Steps.nil_iff.1 hend
          exact .inr hdelete.answers.instance_of_deleteInstance
  cases request with
  | provision j details acceptsIncomplete =>
    cases hsubject
    refine hkept fun x hx hwritten ↦ hcreates x hx ?_
    exact ((ProvisionCourse.of_ends hends).created_of_written x hx _ hwritten).2
  | update j details acceptsIncomplete => exact hmanages hsubject
  | deprovision j details acceptsIncomplete => exact hmanages hsubject
  | lastOperation j details => exact hmanages hsubject
  | bind j b details =>
    refine hkept fun x hx hwritten ↦ ?_
    cases ((BindCourse.of_ends hends).created_of_written x hx _ hwritten).1
  | unbind j b details =>
    refine hkept fun x hx hwritten ↦ ?_
    cases ((UnbindCourse.of_ends details hends).deleted_of_written x hx _ hwritten).1

/-- Calls for an instance that is being deprovisioned, none of which creates its record, leave the
record as it is or delete it. -/
theorem kept_or_gone_of_deeds (h : Steps (broker.Does setting) w deeds v)
    (hcalls : ∀ deed ∈ deeds, ∃ call, deed = .serve call ∧ call.request.subject.instanceId = i)
    (hcreates : ∀ deed ∈ deeds, ∀ x ∈ deed.exchanges, x.created? ≠ some (.instance i))
    (hfound : w.store.instances.get? i = some record) {token : String}
    (hcondemned : record.operation = some ⟨token, .deprovision⟩) :
    v.store.instances.get? i = some record ∨ v.store.instances.get? i = none := by
  refine h.preserves (P := fun t ↦ t.store.instances.get? i = some record ∨
    t.store.instances.get? i = none) ?_ (.inl hfound)
  rintro t deed t' hdeed (hkept | hgone) hdoes
  · obtain ⟨call, rfl, hsubject⟩ := hcalls deed hdeed
    cases hdoes with
    | serve hserves =>
      exact hserves.kept_or_gone hsubject (hcreates _ hdeed) hkept hcondemned
  · exact .inr (Store.not_has_instance_iff.1 (Setting.absent_of_steps hdoes.allows
      (hcreates deed hdeed) (Store.not_has_instance_iff.2 hgone)))

/-! ### What the poll deletes -/

/-- A poll reads the record of an instance, other deeds are done before it is told what it asked
then, and it deletes the record of the instance. -/
structure PollDeletes (broker : Broker) (setting : Setting) (i : String) (record : InstanceRecord)
    (deeds : List Deed) (told : Dialogue) (w v v' : World) : Prop where
  ends : ∃ details result, (broker.lastOperation i details).Ends
    (.store (.getInstance i) (.ok record) :: (told ++ [.store (.deleteInstance i) (.ok ())])) result
  reads : setting.Allows w (.store (.getInstance i) (.ok record)) w
  beside : Steps (broker.Does setting) w deeds v
  answered : Steps setting.Allows v told v
  deletes : setting.Allows v (.store (.deleteInstance i) (.ok ())) v'

theorem PollDeletes.polled {told : Dialogue} {v' : World}
    (h : PollDeletes broker setting i record deeds told w v v') :
    ∃ serviceId operation, told = [.provider (.poll serviceId record) (.ok true)] ∧
      record.operation = some operation ∧ operation.kind = .deprovision := by
  obtain ⟨details, result, hends⟩ := h.ends
  have hcourse := PollCourse.of_ends details hends
  generalize hD : (.store (.getInstance i) (.ok record) ::
    (told ++ [.store (.deleteInstance i) (.ok ())]) : Dialogue) = D at hcourse
  have hdeletes : .store (.deleteInstance i) (.ok ()) ∈ D := by simp [← hD]
  cases hcourse with
  | @removed read service operation _ hpending hcompletion reply =>
    obtain ⟨hread, hrest⟩ := List.cons.inj hD
    cases hread
    have hsplit : told ++ [.store (.deleteInstance i) (.ok ())] =
        [.provider (.poll service.definition.id record) (.ok true)] ++
          [.store (.deleteInstance i) reply] := hrest
    exact ⟨_, operation, List.append_inj_left' hsplit rfl, hpending,
      deprovision_of_deleteRecord hcompletion⟩
  | _ => simp at hdeletes

/-- At some moment of a run the instance was not recorded, so that a record of it that is there at
the end is one of a later instance under the same id. -/
def Interrupted (setting : Setting) (i : String) (w : World) (exchanges : Dialogue) (v : World) :
    Prop :=
  ∃ early late t, exchanges = early ++ late ∧ Steps setting.Allows w early t ∧
    Steps setting.Allows t late v ∧ t.store.instances.get? i = none

theorem interrupted_iff {exchanges : Dialogue} (h : Steps setting.Allows w exchanges v)
    (hfound : v.store.instances.get? i = some found) :
    Interrupted setting i w exchanges v ↔ ∃ x ∈ exchanges, x.created? = some (.instance i) := by
  constructor
  · rintro ⟨early, late, t, rfl, -, hlate, hgone⟩
    refine Classical.byContradiction fun hnone ↦ ?_
    have habsent := Setting.absent_of_steps hlate
      (fun x hx hcreated ↦ hnone ⟨x, List.mem_append_right _ hx, hcreated⟩)
      (Store.not_has_instance_iff.2 hgone)
    exact habsent ⟨found, hfound⟩
  · rintro ⟨x, hx, hcreated⟩
    obtain ⟨early, late, t, t', rfl, hearly, hstep, hlate⟩ := h.split_of_mem hx
    exact ⟨early, x :: late, t, rfl, hearly, .cons hstep hlate,
      Store.not_has_instance_iff.1 (hstep.created hcreated).1⟩

/-- A poll deletes a record only when it was told that the deprovision it read there is done. The
record that it deletes carries that operation exactly when whatever was done meanwhile has left it
there last, if it has left anything; it is one of a later instance exactly when something done
meanwhile has created it; and it is the very record that was read if all that was done are calls
for the instance, none of which has created it. The store, the vault and the providers may fail in
any way. -/
theorem deletes_polled_iff {told : Dialogue} {v' : World}
    (h : PollDeletes broker setting i record deeds told w v v') :
    ∃ serviceId operation found, told = [.provider (.poll serviceId record) (.ok true)] ∧
      record.operation = some operation ∧ operation.kind = .deprovision ∧
      v.store.instances.get? i = some found ∧
      (found.operation = some operation ↔
        ∀ left ∈ lastLeft? i (deeds.flatMap Deed.exchanges), left = some operation) ∧
      (Interrupted setting i w (deeds.flatMap Deed.exchanges) v ↔
        ∃ x ∈ deeds.flatMap Deed.exchanges, x.created? = some (.instance i)) ∧
      ((∀ deed ∈ deeds, ∃ call, deed = .serve call ∧ call.request.subject.instanceId = i) →
        (∀ x ∈ deeds.flatMap Deed.exchanges, x.created? ≠ some (.instance i)) →
        found = record) := by
  obtain ⟨serviceId, ⟨token, kind⟩, htold, hpending, rfl⟩ := h.polled
  obtain ⟨found, hfound⟩ := h.deletes.answers.deleteInstance_ok.1
  have hread := h.reads.answers.getInstance_ok
  have hbeside := allows_of_deeds h.beside
  refine ⟨serviceId, _, found, htold, hpending, rfl, hfound, ?_, interrupted_iff hbeside hfound, ?_⟩
  · rw [operation_of_steps hbeside hread hfound, hpending]
    cases lastLeft? i (deeds.flatMap Deed.exchanges) with
    | none => simp
    | some left => simp
  · intro hcalls hcreates
    have hcreatesNone : ∀ deed ∈ deeds, ∀ x ∈ deed.exchanges, x.created? ≠ some (.instance i) :=
      fun deed hdeed x hx ↦ hcreates x (List.mem_flatMap.2 ⟨deed, hdeed, hx⟩)
    rcases kept_or_gone_of_deeds h.beside hcalls hcreatesNone hread hpending with hkept | hgone
    · exact Option.some.inj (hfound.symm.trans hkept)
    · cases hgone.symm.trans hfound

/-- An instance of the database service that is being deprovisioned. -/
def databaseCondemned : List Served × World :=
  (databaseBroker false).history "now" databaseProvider
    [.provision "i-1" { serviceId := "db", planId := "small" } true, .lastOperation "i-1" {},
     .deprovision "i-1" { serviceId := "db", planId := "small" } true] {}

/-- The record of that instance. -/
def condemnedDatabase : InstanceRecord where
  id := "i-1"
  serviceId := "db"
  planId := "small"
  otherDetails := "null"
  operation := some ⟨"op-2", .deprovision⟩
  createdAt := "now"
  updatedAt := "now"

/-- Calls made while a poll of that instance waits. -/
def besidePoll (requests : List Request) : List Served × World :=
  (databaseBroker false).history "now" databaseProvider requests databaseCondemned.2

/-- What is left when the poll has deleted the record. -/
def afterPoll (requests : List Request) : Store.Request.Reply (.deleteInstance "i-1") × World :=
  (besidePoll requests).2.respond "now" databaseProvider (.store (.deleteInstance "i-1"))

theorem pollDeletes_beside (requests : List Request)
    (hdeletes : (afterPoll requests).1 = .ok ()) :
    PollDeletes (databaseBroker false) (.faithful databaseProvider) "i-1" condemnedDatabase
      ((besidePoll requests).1.map .serve)
      [.provider (.poll "db" condemnedDatabase) (.ok true)] databaseCondemned.2
      (besidePoll requests).2 (afterPoll requests).2 where
  ends := ⟨{}, _, Program.ends_trace (World.respond "now" databaseProvider)
    ((databaseBroker false).lastOperation "i-1" {}) databaseCondemned.2⟩
  reads := allows_of_respond "now" databaseProvider rfl
  beside := does_of_serves (steps_history "now" databaseProvider _ _ _)
  answered := .cons (allows_of_respond "now" databaseProvider rfl) (.nil _)
  deletes := allows_of_respond "now" databaseProvider (Prod.ext hdeletes rfl)

theorem calls_besidePoll (requests : List Request)
    (h : ∀ q ∈ requests, q.subject.instanceId = "i-1") :
    ∀ deed ∈ (besidePoll requests).1.map Deed.serve, ∃ call, deed = .serve call ∧
      call.request.subject.instanceId = "i-1" := by
  intro deed hdeed
  obtain ⟨call, hcall, rfl⟩ := List.mem_map.1 hdeed
  refine ⟨call, rfl, h call.request ?_⟩
  rw [← request_of_history "now" databaseProvider (databaseBroker false) requests
    databaseCondemned.2]
  exact List.mem_map_of_mem hcall

theorem deletes_polled_beside_refused :
    let requests : List Request :=
      [.provision "i-1" { serviceId := "db", planId := "small" } true,
       .deprovision "i-1" { serviceId := "db", planId := "small" } true]
    PollDeletes (databaseBroker false) (.faithful databaseProvider) "i-1" condemnedDatabase
        ((besidePoll requests).1.map .serve)
        [.provider (.poll "db" condemnedDatabase) (.ok true)] databaseCondemned.2
        (besidePoll requests).2 (afterPoll requests).2 ∧
      (besidePoll requests).2.store.instances.get? "i-1" = some condemnedDatabase := by
  intro requests
  have hpoll := pollDeletes_beside requests rfl
  obtain ⟨-, -, found, -, -, -, hfound, -, -, hsame⟩ := deletes_polled_iff hpoll
  have hcreates : ∀ x ∈ ((besidePoll requests).1.map Deed.serve).flatMap Deed.exchanges,
      x.created? ≠ some (.instance "i-1") := by decide +kernel
  rw [hsame (calls_besidePoll requests (by decide)) hcreates] at hfound
  exact ⟨hpoll, hfound⟩

/-- A poll does not only delete what it polled, even where nothing fails: while it waits, another
poll can delete the record and a provision create it anew. -/
theorem not_deletes_only_polled :
    ¬ ∀ (broker : Broker) (setting : Setting) (i : String) (record found : InstanceRecord)
      (calls : List Served) (deeds : List Deed) (told : Dialogue) (w v v' : World),
      (∀ e, ¬ setting.storeFails e) → Steps (broker.Serves setting) {} calls w →
      (∀ deed ∈ deeds, ∃ call, deed = .serve call ∧ call.request.subject.instanceId = i) →
      PollDeletes broker setting i record deeds told w v v' →
      v.store.instances.get? i = some found → found.operation = record.operation := by
  intro h
  let requests : List Request :=
    [.lastOperation "i-1" {}, .provision "i-1" { serviceId := "db", planId := "small" } true]
  have hsame := h _ _ _ _ _ _ _ _ _ _ _ (fun _ hfails ↦ hfails)
    (steps_history "now" databaseProvider _ _ _) (calls_besidePoll requests (by decide))
    (pollDeletes_beside requests rfl) rfl
  exact absurd hsame (by decide)

end Broker

end Brokerage
