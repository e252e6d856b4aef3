import Brokerage.Store.Basic

/-!
What the answers of a record store say about its records. A store answers faithfully, at whatever
time it is, or fails without effect in one of the ways it may fail. A refusal and a reading leave
the store as it was; a write that succeeds tells what was there before and changes the record it
is about and no other. Records stay under their own ids.
-/

set_option autoImplicit false

namespace Brokerage

/-- What there may be a record of: an instance, or a binding of one. -/
inductive Subject where
  | instance (i : String)
  | binding (i b : String)
  deriving DecidableEq

/-- The ids of a binding. -/
def Subject.binding? : Subject → Option (String × String)
  | .instance _ => none
  | .binding i b => some (i, b)

/-- The instance that a record is of, or of a binding of which it is. -/
def Subject.instanceId : Subject → String
  | .instance i | .binding i _ => i

namespace Store

/-- A faithful answer, or a failure without effect. -/
def Answers (fails : Error → Prop) (s : Store) (q : Request) (reply : q.Reply) (t : Store) : Prop :=
  (∃ now, s.answer now q = (reply, t)) ∨ ∃ e, fails e ∧ reply = q.refuse e ∧ t = s

/-- What the record is of that a request may write. -/
def Request.subject? : Request → Option Subject
  | .createInstance record | .saveInstance record => some (.instance record.id)
  | .deleteInstance i => some (.instance i)
  | .createBinding record => some (.binding record.instanceId record.bindingId)
  | .deleteBinding i b => some (.binding i b)
  | _ => none

/-- The record of an instance that a request asks to have created or saved. -/
def Request.recorded? : Request → Option InstanceRecord
  | .createInstance record | .saveInstance record => some record
  | _ => none

/-- What the record is of that a request may create. -/
def Request.created? : Request → Option Subject
  | .createInstance record => some (.instance record.id)
  | .createBinding record => some (.binding record.instanceId record.bindingId)
  | _ => none

/-- The instance whose history a request is written to. -/
def Request.logged? : Request → Option String
  | .createRequest record | .saveRequest record => some record.instanceId
  | _ => none

/-- Every record lies under its own ids. -/
structure Keyed (s : Store) : Prop where
  instances : ∀ i record, s.instances.get? i = some record → record.id = i
  bindings : ∀ i b record, s.bindings.get? (i, b) = some record →
    record.instanceId = i ∧ record.bindingId = b

theorem keyed_empty : Keyed empty :=
  ⟨by simp [empty], by simp [empty]⟩

theorem Keyed.get?_id {s : Store} (h : s.Keyed) {i : String} {record : InstanceRecord}
    (hfound : s.instances.get? i = some record) : s.instances.get? record.id = some record := by
  rw [h.instances i record hfound, hfound]

/-- Two stores have the same record of a subject, or neither has one. -/
def SameRecord (s t : Store) : Subject → Prop
  | .instance i => t.instances.get? i = s.instances.get? i
  | .binding i b => t.bindings.get? (i, b) = s.bindings.get? (i, b)

theorem SameRecord.rfl {s : Store} (subject : Subject) : s.SameRecord s subject := by
  cases subject <;> exact Eq.refl _

theorem SameRecord.trans {s t u : Store} {subject : Subject} (hst : s.SameRecord t subject)
    (htu : t.SameRecord u subject) : s.SameRecord u subject := by
  cases subject with
  | «instance» i => exact Eq.trans htu hst
  | binding i b => exact Eq.trans htu hst

/-- There is a record of a subject. -/
def Has (s : Store) : Subject → Prop
  | .instance i => ∃ record, s.instances.get? i = some record
  | .binding i b => ∃ record, s.bindings.get? (i, b) = some record

theorem not_has_instance_iff {s : Store} {i : String} :
    ¬ s.Has (.instance i) ↔ s.instances.get? i = none := by
  simp [Has, Option.eq_none_iff_forall_ne_some]

theorem not_has_binding_iff {s : Store} {i b : String} :
    ¬ s.Has (.binding i b) ↔ s.bindings.get? (i, b) = none := by
  simp [Has, Option.eq_none_iff_forall_ne_some]

theorem SameRecord.has_iff {s t : Store} {subject : Subject} (h : s.SameRecord t subject) :
    t.Has subject ↔ s.Has subject := by
  cases subject with
  | «instance» i =>
    have hsame : t.instances.get? i = s.instances.get? i := h
    simp only [Has, hsame]
  | binding i b =>
    have hsame : t.bindings.get? (i, b) = s.bindings.get? (i, b) := h
    simp only [Has, hsame]

theorem SameRecord.of_instance {s t : Store} {i : String} (h : s.SameRecord t (.instance i)) :
    t.instances.get? i = s.instances.get? i := h

theorem SameRecord.of_binding {s t : Store} {i b : String} (h : s.SameRecord t (.binding i b)) :
    t.bindings.get? (i, b) = s.bindings.get? (i, b) := h

variable {fails : Error → Prop} {s t : Store}

/-! ### Readings and refusals -/

theorem eq_of_written {s t : Store} {e : Error} {r : Except Error Store}
    (h : s.written r = (.error e, t)) : r = .error e ∧ t = s := by
  cases r with
  | error e' =>
    simp only [written, Prod.mk.injEq, Except.error.injEq] at h
    exact ⟨by rw [h.1], h.2.symm⟩
  | ok after => simp [written] at h

theorem eq_ok_of_written {s t : Store} {r : Except Error Store} {u : Unit}
    (h : s.written r = (.ok u, t)) : r = .ok t := by
  cases r with
  | error e => simp [written] at h
  | ok after =>
    simp only [written, Prod.mk.injEq] at h
    rw [h.2]

/-- A refused request leaves the store as it was. -/
theorem Answers.of_error {q : Request} {e : Error} (h : s.Answers fails q (.error e) t) :
    t = s := by
  rcases h with ⟨now, h⟩ | ⟨e', -, -, h⟩
  · cases q <;>
      first
      | exact (eq_of_written h).2
      | exact ((Prod.mk.inj h).2).symm
      | simp [answer] at h
  · exact h

/-- A request that writes nothing leaves the store as it was. -/
theorem Answers.of_read {q : Request} {reply : q.Reply} (h : s.Answers fails q reply t)
    (hread : q.isWrite = false) : t = s := by
  rcases h with ⟨now, h⟩ | ⟨e, -, -, h⟩
  · cases q <;> first | exact ((Prod.mk.inj h).2).symm | simp [Request.isWrite] at hread
  · exact h

/-- Only a faithful answer can be a success. -/
theorem Answers.of_ok {q : Request} {x : q.Answer} (h : s.Answers fails q (.ok x) t) :
    ∃ now, s.answer now q = (.ok x, t) := by
  rcases h with h | ⟨e, -, h, -⟩
  · exact h
  · cases h

/-- A refusal is a failure, or the truth. -/
theorem Answers.fails_or_answer {q : Request} {e : Error} (h : s.Answers fails q (.error e) t) :
    fails e ∨ ∃ now, s.answer now q = (.error e, t) := by
  rcases h with h | ⟨e', hfails, h, -⟩
  · exact .inr h
  · cases h
    exact .inl hfails

/-- A creation is refused truly only where there is a record, and then as a conflict. -/
theorem Answers.fails_or_conflict {q : Request} {e : Error} {subject : Subject}
    (h : s.Answers fails q (.error e) t) (hcreated : q.created? = some subject) :
    fails e ∨ s.Has subject ∧ e.isConflict = true := by
  refine h.fails_or_answer.imp_right ?_
  rintro ⟨now, hrefused⟩
  cases q with
  | createInstance record =>
    cases hcreated
    have hcreate := (eq_of_written hrefused).1
    unfold createInstance Table.contains at hcreate
    cases hfound : s.instances.get? record.id with
    | none => simp [hfound] at hcreate
    | some existing =>
      simp only [hfound, Option.isSome_some, if_true, Except.error.injEq] at hcreate
      exact ⟨⟨existing, hfound⟩, by rw [← hcreate]; rfl⟩
  | createBinding record =>
    cases hcreated
    have hcreate := (eq_of_written hrefused).1
    unfold createBinding Table.contains at hcreate
    cases hfound : s.bindings.get? (record.instanceId, record.bindingId) with
    | none => simp [hfound] at hcreate
    | some existing =>
      simp only [hfound, Option.isSome_some, if_true, Except.error.injEq] at hcreate
      exact ⟨⟨existing, hfound⟩, by rw [← hcreate]; rfl⟩
  | _ => cases hcreated

/-! ### Instances -/

theorem Answers.instanceExists_ok {i : String} {found : Bool}
    (h : s.Answers fails (.instanceExists i) (.ok found) t) :
    found = (s.instances.get? i).isSome := by
  obtain ⟨now, h⟩ := h.of_ok
  cases h
  rfl

theorem Answers.instanceExists_error {i : String} {e : Error}
    (h : s.Answers fails (.instanceExists i) (.error e) t) : fails e := by
  rcases h.fails_or_answer with h | ⟨now, h⟩
  · exact h
  · cases h

theorem Answers.getInstance_ok {i : String} {record : InstanceRecord}
    (h : s.Answers fails (.getInstance i) (.ok record) t) :
    s.instances.get? i = some record := by
  obtain ⟨now, h⟩ := h.of_ok
  have hget : s.getInstance i = .ok record := (Prod.mk.inj h).1
  unfold getInstance at hget
  cases hfound : s.instances.get? i with
  | none => simp [hfound] at hget
  | some found =>
    rw [hfound] at hget
    cases hget
    rfl

/-- An instance that cannot be read is not there, or the store fails. -/
theorem Answers.getInstance_error {i : String} {e : Error}
    (h : s.Answers fails (.getInstance i) (.error e) t) :
    fails e ∨ s.instances.get? i = none ∧ e = .instanceNotFound i := by
  refine h.fails_or_answer.imp_right ?_
  rintro ⟨now, h⟩
  have hget : s.getInstance i = .error e := (Prod.mk.inj h).1
  unfold getInstance at hget
  cases hfound : s.instances.get? i with
  | none =>
    rw [hfound] at hget
    cases hget
    exact ⟨rfl, rfl⟩
  | some found => simp [hfound] at hget

/-- A creation finds no record, and leaves the one created under its id. -/
theorem createInstance_ok {now : String} {record : InstanceRecord} {u : Unit}
    (h : s.answer now (.createInstance record) = (.ok u, t)) :
    s.instances.get? record.id = none ∧ t =
      { s with instances :=
          s.instances.put record.id { record with createdAt := now, updatedAt := now } } := by
  have hcreated := eq_ok_of_written h
  unfold createInstance Table.contains at hcreated
  cases hfound : s.instances.get? record.id with
  | some found => simp [hfound] at hcreated
  | none =>
    simp only [hfound, Option.isSome_none, Bool.false_eq_true, if_false, Except.ok.injEq]
      at hcreated
    exact ⟨rfl, hcreated.symm⟩

theorem Answers.createInstance_ok {record : InstanceRecord} {u : Unit}
    (h : s.Answers fails (.createInstance record) (.ok u) t) :
    s.instances.get? record.id = none ∧ ∃ now, t =
      { s with instances :=
          s.instances.put record.id { record with createdAt := now, updatedAt := now } } := by
  obtain ⟨now, h⟩ := h.of_ok
  obtain ⟨habsent, rfl⟩ := Store.createInstance_ok h
  exact ⟨habsent, now, rfl⟩

theorem Answers.instance_of_createInstance {record : InstanceRecord} {u : Unit}
    (h : s.Answers fails (.createInstance record) (.ok u) t) :
    ∃ now, t.instances.get? record.id =
      some { record with createdAt := now, updatedAt := now } := by
  obtain ⟨-, now, rfl⟩ := h.createInstance_ok
  exact ⟨now, (Table.get?_put ..).trans (if_pos rfl)⟩

theorem Answers.createInstance_error {record : InstanceRecord} {e : Error}
    (h : s.Answers fails (.createInstance record) (.error e) t)
    (habsent : s.instances.get? record.id = none) : fails e := by
  refine (h.fails_or_conflict rfl).resolve_right ?_
  rintro ⟨⟨existing, hfound⟩, -⟩
  cases habsent.symm.trans hfound

/-- A save finds a record, and leaves the one saved with the stamp of its creation. -/
theorem saveInstance_ok {now : String} {record : InstanceRecord} {u : Unit}
    (h : s.answer now (.saveInstance record) = (.ok u, t)) :
    ∃ existing, s.instances.get? record.id = some existing ∧ t = { s with
      instances := s.instances.put record.id
        { record with createdAt := existing.createdAt, updatedAt := now } } := by
  have hsaved := eq_ok_of_written h
  unfold saveInstance at hsaved
  cases hfound : s.instances.get? record.id with
  | none => simp [hfound] at hsaved
  | some existing =>
    simp only [hfound, Except.ok.injEq] at hsaved
    exact ⟨existing, rfl, hsaved.symm⟩

theorem Answers.saveInstance_ok {record : InstanceRecord} {u : Unit}
    (h : s.Answers fails (.saveInstance record) (.ok u) t) :
    ∃ existing, s.instances.get? record.id = some existing ∧ ∃ now, t = { s with
      instances := s.instances.put record.id
        { record with createdAt := existing.createdAt, updatedAt := now } } := by
  obtain ⟨now, h⟩ := h.of_ok
  obtain ⟨existing, hfound, rfl⟩ := Store.saveInstance_ok h
  exact ⟨existing, hfound, now, rfl⟩

theorem Answers.instance_of_saveInstance {record : InstanceRecord} {u : Unit}
    (h : s.Answers fails (.saveInstance record) (.ok u) t) :
    ∃ created now, t.instances.get? record.id =
      some { record with createdAt := created, updatedAt := now } := by
  obtain ⟨existing, -, now, rfl⟩ := h.saveInstance_ok
  exact ⟨existing.createdAt, now, (Table.get?_put ..).trans (if_pos rfl)⟩

theorem Answers.saveInstance_error {record existing : InstanceRecord} {e : Error}
    (h : s.Answers fails (.saveInstance record) (.error e) t)
    (hpresent : s.instances.get? record.id = some existing) : fails e := by
  rcases h.fails_or_answer with h | ⟨now, h⟩
  · exact h
  · have hrefused := (eq_of_written h).1
    simp [saveInstance, hpresent] at hrefused

theorem Answers.deleteInstance_ok {i : String} {u : Unit}
    (h : s.Answers fails (.deleteInstance i) (.ok u) t) :
    (∃ existing, s.instances.get? i = some existing) ∧
      t = { s with instances := s.instances.remove i } := by
  obtain ⟨now, h⟩ := h.of_ok
  have hdeleted := eq_ok_of_written h
  unfold deleteInstance Table.contains at hdeleted
  cases hfound : s.instances.get? i with
  | none => simp [hfound] at hdeleted
  | some existing =>
    simp only [hfound, Option.isSome_some, if_true, Except.ok.injEq] at hdeleted
    exact ⟨⟨existing, rfl⟩, hdeleted.symm⟩

theorem Answers.instance_of_deleteInstance {i : String} {u : Unit}
    (h : s.Answers fails (.deleteInstance i) (.ok u) t) : t.instances.get? i = none := by
  obtain ⟨-, rfl⟩ := h.deleteInstance_ok
  exact (Table.get?_remove ..).trans (if_pos rfl)

/-- A deletion is refused truly only where there is no record. -/
theorem Answers.deleteInstance_refused {i : String} {e : Error}
    (h : s.Answers fails (.deleteInstance i) (.error e) t) :
    fails e ∨ s.instances.get? i = none ∧ e = .instanceNotFound i := by
  refine h.fails_or_answer.imp_right ?_
  rintro ⟨now, h⟩
  have hrefused := (eq_of_written h).1
  unfold deleteInstance Table.contains at hrefused
  cases hfound : s.instances.get? i with
  | none =>
    rw [hfound] at hrefused
    cases hrefused
    exact ⟨rfl, rfl⟩
  | some found => simp [hfound] at hrefused

theorem Answers.deleteInstance_error {i : String} {e : Error} {existing : InstanceRecord}
    (h : s.Answers fails (.deleteInstance i) (.error e) t)
    (hpresent : s.instances.get? i = some existing) : fails e := by
  refine h.deleteInstance_refused.resolve_right ?_
  rintro ⟨habsent, -⟩
  cases habsent.symm.trans hpresent

/-! ### Bindings -/

theorem Answers.bindingExists_ok {i b : String} {found : Bool}
    (h : s.Answers fails (.bindingExists i b) (.ok found) t) :
    found = (s.bindings.get? (i, b)).isSome := by
  obtain ⟨now, h⟩ := h.of_ok
  cases h
  rfl

theorem Answers.bindingExists_error {i b : String} {e : Error}
    (h : s.Answers fails (.bindingExists i b) (.error e) t) : fails e := by
  rcases h.fails_or_answer with h | ⟨now, h⟩
  · exact h
  · cases h

theorem Answers.getBinding_ok {i b : String} {record : BindingRecord}
    (h : s.Answers fails (.getBinding i b) (.ok record) t) :
    s.bindings.get? (i, b) = some record := by
  obtain ⟨now, h⟩ := h.of_ok
  have hget : s.getBinding i b = .ok record := (Prod.mk.inj h).1
  unfold getBinding at hget
  cases hfound : s.bindings.get? (i, b) with
  | none => simp [hfound] at hget
  | some found =>
    rw [hfound] at hget
    cases hget
    rfl

theorem Answers.getBinding_error {i b : String} {e : Error} {existing : BindingRecord}
    (h : s.Answers fails (.getBinding i b) (.error e) t)
    (hpresent : s.bindings.get? (i, b) = some existing) : fails e := by
  rcases h.fails_or_answer with h | ⟨now, h⟩
  · exact h
  · have hget : s.getBinding i b = .error e := (Prod.mk.inj h).1
    simp [getBinding, hpresent] at hget

theorem createBinding_ok {now : String} {record : BindingRecord} {u : Unit}
    (h : s.answer now (.createBinding record) = (.ok u, t)) :
    s.bindings.get? (record.instanceId, record.bindingId) = none ∧ t = { s with
      bindings := s.bindings.put (record.instanceId, record.bindingId)
        { record with createdAt := now } } := by
  have hcreated := eq_ok_of_written h
  unfold createBinding Table.contains at hcreated
  cases hfound : s.bindings.get? (record.instanceId, record.bindingId) with
  | some found => simp [hfound] at hcreated
  | none =>
    simp only [hfound, Option.isSome_none, Bool.false_eq_true, if_false, Except.ok.injEq]
      at hcreated
    exact ⟨rfl, hcreated.symm⟩

theorem Answers.createBinding_ok {record : BindingRecord} {u : Unit}
    (h : s.Answers fails (.createBinding record) (.ok u) t) :
    s.bindings.get? (record.instanceId, record.bindingId) = none ∧ ∃ now, t = { s with
      bindings := s.bindings.put (record.instanceId, record.bindingId)
        { record with createdAt := now } } := by
  obtain ⟨now, h⟩ := h.of_ok
  obtain ⟨habsent, rfl⟩ := Store.createBinding_ok h
  exact ⟨habsent, now, rfl⟩

theorem Answers.binding_of_createBinding {record : BindingRecord} {u : Unit}
    (h : s.Answers fails (.createBinding record) (.ok u) t) :
    ∃ now, t.bindings.get? (record.instanceId, record.bindingId) =
      some { record with createdAt := now } := by
  obtain ⟨-, now, rfl⟩ := h.createBinding_ok
  exact ⟨now, (Table.get?_put ..).trans (if_pos rfl)⟩

theorem Answers.createBinding_error {record : BindingRecord} {e : Error}
    (h : s.Answers fails (.createBinding record) (.error e) t)
    (habsent : s.bindings.get? (record.instanceId, record.bindingId) = none) : fails e := by
  refine (h.fails_or_conflict rfl).resolve_right ?_
  rintro ⟨⟨existing, hfound⟩, -⟩
  cases habsent.symm.trans hfound

theorem Answers.deleteBinding_ok {i b : String} {u : Unit}
    (h : s.Answers fails (.deleteBinding i b) (.ok u) t) :
    (∃ existing, s.bindings.get? (i, b) = some existing) ∧
      t = { s with bindings := s.bindings.remove (i, b) } := by
  obtain ⟨now, h⟩ := h.of_ok
  have hdeleted := eq_ok_of_written h
  unfold deleteBinding Table.contains at hdeleted
  cases hfound : s.bindings.get? (i, b) with
  | none => simp [hfound] at hdeleted
  | some existing =>
    simp only [hfound, Option.isSome_some, if_true, Except.ok.injEq] at hdeleted
    exact ⟨⟨existing, rfl⟩, hdeleted.symm⟩

theorem Answers.binding_of_deleteBinding {i b : String} {u : Unit}
    (h : s.Answers fails (.deleteBinding i b) (.ok u) t) : t.bindings.get? (i, b) = none := by
  obtain ⟨-, rfl⟩ := h.deleteBinding_ok
  exact (Table.get?_remove ..).trans (if_pos rfl)

/-- A deletion of a binding, too, is refused truly only where there is no record. -/
theorem Answers.deleteBinding_refused {i b : String} {e : Error}
    (h : s.Answers fails (.deleteBinding i b) (.error e) t) :
    fails e ∨ s.bindings.get? (i, b) = none ∧ e = .bindingNotFound i b := by
  refine h.fails_or_answer.imp_right ?_
  rintro ⟨now, h⟩
  have hrefused := (eq_of_written h).1
  unfold deleteBinding Table.contains at hrefused
  cases hfound : s.bindings.get? (i, b) with
  | none =>
    rw [hfound] at hrefused
    cases hrefused
    exact ⟨rfl, rfl⟩
  | some found => simp [hfound] at hrefused

theorem Answers.deleteBinding_error {i b : String} {e : Error} {existing : BindingRecord}
    (h : s.Answers fails (.deleteBinding i b) (.error e) t)
    (hpresent : s.bindings.get? (i, b) = some existing) : fails e := by
  refine h.deleteBinding_refused.resolve_right ?_
  rintro ⟨habsent, -⟩
  cases habsent.symm.trans hpresent

/-! ### Every request -/

/-- A request changes at most the record it is about. -/
theorem Answers.sameRecord {q : Request} {reply : q.Reply} {subject : Subject}
    (h : s.Answers fails q reply t) (hsubject : q.subject? ≠ some subject) :
    s.SameRecord t subject := by
  cases reply with
  | error e =>
    rw [h.of_error]
    exact .rfl subject
  | ok x =>
    cases q with
    | createInstance record =>
      obtain ⟨-, now, rfl⟩ := h.createInstance_ok
      cases subject with
      | «instance» i =>
        have hne : i ≠ record.id := fun heq ↦ hsubject (by rw [heq]; rfl)
        exact (Table.get?_put ..).trans (if_neg hne)
      | binding i b => rfl
    | saveInstance record =>
      obtain ⟨existing, -, now, rfl⟩ := h.saveInstance_ok
      cases subject with
      | «instance» i =>
        have hne : i ≠ record.id := fun heq ↦ hsubject (by rw [heq]; rfl)
        exact (Table.get?_put ..).trans (if_neg hne)
      | binding i b => rfl
    | deleteInstance j =>
      obtain ⟨-, rfl⟩ := h.deleteInstance_ok
      cases subject with
      | «instance» i =>
        have hne : i ≠ j := fun heq ↦ hsubject (by rw [heq]; rfl)
        exact (Table.get?_remove ..).trans (if_neg hne)
      | binding i b => rfl
    | createBinding record =>
      obtain ⟨-, now, rfl⟩ := h.createBinding_ok
      cases subject with
      | «instance» i => rfl
      | binding i b =>
        have hne : (i, b) ≠ (record.instanceId, record.bindingId) := by
          intro heq
          cases heq
          exact hsubject rfl
        exact (Table.get?_put ..).trans (if_neg hne)
    | deleteBinding j c =>
      obtain ⟨-, rfl⟩ := h.deleteBinding_ok
      cases subject with
      | «instance» i => rfl
      | binding i b =>
        have hne : (i, b) ≠ (j, c) := by
          intro heq
          cases heq
          exact hsubject rfl
        exact (Table.get?_remove ..).trans (if_neg hne)
    | createRequest record | saveRequest record =>
      obtain ⟨now, h⟩ := h.of_ok
      cases h
      cases subject <;> rfl
    | _ =>
      rw [h.of_read rfl]
      exact .rfl subject

/-- A creation finds no record and leaves one. -/
theorem Answers.created {q : Request} {x : q.Answer} {subject : Subject}
    (h : s.Answers fails q (.ok x) t) (hcreated : q.created? = some subject) :
    ¬ s.Has subject ∧ t.Has subject := by
  cases q with
  | createInstance record =>
    cases hcreated
    obtain ⟨now, hfound⟩ := h.instance_of_createInstance
    refine ⟨?_, ⟨_, hfound⟩⟩
    rintro ⟨existing, hexisting⟩
    cases h.createInstance_ok.1.symm.trans hexisting
  | createBinding record =>
    cases hcreated
    obtain ⟨now, hfound⟩ := h.binding_of_createBinding
    refine ⟨?_, ⟨_, hfound⟩⟩
    rintro ⟨existing, hexisting⟩
    cases h.createBinding_ok.1.symm.trans hexisting
  | _ => cases hcreated

/-- A write that is not a creation finds a record. -/
theorem Answers.has_of_written {q : Request} {x : q.Answer} {subject : Subject}
    (h : s.Answers fails q (.ok x) t) (hsubject : q.subject? = some subject)
    (hcreated : q.created? ≠ some subject) : s.Has subject := by
  cases q with
  | saveInstance record =>
    cases hsubject
    obtain ⟨existing, hfound, -⟩ := h.saveInstance_ok
    exact ⟨existing, hfound⟩
  | deleteInstance i =>
    cases hsubject
    exact h.deleteInstance_ok.1
  | deleteBinding i b =>
    cases hsubject
    exact h.deleteBinding_ok.1
  | createInstance | createBinding => exact absurd hsubject hcreated
  | _ => cases hsubject

/-- A request that is about no record leaves all of them as they were. -/
theorem Answers.bindings_eq {q : Request} {reply : q.Reply} (h : s.Answers fails q reply t)
    (hsubject : q.subject? = none) : t.bindings = s.bindings := by
  cases reply with
  | error e => rw [h.of_error]
  | ok x =>
    cases q with
    | createRequest record | saveRequest record =>
      obtain ⟨now, h⟩ := h.of_ok
      cases h
      rfl
    | createInstance | saveInstance | deleteInstance | createBinding | deleteBinding =>
      cases hsubject
    | _ => rw [h.of_read rfl]

/-- A request that is written to no history leaves all of them as they were. -/
theorem Answers.requests_eq {q : Request} {reply : q.Reply} (h : s.Answers fails q reply t)
    (hlogged : q.logged? = none) : t.requests = s.requests := by
  cases reply with
  | error e => rw [h.of_error]
  | ok x =>
    cases q with
    | createInstance record =>
      obtain ⟨-, now, rfl⟩ := h.createInstance_ok
      rfl
    | saveInstance record =>
      obtain ⟨existing, -, now, rfl⟩ := h.saveInstance_ok
      rfl
    | deleteInstance j =>
      obtain ⟨-, rfl⟩ := h.deleteInstance_ok
      rfl
    | createBinding record =>
      obtain ⟨-, now, rfl⟩ := h.createBinding_ok
      rfl
    | deleteBinding j c =>
      obtain ⟨-, rfl⟩ := h.deleteBinding_ok
      rfl
    | createRequest | saveRequest => cases hlogged
    | _ => rw [h.of_read rfl]

/-! ### Histories -/

theorem history_put (requests : Table String (List RequestRecord)) (i j : String)
    (entries : List RequestRecord) :
    history { s with requests := requests.put j entries } i =
      if i = j then entries else (requests.get? i).getD [] := by
  unfold history
  rw [Table.get?_put]
  split <;> rfl

/-- A request changes at most the history it is written to. -/
theorem Answers.history_eq {q : Request} {reply : q.Reply} {i : String}
    (h : s.Answers fails q reply t) (hother : q.logged? ≠ some i) : t.history i = s.history i := by
  cases hlogged : q.logged? with
  | none => rw [history, h.requests_eq hlogged, history]
  | some j =>
    cases reply with
    | error e => rw [h.of_error]
    | ok x =>
      cases q with
      | createRequest record | saveRequest record =>
        obtain ⟨now, h⟩ := h.of_ok
        cases h
        have hne : i ≠ record.instanceId := fun heq ↦ hother (by rw [heq]; rfl)
        exact (history_put ..).trans (if_neg hne)
      | _ => cases hlogged

/-- A creation of a request appends it to the history of its instance. -/
theorem Answers.history_of_createRequest {record : RequestRecord} {u : Unit}
    (h : s.Answers fails (.createRequest record) (.ok u) t) :
    ∃ now, t.history record.instanceId =
      s.history record.instanceId ++ [{ record with updatedAt := now }] := by
  obtain ⟨now, h⟩ := h.of_ok
  cases h
  exact ⟨now, (history_put ..).trans (if_pos rfl)⟩

theorem replaceLatest_eq (record : RequestRecord) (entries : List RequestRecord) :
    replaceLatest record entries = entries.dropLast ++ [record] := by
  induction entries with
  | nil => rfl
  | cons first rest ih =>
    cases rest with
    | nil => rfl
    | cons next rest =>
      rw [replaceLatest, ih]
      rfl

/-- A save of a request puts it in the place of the latest entry in the history of its instance. -/
theorem Answers.history_of_saveRequest {record : RequestRecord} {u : Unit}
    (h : s.Answers fails (.saveRequest record) (.ok u) t) :
    ∃ now, t.history record.instanceId =
      (s.history record.instanceId).dropLast ++ [{ record with updatedAt := now }] := by
  obtain ⟨now, h⟩ := h.of_ok
  cases h
  exact ⟨now, ((history_put ..).trans (if_pos rfl)).trans (replaceLatest_eq ..)⟩

/-- What is read of a history is its latest entry. -/
theorem Answers.getRequest_ok {i : String} {record : RequestRecord}
    (h : s.Answers fails (.getRequest i) (.ok record) t) :
    (s.history i).getLast? = some record := by
  obtain ⟨now, h⟩ := h.of_ok
  have hget : s.getRequest i = .ok record := (Prod.mk.inj h).1
  unfold getRequest at hget
  cases hlast : (s.history i).getLast? with
  | none => simp [hlast] at hget
  | some latest =>
    rw [hlast] at hget
    cases hget
    rfl

theorem Answers.createRequest_error {record : RequestRecord} {e : Error}
    (h : s.Answers fails (.createRequest record) (.error e) t) : fails e := by
  rcases h.fails_or_answer with h | ⟨now, h⟩
  · exact h
  · cases h

theorem Answers.saveRequest_error {record : RequestRecord} {e : Error}
    (h : s.Answers fails (.saveRequest record) (.error e) t) : fails e := by
  rcases h.fails_or_answer with h | ⟨now, h⟩
  · exact h
  · cases h

/-- A request leaves every record under its own ids. -/
theorem Answers.keyed {q : Request} {reply : q.Reply} (h : s.Answers fails q reply t)
    (hs : s.Keyed) : t.Keyed := by
  cases reply with
  | error e =>
    rw [h.of_error]
    exact hs
  | ok x =>
    cases q with
    | createInstance record =>
      obtain ⟨-, now, rfl⟩ := h.createInstance_ok
      refine ⟨fun i found hfound ↦ ?_, hs.bindings⟩
      simp only [Table.get?_put] at hfound
      split at hfound
      next hi =>
        cases hfound
        exact hi.symm
      next => exact hs.instances i found hfound
    | saveInstance record =>
      obtain ⟨existing, -, now, rfl⟩ := h.saveInstance_ok
      refine ⟨fun i found hfound ↦ ?_, hs.bindings⟩
      simp only [Table.get?_put] at hfound
      split at hfound
      next hi =>
        cases hfound
        exact hi.symm
      next => exact hs.instances i found hfound
    | deleteInstance j =>
      obtain ⟨-, rfl⟩ := h.deleteInstance_ok
      refine ⟨fun i found hfound ↦ ?_, hs.bindings⟩
      simp only [Table.get?_remove] at hfound
      split at hfound
      next => cases hfound
      next => exact hs.instances i found hfound
    | createBinding record =>
      obtain ⟨-, now, rfl⟩ := h.createBinding_ok
      refine ⟨hs.instances, fun i b found hfound ↦ ?_⟩
      simp only [Table.get?_put] at hfound
      split at hfound
      next hib =>
        cases hib
        cases hfound
        exact ⟨rfl, rfl⟩
      next => exact hs.bindings i b found hfound
    | deleteBinding j c =>
      obtain ⟨-, rfl⟩ := h.deleteBinding_ok
      refine ⟨hs.instances, fun i b found hfound ↦ ?_⟩
      simp only [Table.get?_remove] at hfound
      split at hfound
      next => cases hfound
      next => exact hs.bindings i b found hfound
    | createRequest record | saveRequest record =>
      obtain ⟨now, h⟩ := h.of_ok
      cases h
      exact ⟨hs.instances, hs.bindings⟩
    | _ =>
      rw [h.of_read rfl]
      exact hs

end Store

end Brokerage
