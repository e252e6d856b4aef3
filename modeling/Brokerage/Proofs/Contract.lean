import Brokerage.Proofs.Answers
import Brokerage.Proofs.Steps
import Mathlib.Data.List.Induction

/-!
The contract of a record store, over every run of it. A log has the requests that were made one
after another, each with the time at which it was made and the reply it was given. What a log tells
of a record is what was last created or saved, unless it has been deleted since; a store that
began empty holds what its log tells and nothing else, and answers accordingly.
-/

set_option autoImplicit false

namespace Brokerage.Store

/-- A request made of a store, the time it was made at and the reply it was given. -/
structure Entry where
  now : String
  request : Request
  reply : request.Reply

abbrev Log := List Entry

namespace Entry

/-- A store answers so, and is left so. -/
def Step (s : Store) (x : Entry) (t : Store) : Prop :=
  s.answer x.now x.request = (x.reply, t)

/-- What the record is of that was written. -/
def written? (x : Entry) : Option Subject :=
  match x.reply with
  | .ok _ => x.request.subject?
  | .error _ => none

/-- What the record is of that was created. -/
def created? (x : Entry) : Option Subject :=
  match x.reply with
  | .ok _ => x.request.created?
  | .error _ => none

theorem written_of_created {x : Entry} {subject : Subject} (h : x.created? = some subject) :
    x.written? = some subject := by
  obtain ⟨now, q, reply⟩ := x
  cases reply with
  | error e => cases h
  | ok answer =>
    cases q with
    | createInstance | createBinding => exact h
    | _ => cases h

end Entry

/-! ### What a log tells -/

/-- The last entry that wrote the record of a subject. -/
def lastWrite (log : Log) (subject : Subject) : Option Entry :=
  log.reverse.find? fun x ↦ x.written? = some subject

/-- The last entry that created the record of a subject. -/
def lastCreation (log : Log) (subject : Subject) : Option Entry :=
  log.reverse.find? fun x ↦ x.created? = some subject

/-- The record of a binding that a request asks to have created. -/
def Request.bound? : Request → Option BindingRecord
  | .createBinding record => some record
  | _ => none

/-- The record of an instance: as it was last created or saved, unless the last write of it was its
deletion, with the times of its creation and of that write. -/
def instanceIn (log : Log) (i : String) : Option InstanceRecord := do
  let last ← lastWrite log (.instance i)
  let record ← last.request.recorded?
  let creation ← lastCreation log (.instance i)
  return { record with createdAt := creation.now, updatedAt := last.now }

/-- The record of a binding: as it was created, unless the last write of it was its deletion, with
the time of its creation. -/
def bindingIn (log : Log) (i b : String) : Option BindingRecord := do
  let last ← lastWrite log (.binding i b)
  let record ← last.request.bound?
  return { record with createdAt := last.now }

/-- The history of an instance after a request: one that is created is appended, and one that is
saved takes the place of the last, if there is one. -/
def Request.logTo (now i : String) (history : List RequestRecord) :
    Request → List RequestRecord
  | .createRequest record =>
    if record.instanceId = i then history ++ [{ record with updatedAt := now }] else history
  | .saveRequest record =>
    if record.instanceId = i then history.dropLast ++ [{ record with updatedAt := now }]
    else history
  | _ => history

/-- The requests made for an instance, oldest first. -/
def historyIn (log : Log) (i : String) : List RequestRecord :=
  log.foldl (fun history x ↦ x.request.logTo x.now i history) []

/-- The reply that a log calls for. -/
def replyAfter (log : Log) : (q : Request) → q.Reply
  | .instanceExists i => .ok (instanceIn log i).isSome
  | .getInstance i =>
    match instanceIn log i with
    | some record => .ok record
    | none => .error (.instanceNotFound i)
  | .createInstance record =>
    match instanceIn log record.id with
    | some _ => .error (.instanceAlreadyExists record.id)
    | none => .ok ()
  | .saveInstance record =>
    match instanceIn log record.id with
    | some _ => .ok ()
    | none => .error (.instanceNotFound record.id)
  | .deleteInstance i =>
    match instanceIn log i with
    | some _ => .ok ()
    | none => .error (.instanceNotFound i)
  | .bindingExists i b => .ok (bindingIn log i b).isSome
  | .getBinding i b =>
    match bindingIn log i b with
    | some record => .ok record
    | none => .error (.bindingNotFound i b)
  | .createBinding record =>
    match bindingIn log record.instanceId record.bindingId with
    | some _ => .error (.bindingAlreadyExists record.instanceId record.bindingId)
    | none => .ok ()
  | .deleteBinding i b =>
    match bindingIn log i b with
    | some _ => .ok ()
    | none => .error (.bindingNotFound i b)
  | .createRequest _ => .ok ()
  | .saveRequest _ => .ok ()
  | .getRequest i =>
    match (historyIn log i).getLast? with
    | some record => .ok record
    | none => .error (.requestNotFound i)

/-! ### One more entry -/

section Concat

variable {log : Log} {x : Entry} {subject : Subject} {i b : String}

theorem lastWrite_concat_of_eq (h : x.written? = some subject) :
    lastWrite (log ++ [x]) subject = some x := by
  simp [lastWrite, h]

theorem lastWrite_concat_of_ne (h : x.written? ≠ some subject) :
    lastWrite (log ++ [x]) subject = lastWrite log subject := by
  simp [lastWrite, h]

theorem lastCreation_concat_of_eq (h : x.created? = some subject) :
    lastCreation (log ++ [x]) subject = some x := by
  simp [lastCreation, h]

theorem lastCreation_concat_of_ne (h : x.created? ≠ some subject) :
    lastCreation (log ++ [x]) subject = lastCreation log subject := by
  simp [lastCreation, h]

/-- An entry changes what is told of the record that it wrote, and of no other. -/
theorem instanceIn_concat_of_ne (h : x.written? ≠ some (.instance i)) :
    instanceIn (log ++ [x]) i = instanceIn log i := by
  have hcreated : x.created? ≠ some (.instance i) :=
    fun hcreated ↦ h (Entry.written_of_created hcreated)
  rw [instanceIn, lastWrite_concat_of_ne h, lastCreation_concat_of_ne hcreated, instanceIn]

theorem bindingIn_concat_of_ne (h : x.written? ≠ some (.binding i b)) :
    bindingIn (log ++ [x]) i b = bindingIn log i b := by
  rw [bindingIn, lastWrite_concat_of_ne h, bindingIn]

theorem historyIn_concat :
    historyIn (log ++ [x]) i = x.request.logTo x.now i (historyIn log i) := by
  simp [historyIn]

/-- What is told of an instance has the time of its creation. -/
theorem createdAt_of_instanceIn {record : InstanceRecord} (h : instanceIn log i = some record) :
    ∃ creation, lastCreation log (.instance i) = some creation ∧
      record.createdAt = creation.now := by
  simp only [instanceIn, Option.bind_eq_bind, Option.bind_eq_some_iff] at h
  obtain ⟨last, -, written, -, creation, hcreation, hrecord⟩ := h
  cases hrecord
  exact ⟨creation, hcreation, rfl⟩

end Concat

/-! ### Runs -/

/-- A store holds what a log tells, and nothing else. -/
structure Holds (s : Store) (log : Log) : Prop where
  instances : ∀ i, s.instances.get? i = instanceIn log i
  bindings : ∀ i b, s.bindings.get? (i, b) = bindingIn log i b
  histories : ∀ i, s.history i = historyIn log i

theorem holds_empty : Holds empty [] :=
  ⟨fun _ ↦ rfl, fun _ _ ↦ rfl, fun _ ↦ rfl⟩

section Step

variable {s t : Store} {log : Log} {x : Entry}

theorem Entry.Step.answers (h : x.Step s t) :
    s.Answers (fun _ ↦ False) x.request x.reply t :=
  .inl ⟨x.now, h⟩

/-- A step changes at most the record that it writes. -/
theorem Entry.Step.sameRecord {subject : Subject} (h : x.Step s t)
    (hwritten : x.written? ≠ some subject) : s.SameRecord t subject := by
  obtain ⟨now, q, reply⟩ := x
  cases reply with
  | error e =>
    rw [h.answers.of_error]
    exact .rfl subject
  | ok answer => exact h.answers.sameRecord hwritten

theorem Holds.instance_of_step (h : Holds s log) (hstep : x.Step s t) (i : String) :
    t.instances.get? i = instanceIn (log ++ [x]) i := by
  by_cases hwritten : x.written? = some (.instance i)
  case neg =>
    rw [instanceIn_concat_of_ne hwritten, ← h.instances i]
    exact (hstep.sameRecord hwritten).of_instance
  rw [instanceIn, lastWrite_concat_of_eq hwritten]
  obtain ⟨now, q, reply⟩ := x
  cases reply with
  | error e => cases hwritten
  | ok answer =>
    cases q with
    | createInstance record =>
      cases hwritten
      obtain ⟨-, rfl⟩ := createInstance_ok hstep
      rw [lastCreation_concat_of_eq rfl]
      exact (Table.get?_put ..).trans (if_pos rfl)
    | saveInstance record =>
      cases hwritten
      obtain ⟨existing, hfound, rfl⟩ := saveInstance_ok hstep
      obtain ⟨creation, hcreation, hcreated⟩ :=
        createdAt_of_instanceIn ((h.instances record.id).symm.trans hfound)
      rw [lastCreation_concat_of_ne (by rintro ⟨⟩), hcreation]
      refine ((Table.get?_put ..).trans (if_pos rfl)).trans ?_
      rw [hcreated]
      rfl
    | deleteInstance j =>
      cases hwritten
      exact hstep.answers.instance_of_deleteInstance
    | _ => cases hwritten

theorem Holds.binding_of_step (h : Holds s log) (hstep : x.Step s t) (i b : String) :
    t.bindings.get? (i, b) = bindingIn (log ++ [x]) i b := by
  by_cases hwritten : x.written? = some (.binding i b)
  case neg =>
    rw [bindingIn_concat_of_ne hwritten, ← h.bindings i b]
    exact (hstep.sameRecord hwritten).of_binding
  rw [bindingIn, lastWrite_concat_of_eq hwritten]
  obtain ⟨now, q, reply⟩ := x
  cases reply with
  | error e => cases hwritten
  | ok answer =>
    cases q with
    | createBinding record =>
      cases hwritten
      obtain ⟨-, rfl⟩ := createBinding_ok hstep
      exact (Table.get?_put ..).trans (if_pos rfl)
    | deleteBinding j c =>
      cases hwritten
      exact hstep.answers.binding_of_deleteBinding
    | _ => cases hwritten

/-- A step changes a history as its request calls for. -/
theorem Entry.Step.history_eq (h : x.Step s t) (i : String) :
    t.history i = x.request.logTo x.now i (s.history i) := by
  obtain ⟨now, q, reply⟩ := x
  cases q with
  | createRequest record =>
    cases h
    refine (history_put ..).trans ?_
    by_cases hi : i = record.instanceId
    · simp [Request.logTo, hi]
    · simp [Request.logTo, hi, Ne.symm hi, history]
  | saveRequest record =>
    cases h
    refine (history_put ..).trans ?_
    by_cases hi : i = record.instanceId
    · simp [Request.logTo, hi, replaceLatest_eq]
    · simp [Request.logTo, hi, Ne.symm hi, history]
  | _ => exact h.answers.history_eq (by simp [Request.logged?])

theorem Holds.step (h : Holds s log) (hstep : x.Step s t) : Holds t (log ++ [x]) where
  instances := h.instance_of_step hstep
  bindings := h.binding_of_step hstep
  histories i := by rw [hstep.history_eq, h.histories, historyIn_concat]

end Step

theorem holds_of_steps {s : Store} {log : Log} (hrun : Steps Entry.Step empty log s) :
    Holds s log := by
  induction log using List.reverseRecOn generalizing s with
  | nil =>
    rw [Steps.nil_iff.1 hrun]
    exact holds_empty
  | append_singleton log x ih =>
    obtain ⟨t, hbefore, hstep⟩ := Steps.concat_iff.1 hrun
    exact (ih hbefore).step hstep

/-! ### Replies -/

section Replies

variable {s : Store} {log : Log}

attribute [local simp] answer replyAfter written Table.contains getInstance createInstance
  saveInstance deleteInstance getBinding createBinding deleteBinding getRequest

/-- What a store replies is what its log calls for, at whatever time it is. -/
theorem Holds.reply_eq (h : Holds s log) (now : String) (q : Request) :
    (s.answer now q).1 = replyAfter log q := by
  cases q with
  | instanceExists i => simp [h.instances]
  | getInstance i | deleteInstance i => cases hi : instanceIn log i <;> simp [h.instances, hi]
  | createInstance record | saveInstance record =>
    cases hi : instanceIn log record.id <;> simp [h.instances, hi]
  | bindingExists i b => simp [h.bindings]
  | getBinding i b | deleteBinding i b => cases hib : bindingIn log i b <;> simp [h.bindings, hib]
  | createBinding record =>
    cases hib : bindingIn log record.instanceId record.bindingId <;> simp [h.bindings, hib]
  | createRequest record | saveRequest record => simp
  | getRequest i => cases hi : (historyIn log i).getLast? <;> simp [h.histories, hi]

end Replies

/-! ### Histories -/

/-- Every history that there is has an entry, and only entries of its own instance. -/
def RequestsKeyed (s : Store) : Prop :=
  ∀ i history, s.requests.get? i = some history →
    history ≠ [] ∧ ∀ record ∈ history, record.instanceId = i

/-- A history goes on as another: no entry but the last is changed, and none is lost. -/
def GoesOn (history later : List RequestRecord) : Prop :=
  history.dropLast <+: later.dropLast ∧ history.length ≤ later.length

theorem GoesOn.refl (history : List RequestRecord) : GoesOn history history :=
  ⟨List.prefix_refl _, Nat.le_refl _⟩

theorem GoesOn.trans {first second third : List RequestRecord} (hsecond : GoesOn first second)
    (hthird : GoesOn second third) : GoesOn first third :=
  ⟨hsecond.1.trans hthird.1, Nat.le_trans hsecond.2 hthird.2⟩

theorem goesOn_logTo (now i : String) (history : List RequestRecord) (q : Request) :
    GoesOn history (q.logTo now i history) := by
  cases q with
  | createRequest record =>
    rw [Request.logTo]
    split
    · refine ⟨?_, by simp⟩
      rw [List.dropLast_concat]
      exact List.dropLast_prefix history
    · exact .refl history
  | saveRequest record =>
    rw [Request.logTo]
    split
    · refine ⟨by simp, ?_⟩
      rw [List.length_append, List.length_dropLast, List.length_singleton]
      omega
    · exact .refl history
  | _ => exact .refl history

section Histories

variable {s t : Store} {log : Log} {x : Entry}

theorem goesOn_of_steps (hrun : Steps Entry.Step s log t) (i : String) :
    GoesOn (s.history i) (t.history i) := by
  refine hrun.preserves (P := fun v ↦ GoesOn (s.history i) (v.history i)) ?_ (.refl _)
  intro v x v' _ hv hstep
  rw [hstep.history_eq]
  exact hv.trans (goesOn_logTo ..)

theorem mem_history {record : RequestRecord} {i : String} (h : RequestsKeyed s)
    (hrecord : record ∈ s.history i) : record.instanceId = i := by
  unfold history at hrecord
  cases hfound : s.requests.get? i with
  | none => simp [hfound] at hrecord
  | some history =>
    rw [hfound] at hrecord
    exact (h i history hfound).2 record hrecord

/-- A history to which an entry of its own instance is put at the end is a good one. -/
theorem RequestsKeyed.put (h : RequestsKeyed s) {earlier : List RequestRecord}
    (record : RequestRecord) (hearlier : ∀ r ∈ earlier, r ∈ s.history record.instanceId) :
    RequestsKeyed
      { s with requests := s.requests.put record.instanceId (earlier ++ [record]) } := by
  intro i history hfound
  rw [Table.get?_put] at hfound
  split at hfound
  next hi =>
    cases hfound
    refine ⟨by simp, fun r hr ↦ ?_⟩
    rcases List.mem_append.1 hr with hr | hr
    · rw [mem_history h (hearlier r hr), hi]
    · rw [List.mem_singleton.1 hr, hi]
  next => exact h i history hfound

theorem RequestsKeyed.step (h : RequestsKeyed s) (hstep : x.Step s t) : RequestsKeyed t := by
  obtain ⟨now, q, reply⟩ := x
  cases hlogged : q.logged? with
  | none =>
    unfold RequestsKeyed
    rw [hstep.answers.requests_eq hlogged]
    exact h
  | some i =>
    cases q with
    | createRequest record =>
      cases hstep
      exact h.put { record with updatedAt := now } fun _ hr ↦ hr
    | saveRequest record =>
      cases hstep
      rw [saveRequest, replaceLatest_eq]
      exact h.put { record with updatedAt := now }
        fun _ hr ↦ (List.dropLast_prefix _).subset hr
    | _ => cases hlogged

theorem requestsKeyed_of_steps (hrun : Steps Entry.Step empty log s) : RequestsKeyed s :=
  hrun.preserves (P := RequestsKeyed) (fun _ _ _ _ hv hstep ↦ hv.step hstep)
    (fun _ _ hfound ↦ nomatch hfound)

theorem keyed_of_steps (hrun : Steps Entry.Step empty log s) : s.Keyed :=
  hrun.preserves (P := Keyed) (fun _ _ _ _ hv hstep ↦ hstep.answers.keyed hv) keyed_empty

end Histories

/-! ### The contract -/

/-- What a record store keeps to once the requests of a log have been made of it. -/
structure Contract (log : Log) (s : Store) : Prop where
  /-- Every instance and every binding lies under its own ids. -/
  keyed : s.Keyed
  /-- Every request lies under its own id, and no history is empty that is there. -/
  requestsKeyed : RequestsKeyed s
  /-- What is stored is what the log tells, with the times at which it was stored. -/
  holds : Holds s log
  /-- What is there can be read and not be created, and what is not can be created; else the reply
  names the key. -/
  replies : ∀ now q, (s.answer now q).1 = replyAfter log q
  /-- A request that fails changes nothing. -/
  refusals : ∀ now q e, (s.answer now q).1 = .error e → (s.answer now q).2 = s
  /-- A request that is created is put at the end of its history. -/
  appends : ∀ now record, (s.answer now (.createRequest record)).2.history record.instanceId =
    s.history record.instanceId ++ [{ record with updatedAt := now }]
  /-- A request that is saved takes the last place in its history, or the first if it is empty. -/
  replaces : ∀ now record, (s.answer now (.saveRequest record)).2.history record.instanceId =
    (s.history record.instanceId).dropLast ++ [{ record with updatedAt := now }]
  /-- Nothing else touches a history. -/
  untouched : ∀ now q i, q.logged? ≠ some i → (s.answer now q).2.history i = s.history i
  /-- Whatever is asked later, a history only goes on. -/
  goesOn : ∀ later t i, Steps Entry.Step s later t → GoesOn (s.history i) (t.history i)

/-- A store that began empty keeps the contract, whatever has been asked of it. -/
theorem keeps_contract {s : Store} {log : Log} (hrun : Steps Entry.Step empty log s) :
    Contract log s := by
  have hholds := holds_of_steps hrun
  have hstep (now : String) (q : Request) :
      Entry.Step s ⟨now, q, (s.answer now q).1⟩ (s.answer now q).2 := rfl
  refine ⟨keyed_of_steps hrun, requestsKeyed_of_steps hrun, hholds, hholds.reply_eq,
    fun now q e he ↦ ?_, fun now record ↦ ?_, fun now record ↦ ?_, fun now q i hother ↦ ?_,
    fun later t i ↦ (goesOn_of_steps · i)⟩
  · have hanswers := (hstep now q).answers
    rw [he] at hanswers
    exact hanswers.of_error
  · rw [(hstep now _).history_eq]
    exact if_pos rfl
  · rw [(hstep now _).history_eq]
    exact if_pos rfl
  · exact (hstep now q).answers.history_eq hother

/-- Makes requests of a store, each at its time. -/
def replay : List (String × Request) → Store → Log × Store
  | [], s => ([], s)
  | (now, q) :: rest, s =>
    let (log, last) := replay rest (s.answer now q).2
    (⟨now, q, (s.answer now q).1⟩ :: log, last)

theorem steps_replay (requests : List (String × Request)) (s : Store) :
    Steps Entry.Step s (replay requests s).1 (replay requests s).2 := by
  induction requests generalizing s with
  | nil => exact .nil s
  | cons request rest ih => exact .cons (t := (s.answer request.1 request.2).2) rfl (ih _)

/-- An instance that is created twice and saved once, a request for it that is made and saved, and a
binding of it that is created and deleted, all with times that are not theirs. -/
def forgedTimes : List (String × Request) :=
  let database (planId : String) : InstanceRecord :=
    { id := "i-1", serviceId := "db", planId, createdAt := "forged", updatedAt := "forged" }
  let binding : BindingRecord :=
    { instanceId := "i-1", bindingId := "b-1", serviceId := "db", otherDetails := "null",
      createdAt := "forged" }
  let request (requestDetails : String) : RequestRecord :=
    { instanceId := "i-1", requestDetails, updatedAt := "forged" }
  [("1", .createInstance (database "small")), ("2", .createInstance (database "large")),
   ("3", .saveInstance (database "medium")), ("4", .createRequest (request "first")),
   ("5", .saveRequest (request "second")), ("6", .createBinding binding),
   ("7", .deleteBinding "i-1" "b-1")]

theorem keeps_contract_of_forgedTimes :
    let s := (replay forgedTimes empty).2
    (s.answer "8" (.getInstance "i-1")).1 = .ok
        { id := "i-1", serviceId := "db", planId := "medium", createdAt := "1", updatedAt := "3" } ∧
      (s.answer "8" (.getBinding "i-1" "b-1")).1 = .error (.bindingNotFound "i-1" "b-1") ∧
      s.history "i-1" =
        [{ instanceId := "i-1", requestDetails := "second", updatedAt := "5" }] := by
  intro s
  have hcontract : Contract (replay forgedTimes empty).1 s :=
    keeps_contract (steps_replay forgedTimes empty)
  exact ⟨(hcontract.replies "8" _).trans rfl, (hcontract.replies "8" _).trans rfl,
    (hcontract.holds.histories "i-1").trans rfl⟩

end Brokerage.Store
