import Brokerage.Proofs.BindOrder
import Brokerage.Proofs.Frame
import Mathlib.Data.List.Induction

/-!
What a binding refers to. A bind records a binding only for an instance that is there and under the
service of that instance, and nothing gives an instance another service while it is there. A
deprovision does not ask for the bindings of an instance, and the store could not tell: a binding
can be left without its instance, or with a later one of the same id, and then it cannot be unbound
or is unbound under the service it was bound under.
-/

set_option autoImplicit false

namespace Brokerage

/-- A provider that refreshes a record keeps its service. -/
def Setting.RefreshKeepsService (setting : Setting) : Prop :=
  ∀ serviceId record refreshed,
    setting.provider (.refresh serviceId record) (.ok refreshed) →
      refreshed.serviceId = record.serviceId

/-- The instance whose record an exchange deletes. -/
def Exchange.deleted? : Exchange Action.Reply → Option String
  | ⟨.store (.deleteInstance i), .ok _⟩ => some i
  | _ => none

theorem Exchange.eq_of_deleted {x : Exchange Action.Reply} {i : String}
    (h : x.deleted? = some i) : x = .store (.deleteInstance i) (.ok ()) := by
  unfold deleted? at h
  split at h
  next =>
    cases h
    rfl
  next => cases h

section Dialogues

variable {setting : Setting} {w w' : World} {exchanges : Dialogue} {i b : String}

/-- A binding that is there at the end of a dialogue which does not create it was there before. -/
theorem Setting.binding_of_steps {binding : BindingRecord} (h : Steps setting.Allows w exchanges w')
    (hcreates : ∀ x ∈ exchanges, x.created? ≠ some (.binding i b))
    (hfound : w'.store.bindings.get? (i, b) = some binding) :
    w.store.bindings.get? (i, b) = some binding := by
  induction h with
  | nil w => exact hfound
  | @cons w v last x exchanges head tail ih =>
    obtain ⟨hhead, htail⟩ := List.forall_mem_cons.1 hcreates
    have hafter := ih htail hfound
    by_cases hwritten : x.written? = some (.binding i b)
    · obtain ⟨question, reply⟩ := x
      cases question with
      | store q =>
        cases reply with
        | error e => cases hwritten
        | ok answer =>
          cases q with
          | createBinding record => exact absurd hwritten hhead
          | deleteBinding j c =>
            cases hwritten
            cases head.answers.binding_of_deleteBinding.symm.trans hafter
          | _ => cases hwritten
      | vault q => cases hwritten
      | provider q => cases hwritten
    · exact (head.sameRecord_of_written hwritten).of_binding.symm.trans hafter

/-- An instance that a dialogue does not delete stays, and keeps what every record that it is saved
as has. -/
theorem Setting.instance_of_steps {P : InstanceRecord → Prop}
    (h : Steps setting.Allows w exchanges w')
    (hdeletes : .store (.deleteInstance i) (.ok ()) ∉ exchanges)
    (hsaves : ∀ saved, .store (.saveInstance saved) (.ok ()) ∈ exchanges → saved.id = i →
      ∀ created updated, P { saved with createdAt := created, updatedAt := updated })
    (hfound : ∃ record, w.store.instances.get? i = some record ∧ P record) :
    ∃ record, w'.store.instances.get? i = some record ∧ P record := by
  refine h.preserves (P := fun v ↦ ∃ record, v.store.instances.get? i = some record ∧ P record)
    ?_ hfound
  rintro v x v' hx ⟨record, hrecord, hp⟩ hstep
  rcases hstep.instance_cases i with
    hsame | ⟨created, rfl, rfl⟩ | ⟨saved, rfl, rfl⟩ | rfl
  · exact ⟨record, hsame.of_instance.trans hrecord, hp⟩
  · cases hstep.answers.createInstance_ok.1.symm.trans hrecord
  · obtain ⟨created, now, hsaved⟩ := hstep.answers.instance_of_saveInstance
    exact ⟨_, hsaved, hsaves saved hx rfl created now⟩
  · exact absurd hx hdeletes

end Dialogues

namespace Broker

variable {broker : Broker} {setting : Setting} {w w' : World} {i b : String} {exchanges : Dialogue}

/-- The call has created a record of this. -/
def Served.Records (call : Served) (subject : Subject) : Prop :=
  ∃ x ∈ call.exchanges, x.created? = some subject

/-- The call has deleted the record of this instance. -/
def Served.Removes (call : Served) (i : String) : Prop :=
  ∃ x ∈ call.exchanges, x.deleted? = some i

theorem Served.removes_iff {call : Served} :
    call.Removes i ↔ .store (.deleteInstance i) (.ok ()) ∈ call.exchanges := by
  constructor
  · rintro ⟨x, hx, hdeleted⟩
    rw [← Exchange.eq_of_deleted hdeleted]
    exact hx
  · exact fun hdelete ↦ ⟨_, hdelete, rfl⟩

/-! ### Services of instances -/

theorem UpdateCourse.saved_over {details : UpdateDetails} {acceptsIncomplete : Bool}
    {result : Except BrokerError OperationResponse}
    (h : UpdateCourse broker i details acceptsIncomplete exchanges result)
    (hw : w.store.Keyed) (hsteps : Steps setting.Allows w exchanges w') {saved : InstanceRecord}
    (hsaved : .store (.saveInstance saved) (.ok ()) ∈ exchanges) :
    ∃ record, w.store.instances.get? saved.id = some record ∧
      record.serviceId = saved.serviceId := by
  cases h with
  | unread | refused | declined | unsaved => simp at hsaved
  | @unlogged record | @completed record =>
    obtain rfl : saved = _ := by simpa using hsaved
    have hread := (Setting.steps_getInstance_iff.1 hsteps).1
    exact ⟨record, hw.get?_id hread, rfl⟩

theorem DeprovisionCourse.saved_over {details : DeprovisionDetails} {acceptsIncomplete : Bool}
    {result : Except BrokerError OperationResponse}
    (h : DeprovisionCourse broker i details acceptsIncomplete exchanges result)
    (hw : w.store.Keyed) (hsteps : Steps setting.Allows w exchanges w') {saved : InstanceRecord}
    (hsaved : .store (.saveInstance saved) (.ok ()) ∈ exchanges) :
    ∃ record, w.store.instances.get? saved.id = some record ∧
      record.serviceId = saved.serviceId := by
  cases h with
  | unread | refused | declined | undeleted | deleted | unsaved => simp at hsaved
  | @condemned record =>
    obtain rfl : saved = _ := by simpa using hsaved
    have hread := (Setting.steps_getInstance_iff.1 hsteps).1
    exact ⟨record, hw.get?_id hread, rfl⟩

theorem PollCourse.saved_over {result : Except BrokerError LastOperation}
    (h : PollCourse broker i exchanges result) (hid : setting.RefreshKeepsId)
    (hservice : setting.RefreshKeepsService) (hw : w.store.Keyed)
    (hsteps : Steps setting.Allows w exchanges w') {saved : InstanceRecord}
    (hsaved : .store (.saveInstance saved) (.ok ()) ∈ exchanges) :
    ∃ record, w.store.instances.get? saved.id = some record ∧
      record.serviceId = saved.serviceId := by
  cases h with
  | unread | refused | idle | unanswered | unfinished | removed | unremoved | unreread
  | unrefreshed | unsettled => simp at hsaved
  | @settled record service operation hadmits hpending hcompletion reread refreshed =>
    obtain rfl : saved = _ := by simpa using hsaved
    rw [Setting.steps_getInstance_iff, Setting.steps_provider_iff, Setting.steps_getInstance_iff,
      Setting.steps_provider_iff] at hsteps
    obtain ⟨-, -, hread, hrefreshed, -⟩ := hsteps
    refine ⟨reread, ?_, (hservice _ _ _ hrefreshed).symm⟩
    rw [settledRecord, hid _ _ _ hrefreshed]
    exact hw.get?_id hread

/-- A call saves a record only over one of the same service that was there when it began. -/
theorem Serves.saved_over {call : Served} (h : broker.Serves setting w call w')
    (hid : setting.RefreshKeepsId) (hservice : setting.RefreshKeepsService) (hw : w.store.Keyed)
    {saved : InstanceRecord}
    (hsaved : .store (.saveInstance saved) (.ok ()) ∈ call.exchanges) :
    ∃ record, w.store.instances.get? saved.id = some record ∧
      record.serviceId = saved.serviceId := by
  obtain ⟨request, exchanges, result⟩ := call
  obtain ⟨hends, hsteps⟩ := h
  cases request with
  | provision i details acceptsIncomplete =>
    obtain ⟨-, hcreated⟩ :=
      (ProvisionCourse.of_ends hends).created_of_written _ hsaved (.instance saved.id) rfl
    cases hcreated
  | update => exact (UpdateCourse.of_ends hends).saved_over hw hsteps hsaved
  | deprovision => exact (DeprovisionCourse.of_ends hends).saved_over hw hsteps hsaved
  | lastOperation i details =>
    exact (PollCourse.of_ends details hends).saved_over hid hservice hw hsteps hsaved
  | bind i b details =>
    cases ((BindCourse.of_ends hends).created_of_written _ hsaved (.instance saved.id) rfl).1
  | unbind i b details =>
    cases ((UnbindCourse.of_ends details hends).deleted_of_written _ hsaved _ rfl).1

/-- An instance that a call does not delete stays, and under its service. -/
theorem Serves.service_stays {call : Served} (h : broker.Serves setting w call w')
    (hid : setting.RefreshKeepsId) (hservice : setting.RefreshKeepsService) (hw : w.store.Keyed)
    {serviceId : String} (hremoves : ¬ call.Removes i)
    (hfound : ∃ record, w.store.instances.get? i = some record ∧ record.serviceId = serviceId) :
    ∃ record, w'.store.instances.get? i = some record ∧ record.serviceId = serviceId := by
  refine Setting.instance_of_steps (P := fun record ↦ record.serviceId = serviceId) h.2
    (fun hdelete ↦ hremoves (Served.removes_iff.2 hdelete)) ?_ hfound
  intro saved hsaved hi created updated
  obtain ⟨found, hsavedOver, hsame⟩ := h.saved_over hid hservice hw hsaved
  obtain ⟨record, hrecord, rfl⟩ := hfound
  rw [hi] at hsavedOver
  cases hsavedOver.symm.trans hrecord
  exact hsame.symm

/-- A call that deletes the record of an instance leaves none. -/
theorem Serves.absent_of_removes {call : Served} (h : broker.Serves setting w call w')
    (hremoves : call.Removes i) : w'.store.instances.get? i = none := by
  have hdeletes := Served.removes_iff.1 hremoves
  have hcreates : ∀ x ∈ call.exchanges, x.created? ≠ some (.instance i) := by
    intro x hx hcreated
    rcases h.created_cases hx hcreated with
      ⟨j, details, acceptsIncomplete, hrequest, -⟩ | ⟨j, b, details, -, hsubject⟩
    · obtain ⟨request, exchanges, result⟩ := call
      cases hrequest
      -- a provision writes only to create
      cases ((ProvisionCourse.of_ends h.1).created_of_written _ hdeletes (.instance i) rfl).2
    · cases hsubject
  obtain ⟨early, late, v, v', hsplit, -, hdelete, hlate⟩ := h.2.split_of_mem hdeletes
  have habsent := Store.not_has_instance_iff.2 hdelete.answers.instance_of_deleteInstance
  refine Store.not_has_instance_iff.1 (Setting.absent_of_steps hlate (fun x hx ↦ ?_) habsent)
  exact hcreates x (by simp [hsplit, hx])

theorem Serves.absent_stays {call : Served} (h : broker.Serves setting w call w')
    (hrecords : ¬ call.Records (.instance i)) (habsent : w.store.instances.get? i = none) :
    w'.store.instances.get? i = none :=
  Store.not_has_instance_iff.1 (Setting.absent_of_steps h.2
    (fun x hx hcreated ↦ hrecords ⟨x, hx, hcreated⟩) (Store.not_has_instance_iff.2 habsent))

/-! ### Bindings and their instances -/

/-- Only a bind records a binding. -/
theorem Serves.bind_of_records {call : Served} (h : broker.Serves setting w call w')
    (hrecords : call.Records (.binding i b)) : ∃ details, call.request = .bind i b details := by
  obtain ⟨x, hx, hcreated⟩ := hrecords
  rcases h.created_cases hx hcreated with
    ⟨j, details, acceptsIncomplete, -, hsubject⟩ | ⟨j, c, details, hrequest, hsubject⟩
  · cases hsubject
  · cases hsubject
    exact ⟨details, hrequest⟩

/-- A call that records a binding finds its instance and leaves it as it is, and the binding is
recorded under the service of the instance. -/
theorem Serves.refers_of_records {call : Served} (h : broker.Serves setting w call w')
    (hrecords : call.Records (.binding i b)) :
    ∃ binding record, w'.store.bindings.get? (i, b) = some binding ∧
      w'.store.instances.get? i = some record ∧ record.serviceId = binding.serviceId := by
  obtain ⟨details, hrequest⟩ := h.bind_of_records hrecords
  obtain ⟨x, hx, hcreated⟩ := hrecords
  obtain ⟨request, exchanges, result⟩ := call
  cases hrequest
  obtain ⟨hends, hsteps⟩ := h
  have hcourse := BindCourse.of_ends hends
  obtain ⟨record, service, reader, vars, issued, hread, hadmits, -, rfl, -⟩ :=
    hcourse.of_created hx hcreated
  obtain ⟨plan, hresolve, -, -⟩ := admitBind_ok hadmits
  have hservice := serviceId_of_resolve (registry_resolve_of_resolve hresolve)
  -- the binding is not written again, and the instance is not written at all
  obtain ⟨early, late, v, v', rfl, -, hcreate, hlate⟩ := hsteps.split_of_mem hx
  obtain ⟨now, hbinding⟩ := hcreate.answers.binding_of_createBinding
  have honly : ∀ y ∈ late, y.written? = some (.binding i b) → y.created? = some (.binding i b) :=
    fun y hy hwritten ↦ (hcourse.created_of_written y (by simp [hy]) _ hwritten).2
  have hkept := Setting.sameRecord_of_unwritten hlate
    (Setting.unwritten_of_has hlate honly ⟨_, hbinding⟩)
  obtain ⟨before, after, t, t', hsplit, -, hget, hafter⟩ := hsteps.split_of_mem hread
  have hunwritten : ∀ y ∈ .store (.getInstance i) (.ok record) :: after,
      y.written? ≠ some (.instance i) := by
    intro y hy hwritten
    have hwrites := hcourse.created_of_written y (by rw [hsplit]; exact List.mem_append_right _ hy)
    cases (hwrites _ hwritten).1
  have hinstance := Setting.sameRecord_of_unwritten (.cons hget hafter) hunwritten
  exact ⟨_, record, hkept.of_binding.trans hbinding,
    hinstance.of_instance.trans hget.answers.getInstance_ok, hservice.symm⟩

/-- An unbind of a binding that is recorded is refused for want of its instance exactly if the
instance is not there. Assumes: a store that does not fail. -/
theorem UnbindCourse.lost_iff {result : Except BrokerError Unit}
    (h : UnbindCourse broker i b exchanges result) (hhealthy : ∀ e, ¬ setting.storeFails e)
    (hsteps : Steps setting.Allows w exchanges w') {binding : BindingRecord}
    (hfound : w.store.bindings.get? (i, b) = some binding) :
    result = .error (.instanceNotFound i) ↔ w.store.instances.get? i = none := by
  have hthere {read : BindingRecord} {record : InstanceRecord} {rest : Dialogue}
      (hsteps : Steps setting.Allows w (.store (.getBinding i b) (.ok read) ::
        .store (.getInstance i) (.ok record) :: rest) w') : w.store.instances.get? i ≠ none := by
    rw [Setting.steps_getBinding_iff, Setting.steps_getInstance_iff] at hsteps
    rw [hsteps.2.1]
    exact nofun
  cases h with
  | unread e =>
    have hrefused := (Steps.singleton_iff.1 hsteps).answers.getBinding_error hfound
    exact absurd hrefused (hhealthy e)
  | instanceUnread read e =>
    rw [Setting.steps_getBinding_iff, Steps.singleton_iff] at hsteps
    rcases hsteps.2.answers.getInstance_error with hfails | ⟨hnone, rfl⟩
    · exact absurd hfails (hhealthy e)
    · exact iff_of_true rfl hnone
  | unresolved read record hresolve =>
    refine iff_of_false ?_ (hthere hsteps)
    rintro ⟨⟩
    unfold Registry.resolve at hresolve
    split at hresolve <;> cases hresolve
  | uncleared | declined | undeleted | unbound => exact iff_of_false nofun (hthere hsteps)

/-! ### Runs -/

/-- Some call has deleted the record of an instance, and none since has recorded it anew. -/
def RemovedLast (i : String) (calls : List Served) : Prop :=
  ∃ early removal late, calls = early ++ removal :: late ∧ removal.Removes i ∧
    ∀ call ∈ late, ¬ call.Records (.instance i)

variable {calls : List Served}

theorem service_of_history (hrun : Steps (broker.Serves setting) w calls w')
    (hid : setting.RefreshKeepsId) (hservice : setting.RefreshKeepsService) (hw : w.store.Keyed)
    {serviceId : String} (hremoves : ∀ call ∈ calls, ¬ call.Removes i)
    (hfound : ∃ record, w.store.instances.get? i = some record ∧ record.serviceId = serviceId) :
    ∃ record, w'.store.instances.get? i = some record ∧ record.serviceId = serviceId := by
  have hkept := hrun.preserves (P := fun v ↦ v.store.Keyed ∧
    ∃ record, v.store.instances.get? i = some record ∧ record.serviceId = serviceId) ?_ ⟨hw, hfound⟩
  · exact hkept.2
  · rintro v call v' hcall ⟨hv, hfound⟩ hserves
    exact ⟨Setting.keyed_of_steps hserves.2 hv,
      hserves.service_stays hid hservice hv (hremoves call hcall) hfound⟩

/-- An instance that is recorded is there when the call has ended, unless it deletes it. -/
theorem Serves.present_of_records {call : Served} (h : broker.Serves setting w call w')
    (hremoves : ¬ call.Removes i) (hrecords : call.Records (.instance i)) :
    ∃ record, w'.store.instances.get? i = some record := by
  obtain ⟨x, hx, hcreated⟩ := hrecords
  obtain ⟨early, late, v, v', hsplit, -, hcreate, hlate⟩ := h.2.split_of_mem hx
  obtain ⟨record, hrecord⟩ := (hcreate.created hcreated).2
  have hlater : .store (.deleteInstance i) (.ok ()) ∉ late :=
    fun hdelete ↦ hremoves (Served.removes_iff.2 (by simp [hsplit, hdelete]))
  obtain ⟨record, hrecord, -⟩ := Setting.instance_of_steps (P := fun _ ↦ True) hlate hlater
    (fun _ _ _ _ _ ↦ trivial) ⟨record, hrecord, trivial⟩
  exact ⟨record, hrecord⟩

/-- An instance that was there is gone exactly if it was deleted and not recorded anew since. -/
theorem absent_iff_of_history (hrun : Steps (broker.Serves setting) w calls w')
    (hid : setting.RefreshKeepsId) (hservice : setting.RefreshKeepsService) (hw : w.store.Keyed)
    {record : InstanceRecord} (hfound : w.store.instances.get? i = some record) :
    w'.store.instances.get? i = none ↔ RemovedLast i calls := by
  constructor
  · intro habsent
    induction calls using List.reverseRecOn generalizing w' with
    | nil =>
      obtain rfl := Steps.nil_iff.1 hrun
      cases habsent.symm.trans hfound
    | append_singleton calls call ih =>
      obtain ⟨v, hbefore, hserves⟩ := Steps.concat_iff.1 hrun
      by_cases hremoves : call.Removes i
      · exact ⟨calls, call, [], rfl, hremoves, by simp⟩
      · have hgone : v.store.instances.get? i = none := by
          by_contra hthere
          obtain ⟨there, hthere⟩ := Option.ne_none_iff_exists'.1 hthere
          obtain ⟨kept, hkept, -⟩ := hserves.service_stays hid hservice
            (keyed_of_history hbefore hw) hremoves ⟨there, hthere, rfl⟩
          cases habsent.symm.trans hkept
        obtain ⟨early, removal, late, rfl, hremoval, hlate⟩ := ih hbefore hgone
        have hlast : ¬ call.Records (.instance i) := by
          intro hrecords
          obtain ⟨there, hthere⟩ := hserves.present_of_records hremoves hrecords
          cases habsent.symm.trans hthere
        exact ⟨early, removal, late ++ [call], by simp, hremoval,
          List.forall_mem_append.2 ⟨hlate, List.forall_mem_singleton.2 hlast⟩⟩
  · rintro ⟨early, removal, late, rfl, hremoval, hlate⟩
    obtain ⟨v, -, hrest⟩ := Steps.append_iff.1 hrun
    obtain ⟨v', hserves, hafter⟩ := Steps.cons_iff.1 hrest
    refine hafter.preserves (P := fun t ↦ t.store.instances.get? i = none) ?_
      (hserves.absent_of_removes hremoval)
    exact fun t call t' hcall habsent hserves ↦ hserves.absent_stays (hlate call hcall) habsent

/-- A binding that is there, and was not before the run, was recorded by one of its calls, and as it
is. -/
theorem recorded_of_history (hrun : Steps (broker.Serves setting) w calls w')
    (hnone : w.store.bindings.get? (i, b) = none) {binding : BindingRecord}
    (hfound : w'.store.bindings.get? (i, b) = some binding) :
    ∃ before bound after v v', calls = before ++ bound :: after ∧
      Steps (broker.Serves setting) w before v ∧ broker.Serves setting v bound v' ∧
      Steps (broker.Serves setting) v' after w' ∧ bound.Records (.binding i b) ∧
      (∀ call ∈ after, ¬ call.Records (.binding i b)) ∧
      v'.store.bindings.get? (i, b) = some binding := by
  induction calls using List.reverseRecOn generalizing w' with
  | nil =>
    obtain rfl := Steps.nil_iff.1 hrun
    cases hnone.symm.trans hfound
  | append_singleton calls call ih =>
    obtain ⟨u, hbefore, hserves⟩ := Steps.concat_iff.1 hrun
    by_cases hrecords : call.Records (.binding i b)
    · exact ⟨calls, call, [], u, w', rfl, hbefore, hserves, .nil w', hrecords, by simp, hfound⟩
    · have hearlier := Setting.binding_of_steps hserves.2
        (fun x hx hcreated ↦ hrecords ⟨x, hx, hcreated⟩) hfound
      obtain ⟨before, bound, after, v, v', rfl, hv, hbound, hafter, hbinds, hlater, hbinding⟩ :=
        ih hbefore hearlier
      exact ⟨before, bound, after ++ [call], v, v', by simp, hv, hbound,
        Steps.concat_iff.2 ⟨u, hafter, hserves⟩, hbinds,
        List.forall_mem_append.2 ⟨hlater, List.forall_mem_singleton.2 hrecords⟩, hbinding⟩

/-- A binding that is recorded was recorded by a bind of the run, for an instance that was there,
and it refers to an instance of its service that is there unless a later call has deleted the record
of the instance. Unbinding it is refused for want of the instance exactly if a later call has
deleted that record and none has recorded the instance anew. Assumes: a store that does not fail,
and providers whose refresh keeps the id and the service of a record; their other answers and the
vault are arbitrary. -/
theorem binding_refers_unless_removed (hhealthy : ∀ e, ¬ setting.storeFails e)
    (hid : setting.RefreshKeepsId) (hservice : setting.RefreshKeepsService) {vault : Vault}
    (hrun : Steps (broker.Serves setting) ⟨Store.empty, vault⟩ calls w)
    {binding : BindingRecord} (hfound : w.store.bindings.get? (i, b) = some binding) :
    ∃ before bound after, calls = before ++ bound :: after ∧
      (∃ details, bound.request = .bind i b details) ∧ bound.Records (.binding i b) ∧
      (∀ call ∈ after, ¬ call.Records (.binding i b)) ∧
      ((∀ call ∈ after, ¬ call.Removes i) → ∃ record,
        w.store.instances.get? i = some record ∧ record.serviceId = binding.serviceId) ∧
      ∀ call w', broker.Serves setting w call w' →
        (∃ details, call.request = .unbind i b details) →
        (call.result = .error (.instanceNotFound i) ↔ RemovedLast i after) := by
  obtain ⟨before, bound, after, v, v', rfl, hv, hbound, hafter, hbinds, hlater, hbinding⟩ :=
    recorded_of_history hrun (by rfl) hfound
  have hkeyed : v'.store.Keyed := Setting.keyed_of_steps hbound.2
    (keyed_of_history hv Store.keyed_empty)
  obtain ⟨recorded, record, hrecorded, hrecord, hrefers⟩ := hbound.refers_of_records hbinds
  cases hrecorded.symm.trans hbinding
  refine ⟨before, bound, after, rfl, hbound.bind_of_records hbinds, hbinds, hlater,
    fun hremoves ↦ ?_, ?_⟩
  · exact service_of_history hafter hid hservice hkeyed hremoves ⟨record, hrecord, hrefers⟩
  · rintro ⟨request, exchanges, result⟩ w' ⟨hends, hsteps⟩ ⟨details, hrequest⟩
    cases hrequest
    rw [← absent_iff_of_history hafter hid hservice hkeyed hrecord]
    exact (UnbindCourse.of_ends details hends).lost_iff hhealthy hsteps hfound

/-- An instance with a binding. -/
def boundLife : List Request :=
  [.provision "i-1" { serviceId := "db", planId := "small" } true, .lastOperation "i-1" {},
   .bind "i-1" "b-1" { serviceId := "db", planId := "small" }]

theorem refreshKeepsId_database : (Setting.faithful databaseProvider).RefreshKeepsId := by
  rintro serviceId record refreshed ⟨⟩
  rfl

theorem refreshKeepsService_database : (Setting.faithful databaseProvider).RefreshKeepsService := by
  rintro serviceId record refreshed ⟨⟩
  rfl

theorem binding_refers_of_boundLife :
    let served := (databaseBroker false).history "now" databaseProvider boundLife {}
    (∀ e, ¬ (Setting.faithful databaseProvider).storeFails e) ∧
      (Setting.faithful databaseProvider).RefreshKeepsId ∧
      (Setting.faithful databaseProvider).RefreshKeepsService ∧
      ∃ binding record, served.2.store.bindings.get? ("i-1", "b-1") = some binding ∧
        served.2.store.instances.get? "i-1" = some record ∧
        record.serviceId = binding.serviceId := by
  intro served
  have hhealthy : ∀ e, ¬ (Setting.faithful databaseProvider).storeFails e := fun _ h ↦ h
  have hrun := steps_history "now" databaseProvider (databaseBroker false) boundLife {}
  have hbound : (served.2.store.bindings.get? ("i-1", "b-1")).isSome = true := by decide +kernel
  obtain ⟨binding, hfound⟩ := Option.isSome_iff_exists.1 hbound
  obtain ⟨before, bound, after, hcalls, -, -, -, hrefers, -⟩ := binding_refers_unless_removed
    hhealthy refreshKeepsId_database refreshKeepsService_database hrun hfound
  have hremoves : ∀ call ∈ served.1, ¬ ∃ x ∈ call.exchanges, x.deleted? = some "i-1" := by
    decide +kernel
  obtain ⟨record, hrecord, hservice⟩ := hrefers fun call hcall ↦
    hremoves call (by rw [show served.1 = _ from hcalls]; simp [hcall])
  exact ⟨hhealthy, refreshKeepsId_database, refreshKeepsService_database, binding, record, hfound,
    hrecord, hservice⟩

/-- A binding does not refer to an instance in every run, even where nothing fails: a deprovision
leaves the bindings of the instance behind, and they cannot be unbound. -/
theorem not_binding_refers :
    ¬ ∀ (broker : Broker) (setting : Setting) (i b : String) (binding : BindingRecord)
      (calls : List Served) (w : World), (∀ e, ¬ setting.storeFails e) → setting.VaultInMemory →
      setting.RefreshKeepsId → setting.RefreshKeepsService →
      Steps (broker.Serves setting) {} calls w → w.store.bindings.get? (i, b) = some binding →
      (∃ record, w.store.instances.get? i = some record ∧
        record.serviceId = binding.serviceId) ∧
      ∀ call w', broker.Serves setting w call w' →
        (∃ details, call.request = .unbind i b details) →
        call.result ≠ .error (.instanceNotFound i) := by
  intro h
  let requests : List Request := boundLife ++
    [.deprovision "i-1" { serviceId := "db", planId := "small" } true, .lastOperation "i-1" {}]
  let served := (databaseBroker false).history "now" databaseProvider requests {}
  have hrun := steps_history "now" databaseProvider (databaseBroker false) requests {}
  have hbound : (served.2.store.bindings.get? ("i-1", "b-1")).isSome = true := by decide +kernel
  obtain ⟨binding, hfound⟩ := Option.isSome_iff_exists.1 hbound
  obtain ⟨-, hunbinds⟩ := h _ _ _ _ _ _ _ (fun _ hfails ↦ hfails) (fun _ _ _ _ hanswer ↦ hanswer)
    refreshKeepsId_database refreshKeepsService_database hrun hfound
  obtain ⟨after, hunbind, -⟩ := Steps.cons_iff.1 (steps_history "now" databaseProvider
    (databaseBroker false) [.unbind "i-1" "b-1" { serviceId := "db", planId := "small" }] served.2)
  exact hunbinds _ after hunbind ⟨_, rfl⟩ rfl

end Broker

end Brokerage
