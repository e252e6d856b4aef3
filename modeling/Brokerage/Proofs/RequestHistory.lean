import Brokerage.Proofs.References

/-!
The requests kept for an instance. A provision appends to the history of the id, an update puts its
request in the place of the latest entry, and nothing else writes to it. So the entries of an
instance that is gone are kept by a later one of the same id as long as the first thing that is
written for it is the request it was provisioned with. A provision that could not record its request
has said so, and then an update writes over the last entry of the instance before.
-/

set_option autoImplicit false

namespace Brokerage.Broker

variable {broker : Broker} {setting : Setting} {w w' : World} {i : String}

/-- The call has written to the history of this instance. -/
def Served.logs (i : String) (call : Served) : Bool :=
  call.exchanges.any fun x ↦ x.logged? = some i

/-- What a call does to the history of an instance. -/
inductive Served.Rewrites (i : String) (call : Served) (s t : Store) : Prop
  | silent (hlogs : call.logs i = false) (hsame : t.history i = s.history i)
  | appended {details : ProvisionDetails} {acceptsIncomplete : Bool} (now : String)
    (hlogs : call.logs i = true) (hrequest : call.request = .provision i details acceptsIncomplete)
    (happended : t.history i =
      s.history i ++ [{ requestRecord i details.rawParameters with updatedAt := now }])
  | replaced {details : UpdateDetails} {acceptsIncomplete : Bool} (now : String)
    (hlogs : call.logs i = true) (hrequest : call.request = .update i details acceptsIncomplete)
    (hpresent : ∃ record, s.instances.get? i = some record)
    (hreplaced : t.history i =
      (s.history i).dropLast ++ [{ requestRecord i details.rawParameters with updatedAt := now }])

theorem Served.Rewrites.of_silent {call : Served} (h : broker.Serves setting w call w')
    (hlogs : call.logs i = false) : call.Rewrites i w.store w'.store := by
  refine .silent hlogs (Setting.history_eq_of_steps h.2 fun x hx ↦ ?_)
  simpa using List.any_eq_false.1 hlogs x hx

/-- A call appends to the history of an instance only if it is a provision of it, and replaces the
latest entry only if it is an update and the instance is there. -/
theorem Serves.rewrites {call : Served} (h : broker.Serves setting w call w') (i : String) :
    call.Rewrites i w.store w'.store := by
  cases hlogs : call.logs i with
  | false => exact .of_silent h hlogs
  | true =>
    obtain ⟨request, exchanges, result⟩ := call
    obtain ⟨hends, hsteps⟩ := h
    cases request with
    | provision j details acceptsIncomplete =>
      cases ProvisionCourse.of_ends hends with
      | unchecked | taken | refused | declined | unrecorded | unlogged => cases hlogs
      | recorded hadmits outcome =>
        obtain rfl : j = i := by simpa [Served.logs, Exchange.logged?, Store.Request.logged?,
          requestRecord] using hlogs
        rw [Setting.steps_instanceExists_iff, Setting.steps_provider_iff,
          Steps.cons_iff] at hsteps
        obtain ⟨-, -, t, hcreate, hlog⟩ := hsteps
        have hsame : t.store.history j = w.store.history j := hcreate.history_eq nofun
        obtain ⟨now, hlogged⟩ := (Steps.singleton_iff.1 hlog).answers.history_of_createRequest
        refine .appended now hlogs rfl ?_
        rw [← hsame]
        exact hlogged
    | update j details acceptsIncomplete =>
      cases UpdateCourse.of_ends hends with
      | unread | refused | declined | unsaved | unlogged => cases hlogs
      | completed hadmits outcome =>
        obtain rfl : j = i := by simpa [Served.logs, Exchange.logged?, Store.Request.logged?,
          requestRecord] using hlogs
        rw [Setting.steps_getInstance_iff, Setting.steps_provider_iff, Steps.cons_iff] at hsteps
        obtain ⟨hread, -, t, hsave, hlog⟩ := hsteps
        have hsame : t.store.history j = w.store.history j := hsave.history_eq nofun
        obtain ⟨now, hlogged⟩ := (Steps.singleton_iff.1 hlog).answers.history_of_saveRequest
        refine .replaced now hlogs rfl ⟨_, hread⟩ ?_
        rw [← hsame]
        exact hlogged
    | deprovision =>
      cases DeprovisionCourse.of_ends hends <;> cases hlogs
    | lastOperation j details =>
      cases PollCourse.of_ends details hends with
      | removed _ _ _ reply => cases reply <;> cases hlogs
      | _ => cases hlogs
    | bind => cases BindCourse.of_ends hends <;> cases hlogs
    | unbind j b details =>
      cases UnbindCourse.of_ends details hends with
      | unread | instanceUnread | unresolved => cases hlogs
      | uncleared _ _ _ hclear | declined _ _ _ hclear | undeleted _ _ _ hclear
      | unbound _ _ _ hclear => cases hclear <;> cases hlogs

/-! ### Runs -/

/-- The first call that writes to the history of an instance is an update. -/
def UpdatedFirst (i : String) (calls : List Served) : Bool :=
  (calls.find? (Served.logs i)).any fun call ↦ call.request.action = .update

variable {calls : List Served} {entries : List RequestRecord}

/-- What a history has before its latest entry stays before its latest entry. -/
theorem prefix_of_history (hrun : Steps (broker.Serves setting) w calls w')
    (hstart : entries <+: (w.store.history i).dropLast) :
    entries <+: (w'.store.history i).dropLast := by
  refine hrun.preserves (P := fun t ↦ entries <+: (t.store.history i).dropLast) ?_ hstart
  intro t call t' _ hkept hserves
  cases hserves.rewrites i with
  | silent _ hsame =>
    rw [hsame]
    exact hkept
  | appended now _ _ happended =>
    rw [happended, List.dropLast_concat]
    exact hkept.trans (List.dropLast_prefix _)
  | replaced now _ _ _ hreplaced =>
    rw [hreplaced, List.dropLast_concat]
    exact hkept

theorem history_eq_of_history (hrun : Steps (broker.Serves setting) w calls w')
    (hlogs : ∀ call ∈ calls, call.logs i = false) :
    w'.store.history i = w.store.history i := by
  refine hrun.preserves (P := fun t ↦ t.store.history i = w.store.history i) ?_ rfl
  intro t call t' hcall hsame hserves
  refine Eq.trans ?_ hsame
  cases hserves.rewrites i with
  | silent _ hsame => exact hsame
  | appended _ htrue | replaced _ htrue => cases (hlogs call hcall).symm.trans htrue

/-- Where the first thing that is written to a history is not an update, all of it stays. -/
theorem prefix_of_not_updatedFirst (hrun : Steps (broker.Serves setting) w calls w')
    (hfirst : UpdatedFirst i calls = false) : w.store.history i <+: w'.store.history i := by
  cases hfind : calls.find? (Served.logs i) with
  | none =>
    have hsame := history_eq_of_history hrun fun call hcall ↦
      Bool.eq_false_iff.2 (List.find?_eq_none.1 hfind call hcall)
    exact hsame ▸ List.prefix_refl _
  | some call =>
    obtain ⟨hlogs, early, late, rfl, hearly⟩ := List.find?_eq_some_iff_append.1 hfind
    obtain ⟨t, hbefore, hrest⟩ := Steps.append_iff.1 hrun
    obtain ⟨t', hserves, hafter⟩ := Steps.cons_iff.1 hrest
    have hsame := history_eq_of_history hbefore fun call hcall ↦ by simpa using hearly call hcall
    cases hserves.rewrites i with
    | silent hfalse => cases hfalse.symm.trans hlogs
    | appended now _ _ happended =>
      have hkept : (t'.store.history i).dropLast = w.store.history i := by
        rw [happended, List.dropLast_concat, hsame]
      exact (prefix_of_history hafter (hkept ▸ List.prefix_refl _)).trans (List.dropLast_prefix _)
    | replaced now _ hrequest =>
      simp [UpdatedFirst, hfind, hrequest, Request.action] at hfirst

/-- The provision has told that it could not record its request. -/
def Served.TellsUnlogged (i : String) (call : Served) : Prop :=
  (∃ details acceptsIncomplete, call.request = .provision i details acceptsIncomplete) ∧
    ∃ e, call.result = .error (.orphanedResource "provision" "recording the provision request"
      unrecordedRequest e)

/-- A call that records an instance and does not write to its history has told so. -/
theorem Serves.tells_of_records {call : Served} (h : broker.Serves setting w call w')
    (hrecords : call.Records (.instance i)) (hlogs : call.logs i = false) :
    call.TellsUnlogged i := by
  obtain ⟨x, hx, hcreated⟩ := hrecords
  rcases h.created_cases hx hcreated with
    ⟨j, details, acceptsIncomplete, hrequest, hsubject⟩ | ⟨j, b, details, -, hsubject⟩
  · obtain ⟨request, exchanges, result⟩ := call
    cases hsubject
    cases hrequest
    refine ⟨⟨details, acceptsIncomplete, rfl⟩, ?_⟩
    cases ProvisionCourse.of_ends h.1 with
    | unchecked | taken | refused | declined | unrecorded =>
      cases (Exchange.eq_none_of_all (f := Exchange.created?) rfl x hx).symm.trans hcreated
    | unlogged hadmits outcome e => exact ⟨e, rfl⟩
    | recorded =>
      simp [Served.logs, Exchange.logged?, Store.Request.logged?, requestRecord] at hlogs
  · cases hsubject

/-- An update, which follows other calls, has put its request in the place of the latest entry that
a history had before them, and a provision among them has told that it recorded none. -/
structure OverwritesEarlier (broker : Broker) (setting : Setting) (i : String) (w : World)
    (early : List Served) (update : Served) (t : World) : Prop where
  run : Steps (broker.Serves setting) w (early ++ [update]) t
  replaced : ∃ details acceptsIncomplete now,
    update.request = .update i details acceptsIncomplete ∧
      t.store.history i = (w.store.history i).dropLast ++
        [{ requestRecord i details.rawParameters with updatedAt := now }]
  told : ∃ call ∈ early, call.TellsUnlogged i

/-- An update that is the first to write to a history finds the instance recorded. Where it was not
recorded before, a call has recorded it without writing to the history. -/
theorem overwrites_of_updatedFirst (hrun : Steps (broker.Serves setting) w calls w')
    (habsent : w.store.instances.get? i = none) (hfirst : UpdatedFirst i calls = true) :
    ∃ early update late t, calls = early ++ update :: late ∧
      OverwritesEarlier broker setting i w early update t := by
  obtain ⟨update, hfind, haction⟩ := (Option.any_eq_true ..).1 hfirst
  obtain ⟨hlogs, early, late, rfl, hearly⟩ := List.find?_eq_some_iff_append.1 hfind
  have hsilent : ∀ call ∈ early, call.logs i = false := by simpa using hearly
  obtain ⟨t, hbefore, hrest⟩ := Steps.append_iff.1 hrun
  obtain ⟨t', hserves, -⟩ := Steps.cons_iff.1 hrest
  refine ⟨early, update, late, t', rfl, ?_⟩
  cases hserves.rewrites i with
  | silent hfalse => cases hfalse.symm.trans hlogs
  | appended now _ hrequest => simp [hrequest, Request.action] at haction
  | replaced now _ hrequest hpresent hreplaced =>
    obtain ⟨record, hpresent⟩ := hpresent
    obtain ⟨call, hcall, hrecords⟩ : ∃ call ∈ early, call.Records (.instance i) := by
      by_contra hnone
      have hgone := hbefore.preserves (P := fun s ↦ s.store.instances.get? i = none)
        (fun s call s' hcall hs hserves ↦
          hserves.absent_stays (fun hrecords ↦ hnone ⟨call, hcall, hrecords⟩) hs) habsent
      cases hgone.symm.trans hpresent
    obtain ⟨_, s, s', -, hserved⟩ := hbefore.exists_of_mem hcall
    refine ⟨Steps.concat_iff.2 ⟨t, hbefore, hserves⟩, ⟨_, _, now, hrequest, ?_⟩,
      ⟨call, hcall, hserved.tells_of_records hrecords (hsilent call hcall)⟩⟩
    rw [hreplaced, history_eq_of_history hbefore hsilent]

/-- The entries that the history of an instance has while the instance is not recorded are kept by
whatever is done later, but for the last of them, and the last is kept too unless the first call
that writes to the history is an update. Then that update has written over it, and before it a
provision of the instance has told that its request was not recorded. The store, the vault and the
providers may fail in any way. -/
theorem earlier_requests_kept (hrun : Steps (broker.Serves setting) w calls w')
    (habsent : w.store.instances.get? i = none) :
    (w.store.history i).dropLast <+: w'.store.history i ∧
      (UpdatedFirst i calls = false → w.store.history i <+: w'.store.history i) ∧
      (UpdatedFirst i calls = true → ∃ early update late t, calls = early ++ update :: late ∧
        OverwritesEarlier broker setting i w early update t) :=
  ⟨(prefix_of_history hrun (List.prefix_refl _)).trans (List.dropLast_prefix _),
    prefix_of_not_updatedFirst hrun, overwrites_of_updatedFirst hrun habsent⟩

/-- An instance of the database service that is gone, with the request it was made with. -/
def goneDatabase : List Served × World :=
  (databaseBroker false).faultyHistory "now" databaseProvider
    [(.provision "i-1"
        { serviceId := "db", planId := "small", rawParameters := some "\x7b\"size\":1\x7d" } true,
      []),
     (.lastOperation "i-1" {}, []),
     (.deprovision "i-1" { serviceId := "db", planId := "small" } true, []),
     (.lastOperation "i-1" {}, [])] {}

/-- It is provisioned again, beside a store that fails the methods given, and updated. -/
def againDatabase (failing : List Store.Method) : List Served × World :=
  (databaseBroker false).faultyHistory "now" databaseProvider
    [(.provision "i-1"
        { serviceId := "db", planId := "small", rawParameters := some "\x7b\"size\":2\x7d" } true,
      failing),
     (.lastOperation "i-1" {}, []),
     (.update "i-1" { serviceId := "db", rawParameters := some "\x7b\"size\":3\x7d" } true, [])]
    goneDatabase.2

theorem steps_goneDatabase :
    Steps ((databaseBroker false).Serves (.faulty databaseProvider)) {} goneDatabase.1
      goneDatabase.2 :=
  steps_faultyHistory "now" databaseProvider _ _ _

theorem steps_againDatabase (failing : List Store.Method) :
    Steps ((databaseBroker false).Serves (.faulty databaseProvider)) goneDatabase.2
      (againDatabase failing).1 (againDatabase failing).2 :=
  steps_faultyHistory "now" databaseProvider _ _ _

theorem earlier_requests_kept_of_againDatabase :
    goneDatabase.2.store.instances.get? "i-1" = none ∧
      goneDatabase.2.store.history "i-1" ≠ [] ∧
      goneDatabase.2.store.history "i-1" <+: (againDatabase []).2.store.history "i-1" := by
  have habsent : goneDatabase.2.store.instances.get? "i-1" = none := by decide +kernel
  have hfirst : UpdatedFirst "i-1" (againDatabase []).1 = false := by decide +kernel
  have hkept := earlier_requests_kept (steps_againDatabase []) habsent
  exact ⟨habsent, by decide +kernel, hkept.2.1 hfirst⟩

/-- The entries of an instance that is gone are not kept in every run: an update writes over the
last of them after a provision that could not record its own. -/
theorem not_earlier_requests_kept :
    ¬ ∀ (broker : Broker) (setting : Setting) (i : String) (before later : List Served)
      (v w : World), setting.FailsAsBackend → setting.VaultInMemory →
      Steps (broker.Serves setting) {} before v → v.store.instances.get? i = none →
      Steps (broker.Serves setting) v later w → v.store.history i <+: w.store.history i := by
  intro h
  have hkept := h _ _ "i-1" _ _ _ _ (fun _ hfails ↦ hfails) (fun _ _ _ _ hanswer ↦ hanswer)
    steps_goneDatabase (by decide +kernel) (steps_againDatabase [.createRequest])
  exact absurd hkept (by decide +kernel)

end Brokerage.Broker
