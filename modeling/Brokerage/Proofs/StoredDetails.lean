import Brokerage.Proofs.Json.Printing
import Brokerage.Proofs.UpdatePolicy

/-!
What a provider says of an instance or of a binding, kept as text and read again. A value whose
numbers are integers of 64 bits is read back as it was, unless it nests deeper than a text may; then
the text cannot be read, and stands for itself where the details of an instance are told. Nothing
but a refresh and a new instance of the same id changes the details of an instance, so this is what
every later update and bind tells the provider.
-/

set_option autoImplicit false

namespace Brokerage

/-! ### From text and back -/

namespace Json

/-- What is read from the text of a value: the value itself, or nothing if it nests too deep. -/
structure ReadBack (value : Json) (read : Except (Text.Located Malformation) Json) : Prop where
  of_shallow : value.depth ≤ nestingLimit → read = .ok value
  of_deep : nestingLimit < value.depth → ∃ e, read = .error e

/-- What is told of a value that is kept as text. -/
def retold (value : Json) : Json :=
  if value.depth ≤ nestingLimit then value else .string value.text

theorem readBack_detailsOf {value : Json} (h : value.Exact) :
    value.ReadBack (detailsOf value.text) := by
  have hparse : detailsOf value.text = parse value.text := by
    simp [detailsOf, isBlank_text h]
  rw [hparse]
  constructor
  · intro hshallow
    exact (parse_text_ok_iff h).2 ⟨rfl, hshallow⟩
  · intro hdeep
    cases hread : parse value.text with
    | error e => exact ⟨e, rfl⟩
    | ok read => exact absurd ((parse_text_ok_iff h).1 hread).2 (Nat.not_le_of_lt hdeep)

end Json

theorem ServiceDefinition.instanceDetails_of_text {value : Json} (h : value.Exact)
    {record : InstanceRecord} (hdetails : record.otherDetails = value.text) :
    instanceDetails record = value.retold := by
  have hread := Json.readBack_detailsOf h
  rw [instanceDetails, InstanceRecord.details, hdetails, Json.retold]
  by_cases hshallow : value.depth ≤ Json.nestingLimit
  · rw [hread.of_shallow hshallow, if_pos hshallow]
  · obtain ⟨e, hdeep⟩ := hread.of_deep (Nat.lt_of_not_le hshallow)
    rw [hdeep, if_neg hshallow]

/-! ### What changes the details of an instance -/

/-- No instance is created under the id, and no refresh gives it details other than the text. -/
def Exchange.KeepsDetails (i text : String) : Exchange Action.Reply → Prop
  | ⟨.store (.createInstance record), _⟩ => record.id ≠ i
  | ⟨.provider (.refresh _ _), .ok refreshed⟩ => refreshed.id = i → refreshed.otherDetails = text
  | _ => True

/-- The variables that a provider is given with the details of an instance. -/
def Exchange.given? : Exchange Action.Reply → Option Variables
  | ⟨.provider (.update _ vars), _⟩ | ⟨.provider (.bind _ vars), _⟩ => some vars
  | _ => none

/-- A check whether a binding is there changes nothing. -/
theorem Setting.checked_of_tolerated {setting : Setting} {w w' : World} {i b : String}
    {found : Bool} {rest : Dialogue}
    (h : Steps setting.Tolerates w (.store (.bindingExists i b) (.ok found) :: rest) w') :
    Steps setting.Tolerates w rest w' := by
  obtain ⟨v, hasked, hrest⟩ := Steps.cons_iff.1 h
  cases hasked with
  | allowed hasked =>
    obtain ⟨after, hanswer, rfl⟩ := allows_store_iff.1 hasked
    rwa [hanswer.of_read rfl] at hrest

/-- What a provider has answered to a provision. -/
def Exchange.outcome? : Exchange Action.Reply → Option (Provider.Outcome Json)
  | ⟨.provider (.provision _ _), .ok outcome⟩ => some outcome
  | _ => none

/-- What a provider has issued for a binding. -/
def Exchange.issued? : Exchange Action.Reply → Option Json
  | ⟨.provider (.bind _ _), .ok issued⟩ => some issued
  | _ => none

/-- The record of a binding that a provider is to build credentials from. -/
def Exchange.built? : Exchange Action.Reply → Option BindingRecord
  | ⟨.provider (.buildCredentials _ bound _), _⟩ => some bound
  | _ => none

namespace Broker

variable {broker : Broker} {i b : String} {setting : Setting} {w w' : World}
  {exchanges : Dialogue} {x : Exchange Action.Reply} {asked : InstanceRecord} {vars : Variables}

/-! ### What a call tells and records -/

/-- The record of a binding whose credentials are to be built has for its details the text of what
the provider has issued. -/
theorem BindCourse.built_of_issued {details : BindDetails} {result : Except BrokerError Binding}
    {y : Exchange Action.Reply} {issued : Json} {bound : BindingRecord}
    (h : BindCourse broker i b details exchanges result) (hx : x ∈ exchanges)
    (hissued : x.issued? = some issued) (hy : y ∈ exchanges) (hbuilt : y.built? = some bound) :
    bound.otherDetails = issued.text := by
  cases h with
  | @unbuilt record service reader vars hadmits given
  | @bound record service vars hadmits given
  | @unstored record service app vars hadmits given
  | @ungranted record service app vars hadmits given
  | @handedOff record service app vars hadmits given =>
    obtain rfl : issued = given := Exchange.eq_of_only (by simp [Exchange.issued?]) hx hissued
    obtain rfl : bound = issuedRecord i b service issued :=
      Exchange.eq_of_only (by simp [Exchange.built?]) hy hbuilt
    rfl
  | _ => exact absurd hbuilt (Exchange.ne_some_of_all rfl y hy)

theorem UpdateCourse.given_details {details : UpdateDetails} {acceptsIncomplete : Bool}
    {result : Except BrokerError OperationResponse}
    (h : UpdateCourse broker i details acceptsIncomplete exchanges result)
    (hsteps : Steps setting.Tolerates w exchanges w') (hx : x ∈ exchanges)
    (hgiven : x.given? = some vars) :
    ∃ record, w.store.instances.get? i = some record ∧
      vars.get? "instance_details" = some (ServiceDefinition.instanceDetails record) := by
  cases h with
  | unread | refused => exact absurd hgiven (Exchange.ne_some_of_all rfl x hx)
  | @declined record service plan given hadmits
  | @unsaved record service plan given hadmits
  | @unlogged record service plan given hadmits
  | @completed record service plan given hadmits =>
    obtain rfl : vars = given := Exchange.eq_of_only (by simp [Exchange.given?]) hx hgiven
    exact ⟨record, (Setting.read_of_tolerated hsteps).1,
      ServiceDefinition.details_of_updateVariables (admitUpdate_ok hadmits).2.2.1⟩

theorem BindCourse.given_details {details : BindDetails} {result : Except BrokerError Binding}
    (h : BindCourse broker i b details exchanges result)
    (hsteps : Steps setting.Tolerates w exchanges w') (hx : x ∈ exchanges)
    (hgiven : x.given? = some vars) :
    ∃ record, w.store.instances.get? i = some record ∧
      vars.get? "instance_details" = some (ServiceDefinition.instanceDetails record) := by
  cases h with
  | unchecked | taken | unread | refused =>
    exact absurd hgiven (Exchange.ne_some_of_all rfl x hx)
  | @declined record service reader given hadmits
  | @unrecorded record service reader given hadmits
  | @unbuilt record service reader given hadmits
  | @bound record service given hadmits
  | @unstored record service reader given hadmits
  | @ungranted record service reader given hadmits
  | @handedOff record service reader given hadmits =>
    obtain rfl : vars = given := Exchange.eq_of_only (by simp [Exchange.given?]) hx hgiven
    obtain ⟨plan, -, -, hvars⟩ := admitBind_ok hadmits
    exact ⟨record, (Setting.read_of_tolerated (Setting.checked_of_tolerated hsteps)).1,
      ServiceDefinition.details_of_bindVariables hvars⟩

theorem UpdateCourse.details_recorded {details : UpdateDetails} {acceptsIncomplete : Bool}
    {result : Except BrokerError OperationResponse}
    (h : UpdateCourse broker i details acceptsIncomplete exchanges result)
    (hsteps : Steps setting.Tolerates w exchanges w') (hx : x ∈ exchanges)
    (hasked : x.recorded? = some asked) :
    ∃ record, w.store.instances.get? i = some record ∧ asked.id = record.id ∧
      asked.otherDetails = record.otherDetails := by
  cases h with
  | unread | refused | declined =>
    exact not_recorded_of_none (Exchange.eq_none_of_all rfl) hx hasked
  | @unsaved record service plan vars hadmits outcome
  | @unlogged record service plan vars hadmits outcome
  | @completed record service plan vars hadmits outcome =>
    obtain rfl : asked = updatedRecord record plan outcome :=
      Exchange.eq_of_only (by simp [Store.Request.recorded?]) hx hasked
    exact ⟨record, (Setting.read_of_tolerated hsteps).1, rfl, rfl⟩

theorem DeprovisionCourse.details_recorded {details : DeprovisionDetails}
    {acceptsIncomplete : Bool} {result : Except BrokerError OperationResponse}
    (h : DeprovisionCourse broker i details acceptsIncomplete exchanges result)
    (hsteps : Steps setting.Tolerates w exchanges w') (hx : x ∈ exchanges)
    (hasked : x.recorded? = some asked) :
    ∃ record, w.store.instances.get? i = some record ∧ asked.id = record.id ∧
      asked.otherDetails = record.otherDetails := by
  cases h with
  | unread | refused | declined | undeleted | deleted =>
    exact not_recorded_of_none (by simp [Store.Request.recorded?]) hx hasked
  | @unsaved record service hadmits token | @condemned record service hadmits token =>
    obtain rfl : asked = condemnedRecord record token :=
      Exchange.eq_of_only (by simp [Store.Request.recorded?]) hx hasked
    exact ⟨record, (Setting.read_of_tolerated hsteps).1, rfl, rfl⟩

/-- A poll records what a refresh has answered. -/
theorem PollCourse.refreshed_of_recorded {result : Except BrokerError LastOperation}
    (h : PollCourse broker i exchanges result) (hx : x ∈ exchanges)
    (hasked : x.recorded? = some asked) :
    ∃ serviceId record refreshed,
      .provider (.refresh serviceId record) (.ok refreshed) ∈ exchanges ∧
        asked = settledRecord refreshed := by
  cases h with
  | @unsettled record service _ hadmits hpending hcompletion reread refreshed
  | @settled record service _ hadmits hpending hcompletion reread refreshed =>
    exact ⟨service.definition.id, reread, refreshed, by simp,
      Exchange.eq_of_only (by simp [Store.Request.recorded?]) hx hasked⟩
  | _ => exact not_recorded_of_none (by simp [Store.Request.recorded?]) hx hasked

/-- Whatever is recorded of an instance has the text for its details. -/
def HasDetails (w : World) (i text : String) : Prop :=
  ∀ record, w.store.instances.get? i = some record → record.otherDetails = text

theorem ProvisionCourse.created_of_recorded {details : ProvisionDetails} {acceptsIncomplete : Bool}
    {result : Except BrokerError OperationResponse}
    (h : ProvisionCourse broker i details acceptsIncomplete exchanges result) (hx : x ∈ exchanges)
    (hasked : x.recorded? = some asked) : ∃ reply, x = .store (.createInstance asked) reply := by
  have honly : ∀ x ∈ exchanges, x.recorded? = none ∨
      ∃ record reply, x = .store (.createInstance record) reply := by
    cases h <;> simp [Store.Request.recorded?]
  rcases honly x hx with hnone | ⟨record, reply, rfl⟩
  · cases hnone.symm.trans hasked
  · cases hasked
    exact ⟨reply, rfl⟩

/-- What a provision records of an instance has for its details the text of what the provider has
answered. -/
theorem ProvisionCourse.hasDetails {details : ProvisionDetails} {acceptsIncomplete : Bool}
    {result : Except BrokerError OperationResponse} {outcome : Provider.Outcome Json}
    (h : ProvisionCourse broker i details acceptsIncomplete exchanges result)
    (hsteps : Steps setting.Tolerates w exchanges w') (hx : x ∈ exchanges)
    (houtcome : x.outcome? = some outcome) : HasDetails w' i outcome.value.text := by
  cases h with
  | @unrecorded service plan vars hadmits given
  | @unlogged service plan vars hadmits given
  | @recorded service plan vars hadmits given =>
    obtain rfl : outcome = given := Exchange.eq_of_only (by simp [Exchange.outcome?]) hx houtcome
    intro record hfound
    rcases Setting.recorded_or_kept_of_steps hsteps hfound with
      hkept | ⟨y, hy, asked, hasked, hsame⟩
    · obtain ⟨v, hlooked, -⟩ := Steps.cons_iff.1 hsteps
      have habsent := hlooked.answers_of_ok.instanceExists_ok
      simp [hkept] at habsent
    · obtain rfl : asked = provisionedRecord i details service plan outcome :=
        Exchange.eq_of_only (by simp [Store.Request.recorded?]) hy hasked
      exact congrArg InstanceRecord.otherDetails hsame
  | _ => exact absurd houtcome (Exchange.ne_some_of_all rfl x hx)

/-- A call that creates no instance of the id leaves the details of the instance, unless they are
refreshed. -/
theorem Endures.hasDetails {call : Served} {text : String} (h : broker.Endures setting w call w')
    (hw : w.store.Keyed) (hkeeps : ∀ x ∈ call.exchanges, x.KeepsDetails i text)
    (hbefore : HasDetails w i text) : HasDetails w' i text := by
  intro record hfound
  rcases Setting.recorded_or_kept_of_steps h.2 hfound with hkept | ⟨x, hx, asked, hasked, hsame⟩
  · exact hbefore record hkept
  have hid : asked.id = i := by
    rw [← (Setting.keyed_of_tolerated h.2 hw).instances i record hfound]
    exact (congrArg InstanceRecord.id hsame).symm
  suffices hdetails : asked.otherDetails = text from
    (congrArg InstanceRecord.otherDetails hsame).trans hdetails
  have hover {j : String} (hread : ∃ read, w.store.instances.get? j = some read ∧
      asked.id = read.id ∧ asked.otherDetails = read.otherDetails) :
      asked.otherDetails = text := by
    obtain ⟨read, hread, hsameId, hsameDetails⟩ := hread
    rw [hsameDetails]
    exact hbefore read (by rw [← hid, hsameId, hw.get?_id hread])
  obtain ⟨request, exchanges, result⟩ := call
  obtain ⟨hends, hsteps⟩ := h
  cases request with
  | provision =>
    obtain ⟨reply, rfl⟩ := (ProvisionCourse.of_ends hends).created_of_recorded hx hasked
    exact absurd hid (hkeeps _ hx)
  | update => exact hover ((UpdateCourse.of_ends hends).details_recorded hsteps hx hasked)
  | deprovision =>
    exact hover ((DeprovisionCourse.of_ends hends).details_recorded hsteps hx hasked)
  | lastOperation j details =>
    obtain ⟨serviceId, read, refreshed, hrefreshed, rfl⟩ :=
      (PollCourse.of_ends details hends).refreshed_of_recorded hx hasked
    exact hkeeps _ hrefreshed hid
  | bind => exact not_recorded_of_none (BindCourse.of_ends hends).recorded?_eq_none hx hasked
  | unbind j b details =>
    exact not_recorded_of_none (UnbindCourse.of_ends details hends).recorded?_eq_none hx hasked

theorem hasDetails_of_history {calls : List Served} {text : String}
    (hrun : Steps (broker.Endures setting) w calls w') (hw : w.store.Keyed)
    (hkeeps : ∀ call ∈ calls, ∀ x ∈ call.exchanges, x.KeepsDetails i text)
    (hbefore : HasDetails w i text) : HasDetails w' i text := by
  refine (hrun.preserves (P := fun v ↦ v.store.Keyed ∧ HasDetails v i text) ?_ ⟨hw, hbefore⟩).2
  rintro v call v' hcall ⟨hv, hdetails⟩ hserves
  exact ⟨Setting.keyed_of_tolerated hserves.2 hv,
    hserves.hasDetails hv (hkeeps call hcall) hdetails⟩

/-! ### Later calls -/

/-- What a provider is told of the details of an instance in a dialogue. -/
def Tells (exchanges : Dialogue) (told : Json) : Prop :=
  ∀ x ∈ exchanges, ∀ vars, x.given? = some vars → vars.get? "instance_details" = some told

/-- Details that a provider gives survive being stored. Where a provision was answered with a value
whose numbers are integers of 64 bits, and until a refresh answers with other details or an instance
of the same id is created anew, what is recorded of the instance is read back as the value, and
every update and bind tells the provider of it; where it nests deeper than a text may, the details
cannot be read, and the provider is told their text. Likewise what is issued for a binding is read
back from the record that the credentials are built from. Assumes that records lie under their own
ids, as in every store that a broker has filled. The store may have done what it failed to do, and
whether the provider is done or goes on in the background makes no difference. -/
theorem details_survive_storage {value : Json} (hvalue : value.Exact) :
    (∀ {i : String} {details : ProvisionDetails} {acceptsIncomplete : Bool} {exchanges : Dialogue}
      {result : Except BrokerError OperationResponse} {outcome : Provider.Outcome Json}
      {later : List Served} {w w₁ w₂ : World}, w.store.Keyed →
      broker.Endures setting w ⟨.provision i details acceptsIncomplete, exchanges, result⟩ w₁ →
      (∃ x ∈ exchanges, x.outcome? = some outcome) → outcome.value = value →
      Steps (broker.Endures setting) w₁ later w₂ →
      (∀ call ∈ later, ∀ x ∈ call.exchanges, x.KeepsDetails i value.text) →
      (∀ record, w₂.store.instances.get? i = some record → value.ReadBack record.details) ∧
      (∀ details acceptsIncomplete exchanges result w₃,
        broker.Endures setting w₂ ⟨.update i details acceptsIncomplete, exchanges, result⟩ w₃ →
        Tells exchanges value.retold) ∧
      ∀ b details exchanges result w₃,
        broker.Endures setting w₂ ⟨.bind i b details, exchanges, result⟩ w₃ →
        Tells exchanges value.retold) ∧
    ∀ {i b : String} {details : BindDetails} {exchanges : Dialogue}
      {result : Except BrokerError Binding} {w w' : World} {bound : BindingRecord},
      broker.Endures setting w ⟨.bind i b details, exchanges, result⟩ w' →
      (∃ x ∈ exchanges, x.issued? = some value) → (∃ x ∈ exchanges, x.built? = some bound) →
      value.ReadBack bound.details := by
  constructor
  · rintro i details acceptsIncomplete exchanges result outcome later w w₁ w₂ hw ⟨hends, hsteps⟩
      ⟨x, hx, houtcome⟩ rfl hlater hkeeps
    have hrecorded : HasDetails w₁ i outcome.value.text :=
      (ProvisionCourse.of_ends hends).hasDetails hsteps hx houtcome
    have hdetails : HasDetails w₂ i outcome.value.text :=
      hasDetails_of_history hlater (Setting.keyed_of_tolerated hsteps hw) hkeeps hrecorded
    have htold {vars : Variables} (hgiven : ∃ record, w₂.store.instances.get? i = some record ∧
        vars.get? "instance_details" = some (ServiceDefinition.instanceDetails record)) :
        vars.get? "instance_details" = some outcome.value.retold := by
      obtain ⟨record, hfound, hgiven⟩ := hgiven
      rw [hgiven, ServiceDefinition.instanceDetails_of_text hvalue (hdetails record hfound)]
    refine ⟨fun record hfound ↦ ?_, ?_, ?_⟩
    · rw [InstanceRecord.details, hdetails record hfound]
      exact Json.readBack_detailsOf hvalue
    · intro details acceptsIncomplete exchanges result w₃ hupdate x hx vars hgiven
      exact htold ((UpdateCourse.of_ends hupdate.1).given_details hupdate.2 hx hgiven)
    · intro b details exchanges result w₃ hbind x hx vars hgiven
      exact htold ((BindCourse.of_ends hbind.1).given_details hbind.2 hx hgiven)
  · rintro i b details exchanges result w w' bound ⟨hends, -⟩ ⟨x, hx, hissued⟩ ⟨y, hy, hbuilt⟩
    rw [BindingRecord.details, (BindCourse.of_ends hends).built_of_issued hx hissued hy hbuilt]
    exact Json.readBack_detailsOf hvalue

/-- Null inside so many arrays. -/
def nested : Nat → Json
  | 0 => .null
  | n + 1 => .list [nested n]

theorem depth_nested (n : Nat) : (nested n).depth = n := by
  induction n with
  | zero => rfl
  | succ n ih => simp [nested, Json.depth, Json.depthItems, ih]

theorem exact_nested (n : Nat) : (nested n).Exact := by
  induction n with
  | zero => trivial
  | succ n ih => exact ⟨ih, trivial⟩

/-- A provider that starts instances with nested details. -/
def nestingProvider (n : Nat) : (q : Provider.Request) → q.Reply
  | .provision _ _ => .ok (.pending "op-1" (nested n))
  | q => databaseProvider q

/-- The provision of an instance with nested details. -/
def nestedProvision : Request :=
  .provision "i-1" { serviceId := "db", planId := "small" } true

/-- As many arrays as a text may nest come back from storage, and of one more a bind tells the
text. -/
theorem details_survive_storage_nested :
    let world n := (((databaseBroker false).serve nestedProvision).run
      (World.respond "now" (nestingProvider n)) {}).2
    (∃ record, (world 127).store.instances.get? "i-1" = some record ∧
      record.details = .ok (nested 127)) ∧
    (∃ record, (world 128).store.instances.get? "i-1" = some record ∧
      ∃ e, record.details = .error e) ∧
    ∀ details exchanges result w,
      (databaseBroker false).Endures (.faithful (nestingProvider 128)) (world 128)
        ⟨.bind "i-1" "b-1" details, exchanges, result⟩ w →
      Tells exchanges (.string (nested 128).text) := by
  intro world
  have houtcome (n : Nat) : ∃ x ∈ ((databaseBroker false).serve nestedProvision).trace
      (World.respond "now" (nestingProvider n)) {},
      x.outcome? = some (.pending "op-1" (nested n)) := ⟨_, .tail _ (.head _), rfl⟩
  have hendures (n : Nat) : (databaseBroker false).Endures (.faithful (nestingProvider n)) {}
      ⟨nestedProvision, ((databaseBroker false).serve nestedProvision).trace
        (World.respond "now" (nestingProvider n)) {}, _⟩ (world n) := endures_run rfl
  have hsurvives (n : Nat) :=
    (details_survive_storage (exact_nested n)).1 Store.keyed_empty (hendures n) (houtcome n) rfl
      (.nil _) fun _ hcall ↦ absurd hcall List.not_mem_nil
  have hfound (n : Nat) : ∃ record, (world n).store.instances.get? "i-1" = some record := ⟨_, rfl⟩
  obtain ⟨shallow, hshallow⟩ := hfound 127
  obtain ⟨deep, hdeep⟩ := hfound 128
  refine ⟨⟨shallow, hshallow, ?_⟩, ⟨deep, hdeep, ?_⟩, ?_⟩
  · exact ((hsurvives 127).1 shallow hshallow).of_shallow (Nat.le_of_eq (depth_nested 127))
  · refine ((hsurvives 128).1 deep hdeep).of_deep ?_
    rw [depth_nested]
    decide
  · have hretold : (nested 128).retold = .string (nested 128).text := by
      rw [Json.retold, depth_nested]
      rfl
    rw [← hretold]
    exact (hsurvives 128).2.2 "b-1"

end Broker

end Brokerage
