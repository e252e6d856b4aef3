import Brokerage.Proofs.Answers
import Brokerage.Proofs.Exchange
import Brokerage.Proofs.Steps

/-!
What a call acts on, and what it may be answered with there. The records and the vault change with
the answers given; what a provider may answer does not depend on them. A setting says how the
store may fail, how the vault behaves and what the providers may answer, and a world is left by
an exchange as the answer leaves it.
-/

set_option autoImplicit false

namespace Brokerage

/-- The records and the vault. -/
structure World where
  store : Store := Store.empty
  vault : Vault := Vault.empty

/-- The name that an exchange asks the vault about. -/
def Exchange.vaultName? : Exchange Action.Reply → Option String
  | ⟨.vault q, _⟩ => some q.name
  | _ => none

/-- What the record is of that an exchange writes. -/
def Exchange.written? : Exchange Action.Reply → Option Subject
  | ⟨.store q, .ok _⟩ => q.subject?
  | _ => none

/-- What the record is of that an exchange creates. -/
def Exchange.created? : Exchange Action.Reply → Option Subject
  | ⟨.store q, .ok _⟩ => q.created?
  | _ => none

/-- The instance whose history an exchange writes to. -/
def Exchange.logged? : Exchange Action.Reply → Option String
  | ⟨.store q, .ok _⟩ => q.logged?
  | _ => none

/-- An exchange that may have changed the records. -/
def Exchange.writes : Exchange Action.Reply → Bool
  | ⟨.store q, .ok _⟩ => q.isWrite
  | _ => false

theorem Exchange.written_of_created {x : Exchange Action.Reply} {subject : Subject}
    (h : x.created? = some subject) : x.written? = some subject := by
  obtain ⟨question, reply⟩ := x
  cases question with
  | store q =>
    cases reply with
    | error e => cases h
    | ok answer =>
      cases q with
      | createInstance | createBinding => exact h
      | _ => cases h
  | vault q => cases h
  | provider q => cases h

section Questions

variable {α : Type} {f : Exchange Action.Reply → Option α} {exchanges : Dialogue}

/-- What no exchange of a dialogue has, told by computing it for each. -/
theorem Exchange.eq_none_of_all (h : exchanges.all (fun x ↦ (f x).isNone) = true) :
    ∀ x ∈ exchanges, f x = none := by
  intro x hx
  exact Option.isNone_iff_eq_none.1 (List.all_eq_true.1 h x hx)

theorem Exchange.ne_some_of_all {a : α} (h : exchanges.all (fun x ↦ (f x).isNone) = true) :
    ∀ x ∈ exchanges, f x ≠ some a := by
  intro x hx
  rw [eq_none_of_all h x hx]
  exact (Option.some_ne_none a).symm

/-- What an exchange has where exchanges have nothing or one thing. -/
theorem Exchange.eq_of_only {a b : α} {x : Exchange Action.Reply}
    (h : ∀ x ∈ exchanges, f x = none ∨ f x = some a) (hx : x ∈ exchanges) (hb : f x = some b) :
    b = a := by
  rcases h x hx with hnone | hsome
  · cases hnone.symm.trans hb
  · exact Option.some.inj (hb.symm.trans hsome)

/-- What exchanges that have nothing or one thing do not have. -/
theorem Exchange.ne_some_of_only {a b : α} (h : ∀ x ∈ exchanges, f x = none ∨ f x = some a)
    (hne : a ≠ b) : ∀ x ∈ exchanges, f x ≠ some b := by
  intro x hx heq
  rcases h x hx with hnone | hsome
  · cases hnone.symm.trans heq
  · exact hne (Option.some.inj (hsome.symm.trans heq))

end Questions

/-- How the collaborators of a broker may behave. -/
structure Setting where
  storeFails : Store.Error → Prop
  vault : Vault → (q : Vault.Request) → q.Reply → Vault → Prop
  provider : (q : Provider.Request) → q.Reply → Prop

namespace Setting

/-- An exchange that may take place in a world, and the world after it. -/
inductive Allows (setting : Setting) : World → Exchange Action.Reply → World → Prop
  | store {w : World} {q : Store.Request} {reply : q.Reply} {after : Store}
    (h : w.store.Answers setting.storeFails q reply after) :
    Allows setting w (.store q reply) { w with store := after }
  | vault {w : World} {q : Vault.Request} {reply : q.Reply} {after : Vault}
    (h : setting.vault w.vault q reply after) :
    Allows setting w (.vault q reply) { w with vault := after }
  | provider {w : World} {q : Provider.Request} {reply : q.Reply}
    (h : setting.provider q reply) : Allows setting w (.provider q reply) w

/-- The vault is kept in memory: it answers faithfully. -/
def VaultInMemory (setting : Setting) : Prop :=
  ∀ v q reply after, setting.vault v q reply after → v.answer q = (reply, after)

/-- Whatever is asked, and in whatever world, there is a reply. -/
def Responds (setting : Setting) : Prop :=
  ∀ w question, ∃ reply w', setting.Allows w ⟨question, reply⟩ w'

/-- A store that fails says so, and does not speak of what is there. -/
def FailsAsBackend (setting : Setting) : Prop :=
  ∀ e, setting.storeFails e → ∃ message, e = .backend message

theorem FailsAsBackend.not_conflict {setting : Setting} (h : setting.FailsAsBackend)
    {e : Store.Error} (he : setting.storeFails e) : e.isConflict = false := by
  obtain ⟨message, rfl⟩ := h e he
  rfl

theorem FailsAsBackend.not_notFound {setting : Setting} (h : setting.FailsAsBackend)
    {e : Store.Error} (he : setting.storeFails e) : e.isNotFound = false := by
  obtain ⟨message, rfl⟩ := h e he
  rfl

variable {setting : Setting} {w w' : World}

@[simp] theorem allows_store_iff {q : Store.Request} {reply : q.Reply} :
    setting.Allows w (.store q reply) w' ↔
      ∃ after, w.store.Answers setting.storeFails q reply after ∧
        w' = { w with store := after } := by
  constructor
  · intro h
    cases h with
    | store h => exact ⟨_, h, rfl⟩
  · rintro ⟨after, h, rfl⟩
    exact .store h

theorem Allows.answers {q : Store.Request} {reply : q.Reply}
    (h : setting.Allows w (.store q reply) w') :
    w.store.Answers setting.storeFails q reply w'.store := by
  obtain ⟨after, hanswer, rfl⟩ := allows_store_iff.1 h
  exact hanswer

@[simp] theorem allows_vault_iff {q : Vault.Request} {reply : q.Reply} :
    setting.Allows w (.vault q reply) w' ↔
      ∃ after, setting.vault w.vault q reply after ∧ w' = { w with vault := after } := by
  constructor
  · intro h
    cases h with
    | vault h => exact ⟨_, h, rfl⟩
  · rintro ⟨after, h, rfl⟩
    exact .vault h

@[simp] theorem allows_provider_iff {q : Provider.Request} {reply : q.Reply} :
    setting.Allows w (.provider q reply) w' ↔ setting.provider q reply ∧ w' = w := by
  constructor
  · intro h
    cases h with
    | provider h => exact ⟨h, rfl⟩
  · rintro ⟨h, rfl⟩
    exact .provider h

/-! ### Dialogues by their first exchange -/

section First

variable {i : String} {rest : Dialogue}

theorem steps_provider_iff {q : Provider.Request} {reply : q.Reply} :
    Steps setting.Allows w (.provider q reply :: rest) w' ↔
      setting.provider q reply ∧ Steps setting.Allows w rest w' := by
  rw [Steps.cons_iff]
  constructor
  · rintro ⟨v, hasked, hrest⟩
    obtain ⟨hanswer, rfl⟩ := allows_provider_iff.1 hasked
    exact ⟨hanswer, hrest⟩
  · rintro ⟨hanswer, hrest⟩
    exact ⟨w, .provider hanswer, hrest⟩

theorem steps_getInstance_iff {record : InstanceRecord} :
    Steps setting.Allows w (.store (.getInstance i) (.ok record) :: rest) w' ↔
      w.store.instances.get? i = some record ∧ Steps setting.Allows w rest w' := by
  constructor
  · intro h
    obtain ⟨v, hget, hrest⟩ := Steps.cons_iff.1 h
    obtain ⟨after, hanswer, rfl⟩ := allows_store_iff.1 hget
    rw [hanswer.of_read rfl] at hrest
    exact ⟨hanswer.getInstance_ok, hrest⟩
  · rintro ⟨hfound, hrest⟩
    refine .cons (.store (.inl ⟨"", ?_⟩)) hrest
    show (w.store.getInstance i, w.store) = _
    rw [Store.getInstance, hfound]

theorem steps_instanceExists_iff {found : Bool} :
    Steps setting.Allows w (.store (.instanceExists i) (.ok found) :: rest) w' ↔
      found = (w.store.instances.get? i).isSome ∧ Steps setting.Allows w rest w' := by
  constructor
  · intro h
    obtain ⟨v, hasked, hrest⟩ := Steps.cons_iff.1 h
    obtain ⟨after, hanswer, rfl⟩ := allows_store_iff.1 hasked
    rw [hanswer.of_read rfl] at hrest
    exact ⟨hanswer.instanceExists_ok, hrest⟩
  · rintro ⟨rfl, hrest⟩
    exact .cons (.store (.inl ⟨"", rfl⟩)) hrest

theorem steps_bindingExists_iff {b : String} {found : Bool} :
    Steps setting.Allows w (.store (.bindingExists i b) (.ok found) :: rest) w' ↔
      found = (w.store.bindings.get? (i, b)).isSome ∧ Steps setting.Allows w rest w' := by
  constructor
  · intro h
    obtain ⟨v, hasked, hrest⟩ := Steps.cons_iff.1 h
    obtain ⟨after, hanswer, rfl⟩ := allows_store_iff.1 hasked
    rw [hanswer.of_read rfl] at hrest
    exact ⟨hanswer.bindingExists_ok, hrest⟩
  · rintro ⟨rfl, hrest⟩
    exact .cons (.store (.inl ⟨"", rfl⟩)) hrest

theorem steps_getBinding_iff {b : String} {record : BindingRecord} :
    Steps setting.Allows w (.store (.getBinding i b) (.ok record) :: rest) w' ↔
      w.store.bindings.get? (i, b) = some record ∧ Steps setting.Allows w rest w' := by
  constructor
  · intro h
    obtain ⟨v, hget, hrest⟩ := Steps.cons_iff.1 h
    obtain ⟨after, hanswer, rfl⟩ := allows_store_iff.1 hget
    rw [hanswer.of_read rfl] at hrest
    exact ⟨hanswer.getBinding_ok, hrest⟩
  · rintro ⟨hfound, hrest⟩
    refine .cons (.store (.inl ⟨"", ?_⟩)) hrest
    show (w.store.getBinding i b, w.store) = _
    rw [Store.getBinding, hfound]

end First

/-! ### What is not asked -/

/-- A dialogue that does not ask the vault leaves it as it was. -/
theorem vault_eq_of_steps {exchanges : Dialogue} (h : Steps setting.Allows w exchanges w')
    (hnone : ∀ x ∈ exchanges, x.vaultName? = none) : w'.vault = w.vault := by
  refine h.preserves (P := fun v ↦ v.vault = w.vault) ?_ rfl
  intro v x v' hx hv hstep
  cases hstep with
  | store h => exact hv
  | vault h => cases hnone _ hx
  | provider h => exact hv

/-- An exchange changes at most the record that it writes. -/
theorem Allows.sameRecord_of_written {x : Exchange Action.Reply} {subject : Subject}
    (h : setting.Allows w x w') (hsubject : x.written? ≠ some subject) :
    w.store.SameRecord w'.store subject := by
  cases h with
  | @store q reply after h =>
    cases reply with
    | error e =>
      rw [h.of_error]
      exact .rfl subject
    | ok answer => exact h.sameRecord hsubject
  | vault h => exact .rfl subject
  | provider h => exact .rfl subject

/-- An exchange that creates a record finds none and leaves one. -/
theorem Allows.created {x : Exchange Action.Reply} {subject : Subject} (h : setting.Allows w x w')
    (hcreated : x.created? = some subject) : ¬ w.store.Has subject ∧ w'.store.Has subject := by
  cases h with
  | @store q reply after h =>
    cases reply with
    | error e => cases hcreated
    | ok answer => exact h.created hcreated
  | vault h => cases hcreated
  | provider h => cases hcreated

/-- Where there is no record, an exchange that does not create it leaves it at that. -/
theorem Allows.absent {x : Exchange Action.Reply} {subject : Subject} (h : setting.Allows w x w')
    (habsent : ¬ w.store.Has subject) (hcreated : x.created? ≠ some subject) :
    x.written? ≠ some subject := by
  intro hwritten
  cases h with
  | @store q reply after h =>
    cases reply with
    | error e => cases hwritten
    | ok answer => exact habsent (h.has_of_written hwritten hcreated)
  | vault h => cases hwritten
  | provider h => cases hwritten

theorem Allows.history_eq {x : Exchange Action.Reply} {i : String} (h : setting.Allows w x w')
    (hlogged : x.logged? ≠ some i) : w'.store.history i = w.store.history i := by
  cases h with
  | @store q reply after h =>
    cases reply with
    | error e =>
      show after.history i = w.store.history i
      rw [h.of_error]
    | ok answer => exact h.history_eq hlogged
  | vault h => rfl
  | provider h => rfl

/-- An exchange leaves the record of an instance unless it creates, saves or deletes it. -/
theorem Allows.instance_cases {x : Exchange Action.Reply} (h : setting.Allows w x w') (i : String) :
    w.store.SameRecord w'.store (.instance i) ∨
      (∃ record, x = .store (.createInstance record) (.ok ()) ∧ record.id = i) ∨
      (∃ record, x = .store (.saveInstance record) (.ok ()) ∧ record.id = i) ∨
      x = .store (.deleteInstance i) (.ok ()) := by
  by_cases hwritten : x.written? = some (.instance i)
  · right
    obtain ⟨question, reply⟩ := x
    cases question with
    | store q =>
      cases reply with
      | error e => cases hwritten
      | ok answer =>
        cases q with
        | createInstance record =>
          cases hwritten
          exact .inl ⟨record, rfl, rfl⟩
        | saveInstance record =>
          cases hwritten
          exact .inr (.inl ⟨record, rfl, rfl⟩)
        | deleteInstance j =>
          cases hwritten
          exact .inr (.inr rfl)
        | _ => cases hwritten
    | vault q => cases hwritten
    | provider q => cases hwritten
  · exact .inl (h.sameRecord_of_written hwritten)

/-- A dialogue that writes no record leaves the bindings as they were. -/
theorem bindings_eq_of_steps {exchanges : Dialogue} (h : Steps setting.Allows w exchanges w')
    (hnone : ∀ x ∈ exchanges, x.written? = none) : w'.store.bindings = w.store.bindings := by
  refine h.preserves (P := fun v ↦ v.store.bindings = w.store.bindings) ?_ rfl
  intro v x v' hx hv hstep
  refine Eq.trans ?_ hv
  cases hstep with
  | @store q reply after h =>
    cases reply with
    | error e => rw [h.of_error]
    | ok answer => exact h.bindings_eq (hnone _ hx)
  | vault h => rfl
  | provider h => rfl

theorem sameRecord_of_unwritten {exchanges : Dialogue} {subject : Subject}
    (h : Steps setting.Allows w exchanges w') (hnone : ∀ x ∈ exchanges, x.written? ≠ some subject) :
    w.store.SameRecord w'.store subject := by
  refine h.preserves (P := fun v ↦ w.store.SameRecord v.store subject) ?_ (.rfl subject)
  intro v x v' hx hv hstep
  exact hv.trans (hstep.sameRecord_of_written (hnone x hx))

/-- Where there is a record already, exchanges that write it only to create it do not write it. -/
theorem unwritten_of_has {exchanges : Dialogue} {subject : Subject}
    (h : Steps setting.Allows w exchanges w')
    (honly : ∀ x ∈ exchanges, x.written? = some subject → x.created? = some subject)
    (hhas : w.store.Has subject) : ∀ x ∈ exchanges, x.written? ≠ some subject := by
  induction h with
  | nil w => exact fun x hx ↦ absurd hx List.not_mem_nil
  | @cons w v last x exchanges head tail ih =>
    obtain ⟨honlyHead, honlyTail⟩ := List.forall_mem_cons.1 honly
    have hhead : x.written? ≠ some subject :=
      fun hwritten ↦ (head.created (honlyHead hwritten)).1 hhas
    exact List.forall_mem_cons.2
      ⟨hhead, ih honlyTail ((head.sameRecord_of_written hhead).has_iff.2 hhas)⟩

/-- Where there is no record, exchanges that do not create it leave it at that. -/
theorem absent_of_steps {exchanges : Dialogue} {subject : Subject}
    (h : Steps setting.Allows w exchanges w') (hnone : ∀ x ∈ exchanges, x.created? ≠ some subject)
    (habsent : ¬ w.store.Has subject) : ¬ w'.store.Has subject := by
  refine h.preserves (P := fun v ↦ ¬ v.store.Has subject) ?_ habsent
  intro v x v' hx hv hstep hhas
  have hunwritten := hstep.absent hv (hnone x hx)
  exact hv ((hstep.sameRecord_of_written hunwritten).has_iff.1 hhas)

theorem history_eq_of_steps {exchanges : Dialogue} {i : String}
    (h : Steps setting.Allows w exchanges w') (hnone : ∀ x ∈ exchanges, x.logged? ≠ some i) :
    w'.store.history i = w.store.history i := by
  refine h.preserves (P := fun v ↦ v.store.history i = w.store.history i) ?_ rfl
  intro v x v' hx hv hstep
  exact (hstep.history_eq (hnone x hx)).trans hv

/-- A dialogue that writes nothing leaves the records and the histories as they were. -/
theorem store_eq_of_steps {exchanges : Dialogue} (h : Steps setting.Allows w exchanges w')
    (hnone : exchanges.any Exchange.writes = false) : w'.store = w.store := by
  refine h.preserves (P := fun v ↦ v.store = w.store) ?_ rfl
  intro v x v' hx hv hstep
  have hread : ¬ x.writes = true := List.any_eq_false.1 hnone x hx
  refine Eq.trans ?_ hv
  cases hstep with
  | @store q reply after h =>
    cases reply with
    | error e => exact h.of_error
    | ok answer => exact h.of_read (Bool.eq_false_iff.2 hread)
  | vault h => rfl
  | provider h => rfl

/-- A history to which a dialogue writes one new request, and nothing else, has it at the end. -/
theorem history_of_createRequest {exchanges : Dialogue} (record : RequestRecord)
    (h : Steps setting.Allows w exchanges w')
    (honly : exchanges.filter (fun x ↦ x.logged? = some record.instanceId) =
      [.store (.createRequest record) (.ok ())]) :
    ∃ now, w'.store.history record.instanceId =
      w.store.history record.instanceId ++ [{ record with updatedAt := now }] := by
  obtain ⟨before, after, rfl, hbefore, -, hafter⟩ := List.filter_eq_cons_iff.1 honly
  obtain ⟨v, hv, hrest⟩ := Steps.append_iff.1 h
  obtain ⟨v', hlog, hv'⟩ := Steps.cons_iff.1 hrest
  obtain ⟨now, hlogged⟩ := hlog.answers.history_of_createRequest
  refine ⟨now, ?_⟩
  rw [history_eq_of_steps hv' (by simpa using List.filter_eq_nil_iff.1 hafter), hlogged,
    history_eq_of_steps hv (by simpa using hbefore)]

/-! ### Records under their own ids -/

theorem Allows.keyed {x : Exchange Action.Reply} (h : setting.Allows w x w')
    (hw : w.store.Keyed) : w'.store.Keyed := by
  cases h with
  | store h => exact h.keyed hw
  | vault h => exact hw
  | provider h => exact hw

theorem keyed_of_steps {exchanges : Dialogue} (h : Steps setting.Allows w exchanges w')
    (hw : w.store.Keyed) : w'.store.Keyed :=
  h.preserves (P := fun v ↦ v.store.Keyed) (fun _ _ _ _ hv hx ↦ hx.keyed hv) hw

/-- An instance that is read has the id it was asked for under. -/
theorem id_of_read {exchanges : Dialogue} {i : String} {record : InstanceRecord}
    (h : Steps setting.Allows w exchanges w') (hw : w.store.Keyed)
    (hread : .store (.getInstance i) (.ok record) ∈ exchanges) : record.id = i := by
  obtain ⟨before, v, v', hv, hx⟩ := h.exists_of_mem hread
  exact (keyed_of_steps hv hw).instances i record hx.answers.getInstance_ok

theorem bindingId_of_read {exchanges : Dialogue} {i b : String} {record : BindingRecord}
    (h : Steps setting.Allows w exchanges w') (hw : w.store.Keyed)
    (hread : .store (.getBinding i b) (.ok record) ∈ exchanges) : record.bindingId = b := by
  obtain ⟨before, v, v', hv, hx⟩ := h.exists_of_mem hread
  exact ((keyed_of_steps hv hw).bindings i b record hx.answers.getBinding_ok).2

/-! ### Failures with effect -/

/-- An exchange that may take place in a world where a store that reports a failure may yet have
done what it was asked to. -/
inductive Tolerates (setting : Setting) : World → Exchange Action.Reply → World → Prop
  | allowed {w w' : World} {x : Exchange Action.Reply} (h : setting.Allows w x w') :
    Tolerates setting w x w'
  | unacknowledged {w : World} {q : Store.Request} {e : Store.Error} (now : String)
    (h : setting.storeFails e) :
    Tolerates setting w (.store q (q.refuse e)) { w with store := (w.store.answer now q).2 }

/-- What succeeds has been answered faithfully. -/
theorem Tolerates.answers_of_ok {q : Store.Request} {answer : q.Answer}
    (h : setting.Tolerates w (.store q (.ok answer)) w') :
    w.store.Answers setting.storeFails q (.ok answer) w'.store := by
  cases h with
  | allowed h => exact h.answers

theorem Tolerates.provider_replies {q : Provider.Request} {reply : q.Reply}
    (h : setting.Tolerates w (.provider q reply) w') : setting.provider q reply ∧ w' = w := by
  cases h with
  | allowed h => exact allows_provider_iff.1 h

end Setting

end Brokerage
