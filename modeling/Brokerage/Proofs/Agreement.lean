import Brokerage.Proofs.Standing

/-!
When the records agree with the providers. A record of an instance is there just when the provider
has the instance, with the operation that is under way; a record of a binding is there just when
the binding was issued. What an exchange is not about stays agreed.
-/

set_option autoImplicit false

namespace Brokerage

/-- The record of an instance agrees with where the instance stands. -/
structure InstanceAgrees (s : Store) (standing : Standing) (i : String) : Prop where
  present : (∃ record, s.instances.get? i = some record) ↔ standing.present i
  operation : ∀ record, s.instances.get? i = some record →
    record.operation = standing.outstanding i
  quiet : ¬ standing.present i → standing.outstanding i = none

/-- The record of a binding agrees with where the binding stands. -/
def BindingAgrees (s : Store) (standing : Standing) (i b : String) : Prop :=
  (∃ record, s.bindings.get? (i, b) = some record) ↔ standing.bound (i, b)

/-- The record of a subject agrees with where the subject stands. -/
def Agrees (s : Store) (standing : Standing) : Subject → Prop
  | .instance i => InstanceAgrees s standing i
  | .binding i b => BindingAgrees s standing i b

theorem agrees_empty (subject : Subject) : Agrees Store.empty Standing.idle subject := by
  cases subject with
  | «instance» i =>
    refine ⟨?_, ?_, fun _ ↦ rfl⟩
    · simp [Store.empty, Standing.idle]
    · simp [Store.empty]
  | binding i b =>
    show (∃ record, Store.empty.bindings.get? (i, b) = some record) ↔ False
    simp [Store.empty]

theorem Agrees.congr {s t : Store} {standing standing' : Standing} {subject : Subject}
    (hrecord : s.SameRecord t subject) (hstanding : standing.Same standing' subject)
    (h : Agrees s standing subject) : Agrees t standing' subject := by
  cases subject with
  | «instance» i =>
    have hrecord : t.instances.get? i = s.instances.get? i := hrecord
    obtain ⟨hpresent, houtstanding⟩ := hstanding
    refine ⟨?_, ?_, ?_⟩
    · rw [hrecord, hpresent]
      exact h.present
    · rw [hrecord, houtstanding]
      exact h.operation
    · rw [hpresent, houtstanding]
      exact h.quiet
  | binding i b =>
    have hrecord : t.bindings.get? (i, b) = s.bindings.get? (i, b) := hrecord
    have hbound : standing'.bound (i, b) = standing.bound (i, b) := hstanding
    show (∃ record, t.bindings.get? (i, b) = some record) ↔ standing'.bound (i, b)
    rw [hrecord, hbound]
    exact h

theorem InstanceAgrees.of_some {s : Store} {standing : Standing} {i : String}
    {record : InstanceRecord} (hrecord : s.instances.get? i = some record)
    (hpresent : standing.present i) (hoperation : record.operation = standing.outstanding i) :
    InstanceAgrees s standing i := by
  refine ⟨iff_of_true ⟨record, hrecord⟩ hpresent, ?_, fun h ↦ absurd hpresent h⟩
  intro found hfound
  cases hrecord.symm.trans hfound
  exact hoperation

theorem InstanceAgrees.of_none {s : Store} {standing : Standing} {i : String}
    (hrecord : s.instances.get? i = none) (hpresent : ¬ standing.present i)
    (hquiet : standing.outstanding i = none) : InstanceAgrees s standing i := by
  refine ⟨iff_of_false ?_ hpresent, ?_, fun _ ↦ hquiet⟩
  · rintro ⟨record, hfound⟩
    cases hrecord.symm.trans hfound
  · intro record hfound
    cases hrecord.symm.trans hfound

theorem InstanceAgrees.not_present {s : Store} {standing : Standing} {i : String}
    (h : InstanceAgrees s standing i) (hrecord : s.instances.get? i = none) :
    ¬ standing.present i := by
  intro hpresent
  obtain ⟨record, hfound⟩ := h.present.2 hpresent
  cases hrecord.symm.trans hfound

/-! ### Exchanges about something else -/

section Unaffected

variable {setting : Setting} {w w' : World} {subject : Subject}

theorem Setting.Allows.sameRecord {x : Exchange Action.Reply} (h : setting.Allows w x w')
    (hsubject : x.affected? ≠ some subject) : w.store.SameRecord w'.store subject := by
  refine h.sameRecord_of_written fun hwritten ↦ ?_
  cases h with
  | @store q reply after h => cases reply <;> exact hsubject hwritten
  | vault h => cases hwritten
  | provider h => cases hwritten

/-- A dialogue changes at most what one of its exchanges is about. -/
theorem sameRecord_of_steps {exchanges : Dialogue} (h : Steps setting.Allows w exchanges w')
    (hsubject : ∀ x ∈ exchanges, x.affected? ≠ some subject) :
    w.store.SameRecord w'.store subject := by
  refine h.preserves (P := fun v ↦ w.store.SameRecord v.store subject) ?_ (.rfl subject)
  intro v x v' hx hv hstep
  exact hv.trans (hstep.sameRecord (hsubject x hx))

theorem same_afterAll {exchanges : Dialogue} {standing : Standing}
    (hsubject : ∀ x ∈ exchanges, x.affected? ≠ some subject) :
    standing.Same (standing.afterAll exchanges) subject := by
  induction exchanges generalizing standing with
  | nil => exact .rfl subject
  | cons x rest ih =>
    have hx : standing.Same (standing.after x) subject :=
      Standing.after_same (hsubject x (List.mem_cons_self ..))
    exact hx.trans (ih fun y hy ↦ hsubject y (List.mem_cons_of_mem _ hy))

theorem Agrees.unaffected {exchanges : Dialogue} {standing : Standing}
    (h : Agrees w.store standing subject) (hsteps : Steps setting.Allows w exchanges w')
    (hsubject : ∀ x ∈ exchanges, x.affected? ≠ some subject) :
    Agrees w'.store (standing.afterAll exchanges) subject :=
  h.congr (sameRecord_of_steps hsteps hsubject) (same_afterAll hsubject)

end Unaffected

end Brokerage
