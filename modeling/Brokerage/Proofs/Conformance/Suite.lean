import Brokerage.Proofs.Conformance.Checks
import Brokerage.Proofs.Conformance.Races

/-!
The suite raises no false alarm: a store that conforms passes every check, in whatever order the
contenders act and their outcomes are collected. The store in memory conforms with any clock that
shows something.
-/

set_option autoImplicit false

namespace Brokerage

/-- What is found in a table has a property, whatever the key. -/
def Table.Every {κ α : Type} [DecidableEq κ] (t : Table κ α) (P : α → Prop) : Prop :=
  ∀ key x, t.get? key = some x → P x

section Every

variable {κ α : Type} [DecidableEq κ] {t : Table κ α} {P : α → Prop}

theorem Table.Every.put (h : t.Every P) {key : κ} {x : α} (hx : P x) : (t.put key x).Every P := by
  intro k y hfound
  rw [Table.get?_put] at hfound
  split at hfound
  next => exact Option.some.inj hfound ▸ hx
  next => exact h k y hfound

theorem Table.Every.remove (h : t.Every P) {key : κ} : (t.remove key).Every P := by
  intro k y hfound
  rw [Table.get?_remove] at hfound
  split at hfound
  next => cases hfound
  next => exact h k y hfound

end Every

namespace Conformance

open Races (Schedule)

section Suite

variable {σ : Type} {respond : Backend σ} {fresh : σ} {schedule : Schedule}

theorem Passes.passed_run {check : Check} (hpasses : Passes respond fresh check.trial) :
    (check.run respond fresh).passed = true := by
  obtain ⟨a, ha⟩ := hpasses
  rw [Check.run, ha]
  rfl

variable (h : Conforms respond fresh)
include h

theorem passes_instanceChecks : ∀ check ∈ Instances.checks, Passes respond fresh check.trial := by
  simp only [Instances.checks, List.forall_mem_cons]
  open Instances in
  exact ⟨passes_existsIsFalseForEmptyStore h, passes_createThenExists h,
    passes_createThenGetRoundTripsFields h, passes_createSetsTimestamps h,
    passes_saveOverwritesMutableFields h, passes_saveCanClearPendingOperation h,
    passes_deleteRemovesRecord h, passes_instancesAreIndependent h, passes_recreateAfterDelete h,
    List.forall_mem_nil _⟩

theorem passes_bindingChecks : ∀ check ∈ Bindings.checks, Passes respond fresh check.trial := by
  simp only [Bindings.checks, List.forall_mem_cons]
  open Bindings in
  exact ⟨passes_createThenGetRoundTripsFields h, passes_existsUsesCompositeKey h,
    passes_sameBindingIdOnDifferentInstances h, passes_deleteRemovesOnlyTarget h,
    List.forall_mem_nil _⟩

theorem passes_requestChecks : ∀ check ∈ Requests.checks, Passes respond fresh check.trial := by
  simp only [Requests.checks, List.forall_mem_cons]
  open Requests in
  exact ⟨passes_getReturnsLatestCreated h, passes_saveOverwritesLatest h,
    passes_saveInsertsWhenAbsent h, passes_emptyRequestDetailsAllowed h, List.forall_mem_nil _⟩

theorem passes_refusalChecks : ∀ check ∈ Refusals.checks, Passes respond fresh check.trial := by
  simp only [Refusals.checks, List.forall_mem_cons]
  open Refusals in
  exact ⟨passes_getMissingInstanceIsNotFound h, passes_saveMissingInstanceIsNotFound h,
    passes_deleteMissingInstanceIsNotFound h, passes_duplicateInstanceIsConflict h,
    passes_duplicateInstanceKeepsFirst h, passes_getMissingBindingIsNotFound h,
    passes_deleteMissingBindingIsNotFound h, passes_duplicateBindingIsConflict h,
    passes_getMissingRequestIsNotFound h, List.forall_mem_nil _⟩

theorem passes_raceChecks (hfair : schedule.Fair) :
    ∀ check ∈ Races.checks schedule, Passes respond fresh check.trial := by
  simp only [Races.checks, List.forall_mem_cons]
  open Races in
  exact ⟨passes_racingInstanceCreatesAdmitOne h hfair, passes_racingBindingCreatesAdmitOne h hfair,
    passes_disjointInstanceCreatesAllLand h hfair, List.forall_mem_nil _⟩

theorem passes_suite (hfair : schedule.Fair) :
    ∀ check ∈ suite schedule, Passes respond fresh check.trial := by
  simp only [suite, List.forall_mem_append]
  exact ⟨⟨⟨⟨passes_instanceChecks h, passes_bindingChecks h⟩, passes_requestChecks h⟩,
    passes_refusalChecks h⟩, passes_raceChecks h hfair⟩

/-- A store that conforms passes every check of the suite, and the report says so, in whatever
order the contenders act and their outcomes are collected. -/
theorem no_false_alarm (hfair : schedule.Fair) :
    (∀ check ∈ suite schedule, (check.run respond fresh).passed = true) ∧
      (run respond fresh schedule).isSuccess = true := by
  have hpassed : ∀ check ∈ suite schedule, (check.run respond fresh).passed = true :=
    fun check hmem ↦ (passes_suite h hfair check hmem).passed_run
  refine ⟨hpassed, ?_⟩
  simpa [run, Report.isSuccess] using hpassed

end Suite

/-! ### The store in memory -/

/-- The store in memory, with a clock that is read at every request. -/
def clocked (clock : Nat → String) : Backend (Nat × Store) := fun s q ↦
  ((s.2.answer (clock s.1) q).1, s.1 + 1, (s.2.answer (clock s.1) q).2)

theorem answers_answer (s : Store) (now : String) (q : Store.Request) :
    s.Answers (fun _ ↦ False) q (s.answer now q).1 (s.answer now q).2 :=
  .inl ⟨now, rfl⟩

theorem answers_of_clocked {clock : Nat → String} {s t : Nat × Store} {q : Store.Request}
    {reply : q.Reply} (h : clocked clock s q = (reply, t)) :
    s.2.Answers (fun _ ↦ False) q reply t.2 := by
  cases h
  exact answers_answer s.2 (clock s.1) q

/-- Two stores say the same of every instance, times aside. -/
def Resembles (s t : Store) : Prop :=
  ∀ i, s.accountOf i = t.accountOf i

theorem Resembles.answer {s t : Store} (h : Resembles s t) (now later : String)
    (q : Store.Request) : q.bare (s.answer now q).1 = q.bare (t.answer later q).1 ∧
      Resembles (s.answer now q).2 (t.answer later q).2 := by
  have hown := Store.answer_alike (h q.instanceId) now later rfl
  refine ⟨hown.1, fun i ↦ ?_⟩
  by_cases hi : q.instanceId = i
  · rw [← hi]
    exact hown.2
  · rw [(answers_answer s now q).accountOf_eq hi, (answers_answer t later q).accountOf_eq hi, h i]

theorem resembles_after (clock : Nat → String) {s : Nat × Store} {c : Store}
    (h : Resembles s.2 c) (asked : List Store.Request) :
    Resembles ((clocked clock).after s asked).2 (memory.after c asked) := by
  induction asked generalizing s c with
  | nil => exact h
  | cons q rest ih => exact ih (h.answer _ _ q).2

/-- Times aside, the store in memory answers the same whatever its clock. -/
theorem bare_clocked (clock : Nat → String) (asked : List Store.Request) (q : Store.Request) :
    q.bare (clocked clock ((clocked clock).after (0, .empty) asked) q).1 =
      q.bare (memory (memory.after .empty asked) q).1 := by
  have hresembles : Resembles ((clocked clock).after (0, .empty) asked).2
      (memory.after .empty asked) := resembles_after clock (fun _ ↦ rfl) asked
  exact (hresembles.answer _ _ q).1

/-- No record in a store has an empty time. -/
structure Timed (s : Store) : Prop where
  instances : s.instances.Every fun record ↦ record.createdAt ≠ "" ∧ record.updatedAt ≠ ""
  bindings : s.bindings.Every fun record ↦ record.createdAt ≠ ""
  requests : ∀ i, ∀ record ∈ s.history i, record.updatedAt ≠ ""

theorem timed_empty : Timed .empty where
  instances := fun _ _ hfound ↦ by cases hfound
  bindings := fun _ _ hfound ↦ by cases hfound
  requests := fun _ _ hmem ↦ absurd hmem List.not_mem_nil

theorem Timed.put_history {s : Store} (h : Timed s) {i : String} {entries : List RequestRecord}
    (hentries : ∀ record ∈ entries, record.updatedAt ≠ "") :
    Timed { s with requests := s.requests.put i entries } where
  instances := h.instances
  bindings := h.bindings
  requests j record hmem := by
    rw [Store.history_put] at hmem
    split at hmem
    next => exact hentries record hmem
    next => exact h.requests j record hmem

/-- What a store writes has the time of its writing, or of the creation. -/
theorem Timed.answer {s : Store} (h : Timed s) {now : String} (hnow : now ≠ "")
    (q : Store.Request) : Timed (s.answer now q).2 := by
  have hanswers := answers_answer s now q
  have hentry {entries : List RequestRecord} {record : RequestRecord}
      (hentries : ∀ entry ∈ entries, entry.updatedAt ≠ "") :
      ∀ entry ∈ entries ++ [{ record with updatedAt := now }], entry.updatedAt ≠ "" :=
    List.forall_mem_append.mpr ⟨hentries, by simpa using hnow⟩
  -- only a write that succeeds changes the store, and it puts in a record with the current time
  cases hreply : s.answer now q with
  | mk reply t =>
    rw [hreply] at hanswers
    cases reply with
    | error e => exact hanswers.of_error ▸ h
    | ok answer =>
      cases q with
      | createInstance record =>
        obtain ⟨-, rfl⟩ := Store.createInstance_ok hreply
        exact ⟨h.instances.put ⟨hnow, hnow⟩, h.bindings, h.requests⟩
      | saveInstance record =>
        obtain ⟨existing, hexisting, rfl⟩ := Store.saveInstance_ok hreply
        exact ⟨h.instances.put ⟨(h.instances _ existing hexisting).1, hnow⟩, h.bindings, h.requests⟩
      | deleteInstance i =>
        obtain ⟨-, rfl⟩ := hanswers.deleteInstance_ok
        exact ⟨h.instances.remove, h.bindings, h.requests⟩
      | createBinding record =>
        obtain ⟨-, rfl⟩ := Store.createBinding_ok hreply
        exact ⟨h.instances, h.bindings.put hnow, h.requests⟩
      | deleteBinding i b =>
        obtain ⟨-, rfl⟩ := hanswers.deleteBinding_ok
        exact ⟨h.instances, h.bindings.remove, h.requests⟩
      | createRequest record =>
        cases hreply
        exact h.put_history (hentry (h.requests _))
      | saveRequest record =>
        cases hreply
        refine h.put_history ?_
        rw [Store.replaceLatest_eq]
        exact hentry fun entry hmem ↦ h.requests _ entry (List.dropLast_subset _ hmem)
      | _ => exact hanswers.of_read rfl ▸ h

theorem Timed.stamped {s : Store} (h : Timed s) (now : String) (q : Store.Request) :
    Stamped q (s.answer now q).1 := by
  have hanswers := answers_answer s now q
  cases hreply : (s.answer now q).1 with
  | error e => cases q <;> trivial
  | ok answer =>
    rw [hreply] at hanswers
    cases q with
    | getInstance i => exact h.instances i answer hanswers.getInstance_ok
    | getBinding i b => exact h.bindings (i, b) answer hanswers.getBinding_ok
    | getRequest i => exact h.requests i answer (List.mem_of_getLast? hanswers.getRequest_ok)
    | _ => trivial

theorem timed_after {clock : Nat → String} (hclock : ∀ n, clock n ≠ "") {s : Nat × Store}
    (h : Timed s.2) (asked : List Store.Request) : Timed ((clocked clock).after s asked).2 := by
  induction asked generalizing s with
  | nil => exact h
  | cons q rest ih => exact ih (h.answer (hclock _) q)

/-- The store in memory conforms, with any clock that shows something whenever it is read. -/
theorem clocked_conforms {clock : Nat → String} (hclock : ∀ n, clock n ≠ "") :
    Conforms (clocked clock) (0, .empty) where
  alike := bare_clocked clock
  stamped asked q := by
    have htimed : Timed ((clocked clock).after (0, .empty) asked).2 :=
      timed_after hclock timed_empty asked
    exact htimed.stamped _ q
  kept asked i record saved got s t hread hid hsaved hreread := by
    generalize (clocked clock).after (0, .empty) asked = before at hread
    have hfound := (answers_of_clocked hread).getInstance_ok
    have hunchanged := (answers_of_clocked hread).of_read rfl
    obtain ⟨existing, hexisting, now, hafter⟩ := (answers_of_clocked hsaved).saveInstance_ok
    have hgot := (answers_of_clocked (Prod.ext hreread rfl)).getInstance_ok
    -- the save finds what was read, and keeps its time
    rw [hid, hunchanged, hfound] at hexisting
    rw [hafter, hid, Table.get?_put, if_pos rfl] at hgot
    cases hexisting
    cases hgot
    rfl

/-- The contenders act from the last to the first, and those with an odd number are collected
first. -/
theorem no_alarm_of_memory :
    let clock (n : Nat) := s!"t{n}"
    let schedule : Schedule := ⟨[9, 8, 7, 6, 5, 4, 3, 2, 1, 0], [1, 3, 5, 7, 9, 0, 2, 4, 6, 8]⟩
    Conforms (clocked clock) (0, .empty) ∧ schedule.Fair ∧
      (∀ check ∈ suite schedule, (check.run (clocked clock) (0, .empty)).passed = true) ∧
        (run (clocked clock) (0, .empty) schedule).isSuccess = true := by
  intro clock schedule
  have hclock (n : Nat) : clock n ≠ "" := by
    simp [clock]
  have hconforms := clocked_conforms hclock
  have hfair : schedule.Fair := ⟨by decide, by decide⟩
  exact ⟨hconforms, hfair, no_false_alarm hconforms hfair⟩

end Conformance

end Brokerage
