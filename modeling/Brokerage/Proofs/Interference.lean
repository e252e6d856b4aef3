import Brokerage.Proofs.Timeless
import Mathlib.Logic.Function.Basic

/-!
Programs of calls beside each other. Each caller makes one call after another, and its calls ask
their questions one at a time, with whatever the other callers ask in between. If each caller keeps
to an instance of its own then none of them can tell that it is not alone: the calls return what
they return when it is, and its instance is left as it is left then. What carries this through a
schedule is how a caller would end if it were let go on alone, which no step of anyone changes.
-/

set_option autoImplicit false

namespace Brokerage

/-- Every question of a program is of a kind, whatever it is told. -/
def Program.Only {κ : Type} {Reply : κ → Type} {ε α : Type} (P : κ → Prop) :
    Program Reply ε α → Prop
  | .done _ => True
  | .ask question next => P question ∧ ∀ reply, (next reply).Only P

namespace Broker

/-- A call to be made, and what its provider tells in it. -/
structure Job where
  request : Request
  script : Provider.Script

abbrev Job.Result (job : Job) : Type :=
  Except BrokerError job.request.Answer

/-- The instance that a call is made for, or for a binding of which it is made. -/
def Job.instanceId (job : Job) : String :=
  job.request.subject.instanceId

/-- A program of calls. Which call comes next may depend on what those before it returned. -/
abbrev Plan := Program Job.Result Empty Unit

/-- Makes a call with nothing beside it. -/
def perform (broker : Broker) (now : String) (w : World) (job : Job) : job.Result × World :=
  (broker.serve job.request).run (World.respond now job.script.answer) w

/-! ### Callers -/

/-- What a caller is doing: it is between two calls, or a call of it is under way. -/
inductive Doing where
  | between (plan : Plan)
  | within (job : Job) (rest : Call job.request.Answer) (next : job.Result → Plan)

structure Caller where
  returned : List (Exchange Job.Result) := []
  doing : Doing

/-- The caller has nothing left to do. -/
def Caller.Finished (caller : Caller) : Prop :=
  ∃ result, caller.doing = .between (.done result)

instance (caller : Caller) : Decidable caller.Finished :=
  match caller with
  | ⟨_, .between (.done result)⟩ => .isTrue ⟨result, rfl⟩
  | ⟨_, .between (.ask _ _)⟩ => .isFalse fun ⟨_, h⟩ ↦ nomatch h
  | ⟨_, .within _ _ _⟩ => .isFalse fun ⟨_, h⟩ ↦ nomatch h

/-- The next step of a caller: a call begins, asks one question or returns. -/
def advance (broker : Broker) (now : String) : Caller → World → Caller × World
  | ⟨returned, .between (.done result)⟩, w => (⟨returned, .between (.done result)⟩, w)
  | ⟨returned, .between (.ask job next)⟩, w =>
    (⟨returned, .within job (broker.serve job.request) next⟩, w)
  | ⟨returned, .within job (.done result) next⟩, w =>
    (⟨returned ++ [⟨job, result⟩], .between (next result)⟩, w)
  | ⟨returned, .within job (.ask question step) next⟩, w =>
    let (reply, after) := w.respond now job.script.answer question
    (⟨returned, .within job (step reply) next⟩, after)

/-- What a caller has been returned when it has gone on alone to its end, and the world then. -/
def finish (broker : Broker) (now : String) : Caller → World → List (Exchange Job.Result) × World
  | ⟨returned, .between plan⟩, w =>
    (returned ++ plan.trace (broker.perform now) w, (plan.run (broker.perform now) w).2)
  | ⟨returned, .within job rest next⟩, w =>
    let (result, after) := rest.run (World.respond now job.script.answer) w
    (returned ++ ⟨job, result⟩ :: (next result).trace (broker.perform now) after,
      ((next result).run (broker.perform now) after).2)

/-- Callers beside each other, and the world they share. -/
structure Callers (ι : Type) where
  callers : ι → Caller
  world : World

/-- Callers that have not made a call yet. -/
def Callers.start {ι : Type} (plans : ι → Plan) (w : World) : Callers ι where
  callers k := { doing := .between (plans k) }
  world := w

section Play

variable {ι : Type} [DecidableEq ι]

/-- One caller makes its next step at some time. -/
def step (broker : Broker) (all : Callers ι) (k : ι) (now : String) : Callers ι :=
  let (caller, world) := broker.advance now (all.callers k) all.world
  ⟨Function.update all.callers k caller, world⟩

/-- Lets callers make their steps in the order and at the times of a schedule. -/
def play (broker : Broker) (schedule : List (ι × String)) (all : Callers ι) : Callers ι :=
  schedule.foldl (fun all turn ↦ broker.step all turn.1 turn.2) all

end Play

variable {broker : Broker} {i : String} {w v : World}

/-! ### Going on alone -/

/-- The caller asks about one instance only, and will make no call for another one. -/
def Caller.KeepsTo (i : String) (caller : Caller) : Prop :=
  match caller.doing with
  | .between plan => plan.Only fun job ↦ job.instanceId = i
  | .within job rest next =>
    Call.Alike i job.script Eq rest rest ∧
      ∀ result, (next result).Only fun job ↦ job.instanceId = i

/-- Ends with the same results, in worlds that are alike to an instance. -/
def EndsAlike (i : String) (x y : List (Exchange Job.Result) × World) : Prop :=
  x.1 = y.1 ∧ x.2.Alike i y.2

theorem EndsAlike.trans {x y z : List (Exchange Job.Result) × World} (hxy : EndsAlike i x y)
    (hyz : EndsAlike i y z) : EndsAlike i x z :=
  ⟨hxy.1.trans hyz.1, hxy.2.trans hyz.2⟩

theorem perform_alike (hvault : broker.hasVault = false) {job : Job} (hjob : job.instanceId = i)
    (hw : w.Alike i v) (now later : String) :
    (broker.perform now w job).1 = (broker.perform later v job).1 ∧
      (broker.perform now w job).2.Alike i (broker.perform later v job).2 :=
  (alike_serve hvault hjob).run hw now later

theorem plan_alike (hvault : broker.hasVault = false) {plan : Plan}
    (hplan : plan.Only fun job ↦ job.instanceId = i) (hw : w.Alike i v) (now later : String) :
    plan.trace (broker.perform now) w = plan.trace (broker.perform later) v ∧
      (plan.run (broker.perform now) w).2.Alike i (plan.run (broker.perform later) v).2 := by
  induction plan generalizing w v with
  | done result => exact ⟨rfl, hw⟩
  | ask job next ih =>
    obtain ⟨hjob, hnext⟩ := hplan
    obtain ⟨hresult, hafter⟩ := perform_alike hvault hjob hw now later
    obtain ⟨htrace, hend⟩ := ih (broker.perform later v job).1 (hnext _) hafter
    simp only [Program.trace, Program.run]
    rw [hresult]
    exact ⟨congrArg _ htrace, hend⟩

theorem finish_within_alike (hvault : broker.hasVault = false) {job : Job}
    {rest other : Call job.request.Answer} (hrest : Call.Alike i job.script Eq rest other)
    {next : job.Result → Plan} (hnext : ∀ result, (next result).Only fun job ↦ job.instanceId = i)
    (returned : List (Exchange Job.Result)) (hw : w.Alike i v) (now later : String) :
    EndsAlike i (broker.finish now ⟨returned, .within job rest next⟩ w)
      (broker.finish later ⟨returned, .within job other next⟩ v) := by
  obtain ⟨hresult, hafter⟩ := hrest.run hw now later
  obtain ⟨htrace, hend⟩ := plan_alike hvault
    (hnext (other.run (World.respond later job.script.answer) v).1) hafter now later
  simp only [finish, EndsAlike]
  rw [hresult]
  exact ⟨congrArg (fun rest ↦ returned ++ _ :: rest) htrace, hend⟩

/-- A caller that keeps to an instance ends alike from worlds that are alike to the instance. -/
theorem finish_alike (hvault : broker.hasVault = false) {caller : Caller}
    (hcaller : caller.KeepsTo i) (hw : w.Alike i v) (now later : String) :
    EndsAlike i (broker.finish now caller w) (broker.finish later caller v) := by
  obtain ⟨returned, doing⟩ := caller
  cases doing with
  | between plan =>
    obtain ⟨htrace, hend⟩ := plan_alike hvault hcaller hw now later
    exact ⟨congrArg (returned ++ ·) htrace, hend⟩
  | within job rest next =>
    exact finish_within_alike hvault hcaller.1 hcaller.2 returned hw now later

theorem Caller.returned_prefix (caller : Caller) (later : String) (w : World) :
    caller.returned <+: (broker.finish later caller w).1 := by
  match caller with
  | ⟨_, .between _⟩ => exact List.prefix_append ..
  | ⟨_, .within _ _ _⟩ => exact List.prefix_append ..

theorem Caller.Finished.finish_eq {caller : Caller} (h : caller.Finished) (later : String)
    (w : World) : broker.finish later caller w = (caller.returned, w) := by
  obtain ⟨returned, doing⟩ := caller
  obtain ⟨result, hdoing⟩ := h
  cases hdoing
  simp [finish, Program.trace, Program.run]

/-! ### Steps -/

theorem keyed_advance (hw : w.store.Keyed) (caller : Caller) (now : String) :
    (broker.advance now caller w).2.store.Keyed := by
  match caller with
  | ⟨_, .between (.done _)⟩ => exact hw
  | ⟨_, .between (.ask _ _)⟩ => exact hw
  | ⟨_, .within _ (.done _) _⟩ => exact hw
  | ⟨_, .within _ (.ask question _) _⟩ => exact World.keyed_respond hw now _ question

/-- A step leaves the account of an instance as it was to which the caller does not keep. -/
theorem account_advance {caller : Caller} (hcaller : caller.KeepsTo i) {j : String} (hj : j ≠ i)
    (w : World) (now : String) :
    (broker.advance now caller w).2.store.accountOf j = w.store.accountOf j := by
  match caller with
  | ⟨_, .between (.done _)⟩ => rfl
  | ⟨_, .between (.ask _ _)⟩ => rfl
  | ⟨_, .within _ (.done _) _⟩ => rfl
  | ⟨_, .within _ (.ask _ _) _⟩ => exact hcaller.1.account_respond hj w now

theorem keepsTo_advance (hvault : broker.hasVault = false) {caller : Caller}
    (hcaller : caller.KeepsTo i) (hw : w.store.Keyed) (now : String) :
    (broker.advance now caller w).1.KeepsTo i := by
  match caller with
  | ⟨_, .between (.done _)⟩ => exact hcaller
  | ⟨_, .between (.ask _ _)⟩ => exact ⟨alike_serve hvault hcaller.1, hcaller.2⟩
  | ⟨_, .within _ (.done result) _⟩ => exact hcaller.2 result
  | ⟨_, .within _ (.ask _ _) _⟩ =>
    exact ⟨(hcaller.1.respond (.rfl hw) now now).1, hcaller.2⟩

/-- The next step of a caller does not change how it ends, at whatever time it is made. -/
theorem finish_advance (hvault : broker.hasVault = false) {caller : Caller}
    (hcaller : caller.KeepsTo i) (hw : w.store.Keyed) (now later : String) :
    EndsAlike i
      (broker.finish later (broker.advance now caller w).1 (broker.advance now caller w).2)
      (broker.finish later caller w) := by
  have hsame : EndsAlike i (broker.finish later caller w) (broker.finish later caller w) :=
    finish_alike hvault hcaller (.rfl hw) later later
  match caller with
  | ⟨_, .between (.done _)⟩ => exact hsame
  | ⟨_, .between (.ask _ _)⟩ => exact hsame
  | ⟨returned, .within job (.done result) next⟩ =>
    refine ⟨?_, hsame.2⟩
    show (returned ++ [⟨job, result⟩]) ++ (next result).trace (broker.perform later) w =
      returned ++ ⟨job, result⟩ :: (next result).trace (broker.perform later) w
    rw [List.append_assoc, List.singleton_append]
  | ⟨returned, .within job (.ask question next) _⟩ =>
    -- the reply now and the reply later differ in the times, and those the call does not look at
    obtain ⟨hnext, hafter⟩ := hcaller.1.respond (.rfl hw) now later
    exact finish_within_alike hvault hnext hcaller.2 returned hafter later later

/-! ### Schedules -/

section Schedules

variable {ι : Type} [DecidableEq ι] {home : ι → String} {all : Callers ι}

/-- Each caller keeps to its own instance, and would end as given if it went on alone. -/
structure Undisturbed (broker : Broker) (home : ι → String) (later : String)
    (ends : ι → List (Exchange Job.Result) × World) (all : Callers ι) : Prop where
  keyed : all.world.store.Keyed
  keepsTo : ∀ k, (all.callers k).KeepsTo (home k)
  ends_alike : ∀ k, EndsAlike (home k) (broker.finish later (all.callers k) all.world) (ends k)

theorem callers_step_self (broker : Broker) (all : Callers ι) (k : ι) (now : String) :
    (broker.step all k now).callers k = (broker.advance now (all.callers k) all.world).1 :=
  Function.update_self ..

theorem callers_step_of_ne (broker : Broker) (all : Callers ι) {j k : ι} (hj : j ≠ k)
    (now : String) : (broker.step all k now).callers j = all.callers j :=
  Function.update_of_ne hj ..

/-- A step of one caller does not change how any of them ends. -/
theorem Undisturbed.step {later : String} {ends : ι → List (Exchange Job.Result) × World}
    (hvault : broker.hasVault = false) (hhome : Function.Injective home)
    (h : Undisturbed broker home later ends all) (k : ι) (now : String) :
    Undisturbed broker home later ends (broker.step all k now) := by
  have hkeyed : (broker.step all k now).world.store.Keyed :=
    keyed_advance h.keyed (all.callers k) now
  -- the caller that steps goes on as it would alone; to each other one only the world has changed
  refine ⟨hkeyed, fun j ↦ ?_, fun j ↦ ?_⟩
  · by_cases hj : j = k
    · subst hj
      rw [callers_step_self]
      exact keepsTo_advance hvault (h.keepsTo j) h.keyed now
    · rw [callers_step_of_ne broker all hj]
      exact h.keepsTo j
  · by_cases hj : j = k
    · subst hj
      rw [callers_step_self]
      exact (finish_advance hvault (h.keepsTo j) h.keyed now later).trans (h.ends_alike j)
    · have haccount : (broker.step all k now).world.store.accountOf (home j) =
          all.world.store.accountOf (home j) :=
        account_advance (h.keepsTo k) (hhome.ne hj) all.world now
      rw [callers_step_of_ne broker all hj]
      exact (finish_alike hvault (h.keepsTo j) ⟨hkeyed, h.keyed, haccount⟩ later later).trans
        (h.ends_alike j)

theorem Undisturbed.play {later : String} {ends : ι → List (Exchange Job.Result) × World}
    (hvault : broker.hasVault = false) (hhome : Function.Injective home)
    (h : Undisturbed broker home later ends all) (schedule : List (ι × String)) :
    Undisturbed broker home later ends (broker.play schedule all) := by
  induction schedule generalizing all with
  | nil => exact h
  | cons turn schedule ih => exact ih (h.step hvault hhome turn.1 turn.2)

/-! ### No caller waits for another -/

theorem exists_finished_of_within (broker : Broker) {k : ι} (now : String) {job : Job}
    {next : job.Result → Plan}
    (hnext : ∀ result (all : Callers ι) returned,
      all.callers k = ⟨returned, .between (next result)⟩ →
        ∃ n, ((broker.play (List.replicate n (k, now)) all).callers k).Finished)
    (rest : Call job.request.Answer) (all : Callers ι) {returned : List (Exchange Job.Result)}
    (hcaller : all.callers k = ⟨returned, .within job rest next⟩) :
    ∃ n, ((broker.play (List.replicate n (k, now)) all).callers k).Finished := by
  induction rest generalizing all with
  | done result =>
    have hstep : (broker.step all k now).callers k =
        ⟨returned ++ [⟨job, result⟩], .between (next result)⟩ := by
      rw [callers_step_self, hcaller, advance]
    obtain ⟨n, hn⟩ := hnext result _ _ hstep
    exact ⟨n + 1, hn⟩
  | ask question go ih =>
    have hstep : (broker.step all k now).callers k =
        ⟨returned, .within job
          (go (all.world.respond now job.script.answer question).1) next⟩ := by
      rw [callers_step_self, hcaller, advance]
    obtain ⟨n, hn⟩ := ih _ _ hstep
    exact ⟨n + 1, hn⟩

theorem exists_finished_of_between (broker : Broker) {k : ι} (now : String) (plan : Plan)
    (all : Callers ι) {returned : List (Exchange Job.Result)}
    (hcaller : all.callers k = ⟨returned, .between plan⟩) :
    ∃ n, ((broker.play (List.replicate n (k, now)) all).callers k).Finished := by
  induction plan generalizing all returned with
  | done result => exact ⟨0, result, by rw [List.replicate_zero, play, List.foldl_nil, hcaller]⟩
  | ask job next ih =>
    have hstep : (broker.step all k now).callers k =
        ⟨returned, .within job (broker.serve job.request) next⟩ := by
      rw [callers_step_self, hcaller, advance]
    obtain ⟨n, hn⟩ :=
      exists_finished_of_within broker now (fun result all _ h ↦ ih result all h) _ _ hstep
    exact ⟨n + 1, hn⟩

/-- Wherever a caller is, it comes to its end when it goes on. -/
theorem exists_finished (broker : Broker) (all : Callers ι) (k : ι) (now : String) :
    ∃ n, ((broker.play (List.replicate n (k, now)) all).callers k).Finished := by
  cases hcaller : all.callers k with
  | mk returned doing =>
    cases doing with
    | between plan => exact exists_finished_of_between broker now plan all hcaller
    | within job rest next =>
      exact exists_finished_of_within broker now
        (fun result all _ h ↦ exists_finished_of_between broker now (next result) all h)
        rest all hcaller

/-- Callers that keep to an instance each, and no two of them to the same one, do not interfere.
In whatever order and at whatever times they make their steps, the calls of each of them return, one
after another, what they return when the caller is alone; and when it is finished, the record, the
bindings and the requests of its instance are what they are then, times aside. From anywhere it can
go on until it is finished. Assumes: a broker without a vault, a store that does not fail and has
each record under its own ids, and for each call a provider of which the answers do not depend on
the times in records and which refreshes nothing but the details. -/
theorem callers_do_not_interfere (hvault : broker.hasVault = false) {plans : ι → Plan}
    (hhome : Function.Injective home)
    (hplans : ∀ k, (plans k).Only fun job ↦ job.instanceId = home k) (hw : w.store.Keyed)
    (schedule : List (ι × String)) (k : ι) (later : String) :
    let played := broker.play schedule (.start plans w)
    let results := (plans k).trace (broker.perform later) w
    let alone := ((plans k).run (broker.perform later) w).2
    (played.callers k).returned <+: results ∧
      ((played.callers k).Finished → (played.callers k).returned = results ∧
        played.world.store.accountOf (home k) = alone.store.accountOf (home k)) ∧
      ∃ n, ((broker.play (List.replicate n (k, later)) played).callers k).Finished := by
  intro played results alone
  have hstart : Undisturbed broker home later (fun k ↦
      ((plans k).trace (broker.perform later) w, ((plans k).run (broker.perform later) w).2))
      (.start plans w) :=
    ⟨hw, hplans, fun k ↦ plan_alike hvault (hplans k) (.rfl hw) later later⟩
  obtain ⟨hreturned, hend⟩ := (hstart.play hvault hhome schedule).ends_alike k
  refine ⟨?_, fun hfinished ↦ ?_, exists_finished broker played k later⟩
  · rw [← show _ = results from hreturned]
    exact Caller.returned_prefix ..
  · rw [hfinished.finish_eq] at hreturned hend
    exact ⟨hreturned, hend.account⟩

end Schedules

/-- What the provider of the database service tells: what it starts is under way, and done when it
is polled. -/
def databaseScript : Provider.Script
  | .provision _ _ => .ok (.pending "op-1" .null)
  | .update _ _ => .ok (.completed ())
  | .deprovision _ _ _ => .ok (.pending "op-2" ())
  | .bind _ _ => .ok .null
  | .buildCredentials _ binding _ => .ok ⟨[("instance", .string binding.instanceId)]⟩
  | .unbind _ _ _ => .ok ()
  | .poll _ _ => .ok true
  | .refresh _ _ => .ok "running"

/-- Provisions an instance, waits until it is there and binds it. -/
def provisionAndBind (i : String) : Plan :=
  .ask ⟨.provision i { serviceId := "db", planId := "small" } true, databaseScript⟩ fun _ ↦
    .ask ⟨.lastOperation i {}, databaseScript⟩ fun _ ↦
      .ask ⟨.bind i "b-1" { serviceId := "db", planId := "small" }, databaseScript⟩ fun _ ↦
        .done (.ok ())

/-- One of two callers provisions and binds the first instance, the other one the second. -/
def bothProvisionAndBind (first : Bool) : Plan :=
  provisionAndBind (if first then "i-1" else "i-2")

/-- The two take turns, and go by different clocks. -/
def inTurns : List (Bool × String) :=
  (List.replicate 20 [(true, "morning"), (false, "evening")]).flatten

theorem both_provisionAndBind_undisturbed :
    let played := (databaseBroker false).play inTurns (.start bothProvisionAndBind {})
    let perform := (databaseBroker false).perform "noon"
    (played.callers true).returned = (provisionAndBind "i-1").trace perform {} ∧
      (played.callers false).returned = (provisionAndBind "i-2").trace perform {} ∧
      played.world.store.accountOf "i-1" =
        ((provisionAndBind "i-1").run perform {}).2.store.accountOf "i-1" := by
  intro played perform
  have hvault : (databaseBroker false).hasVault = false := rfl
  have hhome : Function.Injective fun first : Bool ↦ if first then "i-1" else "i-2" := by
    intro j k
    cases j <;> cases k <;> simp
  have hplans (first : Bool) : (bothProvisionAndBind first).Only fun job ↦
      job.instanceId = if first then "i-1" else "i-2" :=
    ⟨rfl, fun _ ↦ ⟨rfl, fun _ ↦ ⟨rfl, fun _ ↦ trivial⟩⟩⟩
  have hkeyed : ({} : World).store.Keyed := Store.keyed_empty
  have hfinished : ∀ first, (((databaseBroker false).play inTurns
      (.start bothProvisionAndBind {})).callers first).Finished := by
    decide +kernel
  have hend (first : Bool) :=
    (callers_do_not_interfere hvault hhome hplans hkeyed inTurns first "noon").2.1
      (hfinished first)
  exact ⟨(hend true).1, (hend false).1, (hend true).2⟩

end Broker

end Brokerage
