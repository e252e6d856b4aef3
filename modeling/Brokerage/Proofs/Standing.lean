import Brokerage.Json.Access
import Brokerage.Proofs.World
import Mathlib.Logic.Function.Basic

/-!
Where the providers stand, as told from outside: which instances they have, which operation each
has under way, which bindings they have issued. It is read off what providers were asked and what
they answered, and nothing that the broker remembers enters it but what it passed on.
-/

set_option autoImplicit false

namespace Brokerage

/-- The instances, the operations under way and the bindings at the providers. -/
structure Standing where
  present : String → Prop
  outstanding : String → Option PendingOperation
  bound : String × String → Prop

namespace Standing

/-- Nothing is at the providers. -/
def idle : Standing := ⟨fun _ ↦ False, fun _ ↦ none, fun _ ↦ False⟩

/-- An outcome that is pending takes the place of what was under way. -/
def begun (standing : Standing) (i : String) (kind : OperationKind) {α : Type}
    (outcome : Provider.Outcome α) : Standing :=
  match outcome with
  | .completed _ => standing
  | .pending token _ =>
    { standing with outstanding := Function.update standing.outstanding i (some ⟨token, kind⟩) }

/-- An instance is gone, and with it what was under way. -/
def gone (standing : Standing) (i : String) : Standing :=
  { standing with
    present := Function.update standing.present i False
    outstanding := Function.update standing.outstanding i none }

/-- An operation is reported done; with a deprovision the instance is gone. -/
def done (standing : Standing) (i : String) (operation : PendingOperation) : Standing :=
  if operation.kind = .deprovision then standing.gone i
  else if standing.outstanding i = some operation then
    { standing with outstanding := Function.update standing.outstanding i none }
  else standing

/-- Where the providers stand after an answer of one. -/
def answered (standing : Standing) : (q : Provider.Request) → q.Reply → Standing
  | .provision _ vars, .ok outcome =>
    let i := (Json.object vars).textAt "instance_id"
    { standing.begun i .provision outcome with
      present := Function.update standing.present i True }
  | .update _ vars, .ok outcome =>
    standing.begun ((Json.object vars).textAt "instance_id") .update outcome
  | .deprovision _ record _, .ok (.completed _) => standing.gone record.id
  | .deprovision _ record _, .ok (.pending token value) =>
    standing.begun record.id .deprovision (.pending token value)
  | .poll _ record, .ok true =>
    match record.operation with
    | some operation => standing.done record.id operation
    | none => standing
  | .bind _ vars, .ok _ =>
    let i := (Json.object vars).textAt "instance_id"
    let b := (Json.object vars).textAt "binding_id"
    { standing with bound := Function.update standing.bound (i, b) True }
  | .unbind _ record binding, .ok _ =>
    { standing with bound := Function.update standing.bound (record.id, binding.bindingId) False }
  | _, _ => standing

/-- Where the providers stand after an exchange. -/
def after (standing : Standing) (x : Exchange Action.Reply) : Standing :=
  match x with
  | ⟨.provider q, reply⟩ => standing.answered q reply
  | _ => standing

/-- Where the providers stand after a dialogue. -/
def afterAll (standing : Standing) (exchanges : Dialogue) : Standing :=
  exchanges.foldl after standing

@[simp] theorem afterAll_nil (standing : Standing) : standing.afterAll [] = standing := rfl

@[simp] theorem afterAll_cons (standing : Standing) (x : Exchange Action.Reply)
    (exchanges : Dialogue) :
    standing.afterAll (x :: exchanges) = (standing.after x).afterAll exchanges := rfl

@[simp] theorem afterAll_append (standing : Standing) (first second : Dialogue) :
    standing.afterAll (first ++ second) = (standing.afterAll first).afterAll second :=
  List.foldl_append

/-- Two standings do not differ in a subject. -/
def Same (standing standing' : Standing) : Subject → Prop
  | .instance i => standing'.present i = standing.present i ∧
      standing'.outstanding i = standing.outstanding i
  | .binding i b => standing'.bound (i, b) = standing.bound (i, b)

theorem Same.rfl {standing : Standing} (subject : Subject) : standing.Same standing subject := by
  cases subject with
  | «instance» i => exact ⟨Eq.refl _, Eq.refl _⟩
  | binding i b => exact Eq.refl _

theorem Same.trans {standing standing' standing'' : Standing} {subject : Subject}
    (h : standing.Same standing' subject) (h' : standing'.Same standing'' subject) :
    standing.Same standing'' subject := by
  cases subject with
  | «instance» i => exact ⟨h'.1.trans h.1, h'.2.trans h.2⟩
  | binding i b => exact Eq.trans h' h

end Standing

/-! ### What an exchange is about -/

/-- What the answer of a provider may change in where it stands. -/
def Provider.Request.subject? : Provider.Request → Option Subject
  | .provision _ vars | .update _ vars =>
    some (.instance ((Json.object vars).textAt "instance_id"))
  | .deprovision _ record _ | .poll _ record => some (.instance record.id)
  | .bind _ vars =>
    some (.binding ((Json.object vars).textAt "instance_id")
      ((Json.object vars).textAt "binding_id"))
  | .unbind _ record binding => some (.binding record.id binding.bindingId)
  | .buildCredentials _ _ _ | .refresh _ _ => none

/-- The subject whose record or standing an exchange may change. -/
def Exchange.affected? : Exchange Action.Reply → Option Subject
  | ⟨.store q, .ok _⟩ => q.subject?
  | ⟨.provider (.poll _ _), .ok false⟩ => none
  | ⟨.provider q, .ok _⟩ => q.subject?
  | _ => none

namespace Standing

/-- With nothing under way before, what is under way is what the outcome says. -/
theorem begun_outstanding {standing : Standing} {i : String} {kind : OperationKind} {α : Type}
    {outcome : Provider.Outcome α} (hidle : standing.outstanding i = none) :
    (standing.begun i kind outcome).outstanding i = outcome.operation? kind := by
  cases outcome with
  | completed value => exact hidle
  | pending token value => exact Function.update_self ..

theorem begun_present {standing : Standing} {i : String} {kind : OperationKind} {α : Type}
    {outcome : Provider.Outcome α} :
    (standing.begun i kind outcome).present = standing.present := by
  cases outcome <;> rfl

theorem begun_same {standing : Standing} {i : String} {kind : OperationKind} {α : Type}
    {outcome : Provider.Outcome α} {subject : Subject} (hsubject : subject ≠ .instance i) :
    standing.Same (standing.begun i kind outcome) subject := by
  cases outcome with
  | completed value => exact .rfl subject
  | pending token value =>
    cases subject with
    | «instance» j =>
      have hne : j ≠ i := fun heq ↦ hsubject (by rw [heq])
      exact ⟨rfl, Function.update_of_ne hne ..⟩
    | binding j b => rfl

theorem gone_same {standing : Standing} {i : String} {subject : Subject}
    (hsubject : subject ≠ .instance i) : standing.Same (standing.gone i) subject := by
  cases subject with
  | «instance» j =>
    have hne : j ≠ i := fun heq ↦ hsubject (by rw [heq])
    exact ⟨Function.update_of_ne hne .., Function.update_of_ne hne ..⟩
  | binding j b => rfl

theorem done_same {standing : Standing} {i : String} {operation : PendingOperation}
    {subject : Subject} (hsubject : subject ≠ .instance i) :
    standing.Same (standing.done i operation) subject := by
  unfold done
  split
  next => exact gone_same hsubject
  next =>
    split
    next =>
      cases subject with
      | «instance» j =>
        have hne : j ≠ i := fun heq ↦ hsubject (by rw [heq])
        exact ⟨rfl, Function.update_of_ne hne ..⟩
      | binding j b => rfl
    next => exact .rfl subject

theorem bound_same {standing : Standing} {i b : String} {held : Prop} {subject : Subject}
    (hsubject : subject ≠ .binding i b) :
    standing.Same { standing with bound := Function.update standing.bound (i, b) held }
      subject := by
  cases subject with
  | «instance» j => exact ⟨rfl, rfl⟩
  | binding j c =>
    refine Function.update_of_ne (fun heq ↦ hsubject ?_) ..
    cases heq
    rfl

/-- An exchange changes at most where the subject stands that it is about. -/
theorem after_same {standing : Standing} {x : Exchange Action.Reply} {subject : Subject}
    (hsubject : x.affected? ≠ some subject) : standing.Same (standing.after x) subject := by
  obtain ⟨question, reply⟩ := x
  cases question with
  | store q => exact .rfl subject
  | vault q => exact .rfl subject
  | provider q =>
    cases reply with
    | error e => cases q <;> exact .rfl subject
    | ok answer =>
      cases q with
      | provision serviceId vars =>
        have hne : subject ≠ .instance ((Json.object vars).textAt "instance_id") :=
          fun heq ↦ hsubject (congrArg some heq.symm)
        have hbegun : standing.Same (standing.begun _ .provision answer) subject := begun_same hne
        cases subject with
        | «instance» j =>
          have hj : j ≠ (Json.object vars).textAt "instance_id" := fun heq ↦ hne (by rw [heq])
          exact ⟨Function.update_of_ne hj .., hbegun.2⟩
        | binding j b => exact hbegun
      | update serviceId vars => exact begun_same fun heq ↦ hsubject (congrArg some heq.symm)
      | deprovision serviceId record details =>
        have hne : subject ≠ .instance record.id := fun heq ↦ hsubject (congrArg some heq.symm)
        cases answer with
        | completed value => exact gone_same hne
        | pending token value =>
          have hbegun : standing.Same
              (standing.begun record.id .deprovision (.pending token value)) subject :=
            begun_same hne
          exact hbegun
      | poll serviceId record =>
        cases answer with
        | false => exact .rfl subject
        | true =>
          have hne : subject ≠ .instance record.id := fun heq ↦ hsubject (congrArg some heq.symm)
          show standing.Same (match record.operation with
            | some operation => standing.done record.id operation
            | none => standing) subject
          cases record.operation with
          | none => exact .rfl subject
          | some operation => exact done_same hne
      | bind serviceId vars =>
        have hne : subject ≠ .binding ((Json.object vars).textAt "instance_id")
            ((Json.object vars).textAt "binding_id") := fun heq ↦ hsubject (congrArg some heq.symm)
        exact bound_same hne
      | unbind serviceId record binding =>
        have hne : subject ≠ .binding record.id binding.bindingId :=
          fun heq ↦ hsubject (congrArg some heq.symm)
        exact bound_same hne
      | buildCredentials | refresh => exact .rfl subject

end Standing

end Brokerage
