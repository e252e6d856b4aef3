import Brokerage.Store.Basic

/-!
Record stores that misbehave on request. A fault replaces or alters what one method does, either
every time or for a number of calls one after another; afterwards the store is as good as any.
-/

set_option autoImplicit false

namespace Brokerage.Rehearsal

/-- The faults of one method: the same for every call, or one for each of the next calls. No fault
is normal behaviour. -/
inductive Plan (φ : Type) where
  | always (fault : Option φ)
  | each (faults : List (Option φ))

namespace Plan

variable {φ : Type}

/-- The fault of the next call, and the plan after it. -/
def next : Plan φ → Option φ × Plan φ
  | .always fault => (fault, .always fault)
  | .each [] => (none, .each [])
  | .each (fault :: rest) => (fault, .each rest)

end Plan

/-- The fault of the next call of a method, and the plans after it. -/
def takeFault {μ φ : Type} [DecidableEq μ] (plans : Table μ (Plan φ)) (method : μ) :
    Option φ × Table μ (Plan φ) :=
  match plans.get? method with
  | none => (none, plans)
  | some plan => (plan.next.1, plans.put method plan.next.2)

/-- What may go wrong with a call of a store: it fails and does nothing, reports success and does
nothing, replaces what it should refuse to replace, answers a question at will, or hands over
a record with some fields altered. -/
inductive Fault where
  | fail (error : Store.Error)
  | ignore
  | upsert
  | answer (found : Bool)
  | edit (fields : Members)

/-- A record with fields replaced, or itself when the result would be no record. -/
def edited {α : Type} [Shaped α] (fields : Members) (record : α) : α :=
  match Shaped.ofValue Dialect.json (.object ((Shaped.toJson record).membersOf.extend fields)) with
  | .ok altered => altered
  | .error _ => record

/-- The reply of a write that was not carried out. -/
def pretended : (q : Store.Request) → Option q.Reply
  | .createInstance _ | .saveInstance _ | .deleteInstance _ | .createBinding _
  | .deleteBinding _ _ | .createRequest _ | .saveRequest _ => some (.ok ())
  | .instanceExists _ | .getInstance _ | .bindingExists _ _ | .getBinding _ _ | .getRequest _ =>
    none

/-- The store in which a write that replaces finds room for its record. -/
def cleared (now : String) (s : Store) : Store.Request → Store
  | .createInstance record => (s.answer now (.deleteInstance record.id)).2
  | .createBinding record => (s.answer now (.deleteBinding record.instanceId record.bindingId)).2
  | .saveInstance record => (s.answer now (.createInstance record)).2
  | _ => s

/-- A write of an altered record. -/
def alteredWrite (fields : Members) (now : String) (s : Store) :
    (q : Store.Request) → q.Reply × Store
  | .createInstance record => s.answer now (.createInstance (edited fields record))
  | .saveInstance record => s.answer now (.saveInstance (edited fields record))
  | .createBinding record => s.answer now (.createBinding (edited fields record))
  | .createRequest record => s.answer now (.createRequest (edited fields record))
  | .saveRequest record => s.answer now (.saveRequest (edited fields record))
  | q => s.answer now q

/-- A reply with an altered record. -/
def alteredReply (fields : Members) : (q : Store.Request) → q.Reply → q.Reply
  | .getInstance _, .ok record => .ok (edited fields record)
  | .getBinding _ _, .ok record => .ok (edited fields record)
  | .getRequest _, .ok record => .ok (edited fields record)
  | _, reply => reply

/-- Answers one request with the given fault. -/
def answerWith (now : String) (s : Store) (fault : Option Fault) (q : Store.Request) :
    q.Reply × Store :=
  match fault with
  | none => s.answer now q
  | some (.fail error) => (q.refuse error, s)
  | some .ignore =>
    match pretended q with
    | some reply => (reply, s)
    | none => s.answer now q
  | some .upsert => (cleared now s q).answer now q
  | some (.answer found) =>
    match q with
    | .instanceExists _ => (.ok found, s)
    | .bindingExists _ _ => (.ok found, s)
    | q => s.answer now q
  | some (.edit fields) =>
    let (reply, after) := alteredWrite fields now s q
    (alteredReply fields q reply, after)

/-- A store with plans for its faults. -/
structure FaultyStore where
  store : Store := Store.empty
  plans : Table Store.Method (Plan Fault) := []

/-- Answers one request, with the fault that is planned for it. -/
def FaultyStore.answer (now : String) (s : FaultyStore) (q : Store.Request) :
    q.Reply × FaultyStore :=
  let (fault, plans) := takeFault s.plans q.method
  let (reply, store) := answerWith now s.store fault q
  (reply, ⟨store, plans⟩)

end Brokerage.Rehearsal
