import Brokerage.Conformance.Trial

/-!
What a store has to do with creates that race. The creates of all contenders take effect in some
order, and their outcomes are collected in some order; the trials have to come out the same for
all of them.
-/

set_option autoImplicit false

namespace Brokerage.Conformance.Races

open Program Trial

def contenders : Nat := 10

/-- The orders in which the creates take effect and in which their outcomes are collected, as
permutations of the contenders. -/
structure Schedule where
  effects : List Nat
  outcomes : List Nat

/-- One contender after another. -/
def Schedule.inOrder : Schedule :=
  ⟨List.range contenders, List.range contenders⟩

abbrev Outcome := Nat × Except Store.Error Unit

/-- The outcome of every contender, in the order in which they take effect. -/
def effects (attempt : Nat → Trial (Except Store.Error Unit)) : List Nat → Trial (List Outcome)
  | [] => return []
  | contender :: rest => do
    let reply ← attempt contender
    return (contender, reply) :: (← effects attempt rest)

/-- The outcomes of a race, in the order in which they are collected. -/
def race (schedule : Schedule) (attempt : Nat → Trial (Except Store.Error Unit)) :
    Trial (List Outcome) := do
  let all ← effects attempt schedule.effects
  return schedule.outcomes.filterMap fun contender ↦
    all.find? fun outcome ↦ outcome.1 == contender

/-- The contenders that won; an error other than the expected conflict ends the race. -/
def tally (isConflict : Store.Error → Bool) : List Outcome → Except String (List Nat)
  | [] => .ok []
  | (contender, .ok _) :: rest =>
    match tally isConflict rest with
    | .ok winners => .ok (contender :: winners)
    | .error reason => .error reason
  | (contender, .error e) :: rest =>
    if isConflict e then tally isConflict rest
    else .error s!"contender {contender} hit an unexpected error: {e.message}"

def instanceTaken : Store.Error → Bool
  | .instanceAlreadyExists _ => true
  | _ => false

def bindingTaken : Store.Error → Bool
  | .bindingAlreadyExists _ _ => true
  | _ => false

/-- The stored record has to be the one that the winner wrote. -/
def racingInstanceCreatesAdmitOne (schedule : Schedule) : Trial Unit := do
  let outcomes ← race schedule fun contender ↦
    Trial.request
      (.createInstance { sampleInstance "i-contended" with planId := s!"plan-{contender}" })
  let winners ← ofExcept (tally instanceTaken outcomes)
  match winners with
  | [winner] =>
    let stored ← needFor "reading back the winner" (.getInstance "i-contended")
    failIf (stored.planId != s!"plan-{winner}")
      s!"contender {winner} won but the stored plan is {stored.planId}"
  | _ => fail s!"{winners.length} creates succeeded, wanted exactly one"

def racingBindingCreatesAdmitOne (schedule : Schedule) : Trial Unit := do
  needFor "seeding instance" (.createInstance (sampleInstance "i-1"))
  let outcomes ← race schedule fun _ ↦
    Trial.request (.createBinding (sampleBinding "i-1" "b-contended"))
  let winners ← ofExcept (tally bindingTaken outcomes)
  failIf (winners.length != 1)
    s!"{winners.length} binding creates succeeded, wanted exactly one"

/-- The first of the given contenders whose instance is not there. -/
def needAll : List Nat → Trial Unit
  | [] => return ()
  | contender :: rest => do
    let id := s!"i-{contender}"
    failIf (!(← needFor s!"checking {id}" (.instanceExists id)))
      s!"{id} is missing after its create succeeded"
    needAll rest

/-- Writes to different keys never conflict. -/
def disjointInstanceCreatesAllLand (schedule : Schedule) : Trial Unit := do
  let outcomes ← race schedule fun contender ↦
    Trial.request (.createInstance (sampleInstance s!"i-{contender}"))
  let winners ← ofExcept (tally (fun _ ↦ false) outcomes)
  failIf (winners.length != contenders)
    s!"only {winners.length} of {contenders} disjoint creates succeeded"
  needAll (List.range contenders)

def checks (schedule : Schedule) : List Check :=
  [⟨"concurrent", "racing_instance_creates_admit_one", racingInstanceCreatesAdmitOne schedule⟩,
   ⟨"concurrent", "racing_binding_creates_admit_one", racingBindingCreatesAdmitOne schedule⟩,
   ⟨"concurrent", "disjoint_instance_creates_all_land",
     disjointInstanceCreatesAllLand schedule⟩]

end Brokerage.Conformance.Races
