import Brokerage.Pattern.Program
import Brokerage.Pattern.Repeated

/-!
Matching. A program is followed from the beginning of a text; where it forks, the other way is left
waiting, and it is taken up again when the first one fails. The ways that wait and those taken up
again are counted, and a search that has too many of either is given up.
-/

set_option autoImplicit false

namespace Brokerage.Pattern

/-- How a search ends: whether the text is accepted, or why the search was given up. -/
inductive Verdict where
  | accepted
  | rejected
  | tooManyWaiting
  | tooManyFailures
  deriving DecidableEq

/-- A way through a text: the number of the next instruction, the place in the text, the slots, and
the numbers of ways that waited when each part not to be tried again was entered. -/
structure Way where
  instruction : Nat
  place : Nat
  slots : Array (Option Nat)
  entered : List Nat := []

namespace Way

/-- On to the next instruction. -/
def on (way : Way) : Way :=
  { way with instruction := way.instruction + 1 }

def movedTo (way : Way) (instruction : Nat) : Way :=
  { way with instruction }

def placed (way : Way) (place : Nat) : Way :=
  { way with place }

def slot? (way : Way) (slot : Nat) : Option Nat :=
  (way.slots[slot]?).join

def keeping (way : Way) (slot : Nat) (value : Nat) : Way :=
  { way with slots := way.slots.setIfInBounds slot (some value) }

/-- The text of a group. One that was entered again and not left is the text up to where it was
entered last, which is empty. -/
def caught? (way : Way) (text : Array Char) (index : Nat) : Option (Array Char) := do
  return text.extract (← way.slot? (2 * index)) (← way.slot? (2 * index + 1))

end Way

/-- What an instruction makes of a way. -/
inductive Turn where
  | found
  | failed
  | on (way : Way)
  | fork (way other : Way)
  | cut (way : Way) (waiting : Nat)
  | failedBeyond (instruction : Nat)

/-- Goes on if there is a place to go on at. -/
def goOn (way : Way) (place? : Option Nat) : Turn :=
  match place? with
  | some place => .on (way.on.placed place)
  | none => .failed

/-- Another round of a loop, or what is beyond it; while rounds are missing there is no choice. -/
def round (way : Way) (eager isFree : Bool) (beyond : Nat) : Turn :=
  if !isFree then .on way.on
  else if eager then .fork way.on (way.movedTo beyond)
  else .fork (way.movedTo beyond) way.on

/-- One instruction, where so many ways are waiting. -/
def turn (text : Array Char) (waiting : Nat) (way : Way) : Instruction → Turn
  | .take set =>
    if text[way.place]?.any fun c ↦ set.has c.toNat then .on (way.on.placed (way.place + 1))
    else .failed
  | .edge e => if e.isAt text way.place then .on way.on else .failed
  | .fork preferred other => .fork (way.movedTo preferred) (way.movedTo other)
  | .jump target => .on (way.movedTo target)
  | .mark slot => .on (way.on.keeping slot way.place)
  | .reset slot => .on (way.on.keeping slot 0)
  | .resume slot => goOn way (way.slot? slot)
  | .back count => if count ≤ way.place then .on (way.on.placed (way.place - count)) else .failed
  | .count least most eager beyond counter =>
    let rounds := (way.slot? counter).getD 0
    if most == some rounds then .on (way.movedTo beyond)
    else round (way.keeping counter (rounds + 1)) eager (least ≤ rounds) beyond
  | .progress least eager beyond counter last =>
    let rounds := (way.slot? counter).getD 0
    if 0 < rounds && way.slot? last == some way.place then .on (way.movedTo beyond)
    else
      let next := way.keeping counter (rounds + 1)
      if least ≤ rounds then round (next.keeping last way.place) eager true beyond
      else .on next.on
  | .again index blind =>
    goOn way ((way.caught? text index).bind fun wanted ↦ endOfRepeat? text way.place wanted blind)
  | .heard index => if (way.slot? (2 * index)).isSome then .on way.on else .failed
  | .linear steps => goOn way (Linear.endFrom? steps text way.place fun _ ↦ true)
  | .linearBehind steps =>
    goOn way (Linear.endFrom? steps text 0 fun place ↦ place == way.place)
  | .enter => .on { way.on with entered := waiting :: way.entered }
  | .leave =>
    match way.entered with
    | before :: entered => .cut { way.on with entered } before
    | [] => .on way.on
  | .refuse => .failedBeyond (way.instruction + 1)
  | .finish => .found

/-- The most ways that may wait at once. -/
def waitingLimit : Nat := 1000000

/-- The most failures before a search is given up. -/
def failureLimit : Nat := 1000000

/-- A search: the ways that wait, the latest first, their number, and the failures so far. -/
structure Search where
  waiting : List Way
  count : Nat
  failures : Nat

/-- Takes up the latest of the ways that wait. -/
def Search.retry (search : Search) : Except Verdict (Search × Way) :=
  match search.waiting with
  | [] => .error .rejected
  | way :: others =>
    if failureLimit ≤ search.failures then .error .tooManyFailures
    else .ok (⟨others, search.count - 1, search.failures + 1⟩, way)

/-- A search with another way that waits. -/
def Search.leaving (search : Search) (way : Way) : Except Verdict Search :=
  if waitingLimit ≤ search.count then .error .tooManyWaiting
  else .ok ⟨way :: search.waiting, search.count + 1, search.failures⟩

/-- The ways that waited before one that waits at an instruction, and their number. -/
def waitedBefore (instruction : Nat) : List Way → (count : Nat) → List Way × Nat
  | [], _ => ([], 0)
  | way :: others, count =>
    if way.instruction = instruction then (others, count - 1)
    else waitedBefore instruction others (count - 1)

/-- A search after one more instruction, or how it ends. -/
def Search.advance (instructions : Array Instruction) (text : Array Char) (search : Search)
    (way : Way) : Except Verdict (Search × Way) :=
  match instructions[way.instruction]?.map (turn text search.count way) with
  | none | some .failed => search.retry
  | some .found => .error .accepted
  | some (.on way) => .ok (search, way)
  | some (.fork way other) => (search.leaving other).map fun search ↦ (search, way)
  | some (.cut way before) =>
    .ok (⟨search.waiting.drop (search.count - before), before, search.failures⟩, way)
  | some (.failedBeyond instruction) =>
    let (waiting, count) := waitedBefore instruction search.waiting search.count
    Search.retry ⟨waiting, count, search.failures⟩

/-- Follows a way, and then those that wait. -/
def follow (instructions : Array Instruction) (text : Array Char) :
    (turns : Nat) → Search → Way → Verdict
  | 0, _, _ => .tooManyFailures
  | turns + 1, search, way =>
    match search.advance instructions text way with
    | .error verdict => verdict
    | .ok (search, way) => follow instructions text turns search way

namespace Program

/-- More turns than a search can take before it is given up. -/
def turns (instructions : Array Instruction) : Nat :=
  let rounds : Nat := instructions.foldl (fun most instruction ↦
    match instruction with
    | .count least _ _ _ _ | .progress least _ _ _ _ => max most least
    | _ => most) 1
  (instructions.size + 1) * (rounds + 1) * (waitingLimit + failureLimit + 2)

/-- How a search for a program in a text ends. -/
def verdict (program : Program) (s : String) : Verdict :=
  let text := s.toList.toArray
  match program with
  | .linear steps =>
    if (Linear.endFrom? steps text 0 fun _ ↦ true).isSome then .accepted else .rejected
  | .branching instructions slots =>
    follow instructions text (turns instructions) ⟨[], 0, 0⟩
      { instruction := 0, place := 0, slots := Array.replicate slots none }

end Program

end Brokerage.Pattern
