import Brokerage.Pattern.Edge
import Std.Data.HashSet

/-!
Patterns that need no memory: characters, plain edges, sequences, alternatives and repetitions. Such
a pattern is written out as steps, and a search never comes twice to one step at one place, so
that it takes no more turns than there are steps times places. Of all ends that a pattern can come
to, the search finds the one that it prefers.
-/

set_option autoImplicit false

namespace Brokerage

namespace Pattern.Linear

/-- A step of a search: over a character, past an edge, to one of two steps or to another step, or
to the end of the pattern. -/
inductive Step where
  | take (set : Unicode.Ranges)
  | edge (edge : Edge)
  | fork (preferred other : Nat)
  | jump (target : Nat)
  | finish

/-- Steps by the number of the first of them. -/
abbrev Code := (start : Nat) → List Step

/-! ### Writing out -/

def sequence (first second : Code) : Code := fun start ↦
  let steps := first start
  steps ++ second (start + steps.length)

def alternatives (first second : Code) : Code := fun start ↦
  let one := first (start + 1)
  let behind := start + 2 + one.length
  let other := second behind
  .fork (start + 1) behind :: one ++ .jump (behind + other.length) :: other

/-- A fork between going on and leaving. -/
def forkTo (eager : Bool) (further beyond : Nat) : Step :=
  if eager then .fork further beyond else .fork beyond further

/-- A body so many times. -/
def copies (count : Nat) (body : Code) : Code := fun start ↦
  let length := (body start).length
  (List.range count).flatMap fun n ↦ body (start + n * length)

/-- A body up to so many times. -/
def upTo (count : Nat) (eager : Bool) (body : Code) : Code := fun start ↦
  let length := (body start).length + 1
  (List.range count).flatMap fun n ↦
    let own := start + n * length
    forkTo eager (own + 1) (start + count * length) :: body (own + 1)

/-- A body at least once. -/
def onceOrMore (eager : Bool) (body : Code) : Code := fun start ↦
  let steps := body start
  steps ++ [forkTo eager start (start + steps.length + 1)]

/-- A body any number of times. One that may match no text is entered once at most before it is
left or gone through again. -/
def anyNumber (eager mayBeEmpty : Bool) (body : Code) : Code :=
  if mayBeEmpty then upTo 1 eager (onceOrMore eager body)
  else fun start ↦
    let steps := body (start + 1)
    forkTo eager (start + 1) (start + steps.length + 2) :: steps ++ [.jump start]

/-- The steps of a pattern; there is no way through what needs memory. -/
def code : Pattern → Code
  | .nothing => fun _ ↦ []
  | .one set => fun _ ↦ [.take set]
  | .edge e => fun _ ↦ [.edge e]
  | .both first second => sequence (code first) (code second)
  | .either first second => alternatives (code first) (code second)
  | .repeated body least most eager =>
    match most with
    | some most => sequence (copies least (code body)) (upTo (most - least) eager (code body))
    | none =>
      if least = 0 then anyNumber eager (body.least == 0) (code body)
      else sequence (copies (least - 1) (code body)) (onceOrMore eager (code body))
  | .group _ body => code body
  | _ => fun _ ↦ [.take []]

/-- A pattern from the beginning of a search. -/
def anchored (p : Pattern) : Array Step :=
  (code p 0).toArray.push .finish

/-- A pattern from anywhere behind the beginning of a search, the nearer the better. -/
def floating (p : Pattern) : Array Step :=
  (.fork 3 1 :: .take Unicode.Ranges.full :: .jump 0 :: code p 3).toArray.push .finish

/-! ### Searching -/

/-- Where a search stands: the number of the next step, and the place in the text. -/
structure Spot where
  step : Nat
  place : Nat

/-- Where a search may go on from a spot, the preferred spot first; nowhere to go is also what is
left at the end of the pattern. -/
def next (steps : Array Step) (text : Array Char) (spot : Spot) : List Spot :=
  match steps[spot.step]? with
  | some (.jump target) => [⟨target, spot.place⟩]
  | some (.fork preferred other) => [⟨preferred, spot.place⟩, ⟨other, spot.place⟩]
  | some (.edge e) => if e.isAt text spot.place then [⟨spot.step + 1, spot.place⟩] else []
  | some (.take set) =>
    if text[spot.place]?.any fun c ↦ set.has c.toNat then [⟨spot.step + 1, spot.place + 1⟩]
    else []
  | some .finish | none => []

def isEnd (steps : Array Step) (spot : Spot) : Bool :=
  match steps[spot.step]? with
  | some .finish => true
  | _ => false

/-- Searches from spots, the first of them first, for a place where the pattern ends and that will
do. Spots that have been seen lead nowhere. -/
def search (steps : Array Step) (text : Array Char) (willDo : Nat → Bool) :
    (turns : Nat) → (seen : Std.HashSet Nat) → List Spot → Option Nat
  | 0, _, _ => none
  | _, _, [] => none
  | turns + 1, seen, spot :: others =>
    let mark := spot.step * (text.size + 1) + spot.place
    if seen.contains mark then search steps text willDo turns seen others
    else if isEnd steps spot && willDo spot.place then some spot.place
    else search steps text willDo turns (seen.insert mark) (next steps text spot ++ others)

/-- The preferred end of a pattern that will do, from a place on. -/
def endFrom? (steps : Array Step) (text : Array Char) (place : Nat) (willDo : Nat → Bool) :
    Option Nat :=
  search steps text willDo (2 * steps.size * (text.size + 1) + 2) {} [⟨0, place⟩]

end Pattern.Linear

end Brokerage
