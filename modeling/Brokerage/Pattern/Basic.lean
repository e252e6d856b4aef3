import Brokerage.Unicode.Lookup

/-!
Patterns. A pattern matches from a position in a text to some later positions, which it tries in an
order of its own; groups keep the text they matched, so that it can be asked for again. Looking
ahead and behind moves nothing.
-/

set_option autoImplicit false

namespace Brokerage

/-- Places in a text that are told by the characters around them. The outset is where a search
begins; anywhere is every place. -/
inductive Edge where
  | start
  | finish
  | lineStart
  | lineFinish
  | lastLine
  | word
  | noWord
  | wordStart
  | wordFinish
  | beforeWord
  | afterWord
  | outset
  | anywhere
  deriving DecidableEq

/-- Patterns. A group without an index only holds its parts together. -/
inductive Pattern where
  | nothing
  | one (set : Unicode.Ranges)
  | edge (edge : Edge)
  | both (first second : Pattern)
  | either (first second : Pattern)
  | repeated (body : Pattern) (least : Nat) (most : Option Nat) (eager : Bool)
  | group (index : Option Nat) (body : Pattern)
  | again (index : Nat) (blind : Bool)
  | ahead (expected : Bool) (body : Pattern)
  | behind (expected : Bool) (body : Pattern)
  | whole (body : Pattern)
  | heard (index : Nat)
  | choice (test first second : Pattern)

namespace Pattern

/-- A pattern without the groups around it that have no index. -/
def bare : Pattern → Pattern
  | .group none body => body.bare
  | other => other

/-- Whether a repetition may follow: there is nothing to repeat in no pattern at all, nor in what
looks around. -/
def isRepeatable (p : Pattern) : Bool :=
  match p.bare with
  | .nothing | .ahead _ _ | .behind _ _ => false
  | _ => true

/-! ### Length -/

/-- The least number of characters that a pattern matches, as far as can be told without knowing
what groups match. -/
def least : Pattern → Nat
  | .one _ => 1
  | .both first second => first.least + second.least
  | .either first second => min first.least second.least
  | .repeated body least _ _ => body.least * least
  | .group _ body | .whole body => body.least
  | .choice test first second => test.least + min first.least second.least
  | .nothing | .edge _ | .again _ _ | .ahead _ _ | .behind _ _ | .heard _ => 0

/-- Whether a pattern is sure to match its least number of characters and no more. -/
def isFixed : Pattern → Bool
  | .both first second => first.isFixed && second.isFixed
  | .either first second => first.isFixed && second.isFixed && first.least == second.least
  | .repeated body least most _ => body.isFixed && most == some least
  | .group _ body | .whole body => body.isFixed
  | .again _ _ => false
  | .choice test first second =>
    test.isFixed && first.isFixed && second.isFixed && test.least + first.least == second.least
  | .nothing | .one _ | .edge _ | .ahead _ _ | .behind _ _ | .heard _ => true

/-! ### Size -/

/-- An estimate of the bytes that a set takes when it is laid out as a table of transitions: one
step for a range of ASCII, and a few for every range beyond. -/
def setSize (set : Unicode.Ranges) : Nat :=
  if set.all fun range ↦ range.2 < 0x80 then
    if set.length ≤ 1 then 32 else 32 + 8 * set.length
  else 400 + 24 * set.length

/-- An estimate of the bytes that a pattern takes with its repetitions written out. -/
def size : Pattern → Nat
  | .nothing | .edge _ | .again _ _ | .heard _ => 32
  | .one set => setSize set
  | .both first second => first.size + second.size
  | .either first second => first.size + second.size + 40
  | .repeated body least most _ =>
    match most with
    | none => max least 1 * body.size + 40
    | some most => least * body.size + (most - least) * (body.size + 40)
  | .group index body => if index.isSome then body.size + 64 else body.size
  | .ahead _ body | .behind _ body | .whole body => body.size
  | .choice test first second => test.size + first.size + second.size

/-- The size beyond which a pattern is refused. -/
def sizeLimit : Nat := 10485760

end Pattern

end Brokerage
