import Brokerage.Unicode.CaseOrbit

/-!
Texts that come again. What a group has matched is looked for again by its length in bytes, so that
where case does not count a character may only stand for another of the same length.
-/

set_option autoImplicit false

namespace Brokerage.Pattern

/-- The end of the stretch of so many bytes that begins at a place, if characters end there. -/
def stretch? (text : Array Char) : (bytes : Nat) → (place : Nat) → Option Nat
  | 0, place => some place
  | bytes + 1, place =>
    match text[place]? with
    | none => none
    | some c =>
      if c.utf8Size ≤ bytes + 1 then stretch? text (bytes + 1 - c.utf8Size) (place + 1) else none
termination_by bytes => bytes
decreasing_by
  have := c.utf8Size_pos
  omega

def byteLength (s : Array Char) : Nat :=
  s.foldl (fun length c ↦ length + c.utf8Size) 0

/-- Whether two characters differ by case at most. -/
def alike (a b : Char) : Bool :=
  a == b || Unicode.caseOrbits.any fun orbit ↦ orbit.contains a.toNat && orbit.contains b.toNat

/-- Whether a text begins with another up to case. -/
def beginsWith : (s wanted : List Char) → Bool
  | _, [] => true
  | [], _ :: _ => false
  | c :: s, d :: wanted => alike c d && beginsWith s wanted

/-- Whether a text holds another up to case. -/
def holds (wanted : List Char) : (s : List Char) → Bool
  | [] => wanted.isEmpty
  | c :: s => beginsWith (c :: s) wanted || holds wanted s

/-- Whether a stretch of a text passes for another of the same length where case does not count:
in ASCII their letters may differ by case, and beyond it is enough that the one holds the other. -/
def passesFor (found wanted : Array Char) : Bool :=
  if found.all fun c ↦ c.toNat < 0x80 then found.map Char.toLower == wanted.map Char.toLower
  else holds wanted.toList found.toList

/-- The end of what passes for the given text and begins at a place. -/
def endOfRepeat? (text : Array Char) (place : Nat) (wanted : Array Char) (blind : Bool) :
    Option Nat :=
  (stretch? text (byteLength wanted) place).bind fun finish ↦
    let found := text.extract place finish
    if found == wanted || (blind && passesFor found wanted) then some finish else none

end Brokerage.Pattern
