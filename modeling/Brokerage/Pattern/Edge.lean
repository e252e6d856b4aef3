import Brokerage.Pattern.Basic

/-!
Edges in a text. A text is an array of characters, and a place in it is the number of characters
before the place.
-/

set_option autoImplicit false

namespace Brokerage

def isWordPart (c : Char) : Bool :=
  Unicode.wordParts.has c.toNat

namespace Edge

/-- Whether an edge can be told without looking for words, for the last line or for the outset of
a search. -/
def isPlain : Edge → Bool
  | .start | .finish | .lineStart | .lineFinish => true
  | _ => false

/-- The character before a place. -/
def before? (text : Array Char) (place : Nat) : Option Char :=
  if place = 0 then none else text[place - 1]?

/-- Whether a place in a text is at an edge. A search begins at the beginning of its text. -/
def isAt (text : Array Char) (place : Nat) (edge : Edge) : Bool :=
  let isBehindWord : Bool := (before? text place).any isWordPart
  let isBeforeWord : Bool := text[place]?.any isWordPart
  match edge with
  | .start | .outset => place = 0
  | .finish => text.size ≤ place
  | .lineStart => (before? text place).all (· == '\n')
  | .lineFinish => text[place]?.all (· == '\n')
  | .lastLine => (text.extract place text.size).all (· == '\n')
  | .word => isBehindWord != isBeforeWord
  | .noWord => isBehindWord == isBeforeWord
  | .wordStart => !isBehindWord && isBeforeWord
  | .wordFinish => isBehindWord && !isBeforeWord
  | .beforeWord => !isBehindWord
  | .afterWord => !isBeforeWord
  | .anywhere => true

end Edge

end Brokerage
