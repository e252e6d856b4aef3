import Brokerage.Pattern.Grammar

/-!
The spelling of patterns. Patterns are written in one dialect and matched in another, in which the
letters for digits, word characters and blanks mean more; a pattern of the plain grammar is
respelled so that they mean the ASCII digits and word characters and a fixed set of blanks. A
control letter becomes the control character itself. A pattern that goes beyond the plain grammar
is left as it is.
-/

set_option autoImplicit false

namespace Brokerage.Pattern

/-- The blanks of patterns. -/
def blanks : List Char :=
  [' ', '\t', '\n', '\r', '\x0b', '\x0c', '\u00a0', '\ufeff', '\u2003', '\u2029']

/-- The set that a letter behind a backslash is respelled as. -/
def respelled? (letter : Char) : Option (List Char) :=
  let bracketed (body : List Char) : List Char := '[' :: body ++ [']']
  if letter = 'd' then some (bracketed "0-9".toList)
  else if letter = 'D' then some (bracketed "^0-9".toList)
  else if letter = 'w' then some (bracketed "A-Za-z0-9_".toList)
  else if letter = 'W' then some (bracketed "^A-Za-z0-9_".toList)
  else if letter = 's' then some (bracketed blanks)
  else if letter = 'S' then some (bracketed ('^' :: blanks))
  else none

/-- A pattern with the letters for sets respelled, each told by the number of characters behind
it; what looks like one in a comment is left alone. -/
def respell (letters : List Nat) : List Char → List Char
  | [] => []
  | '\\' :: c :: rest =>
    let own := ['\\', c]
    (if letters.contains rest.length then (respelled? c).getD own else own) ++ respell letters rest
  | c :: rest => c :: respell letters rest

/-- A pattern with its first control letter, where `rest` begins, replaced by the character. -/
def withControl? (s rest : List Char) : Option (List Char) :=
  match rest with
  | '\\' :: 'c' :: letter :: after =>
    if letter.isAlpha then
      some (s.take (s.length - rest.length) ++ Char.ofNat (letter.toNat % 32) :: after)
    else none
  | _ => none

/-- The spelling of a pattern that is matched; a bell, an escape that means nothing and what is no
pattern have none. -/
def spellTo : (steps : Nat) → List Char → Option (List Char)
  | 0, _ => none
  | steps + 1, s =>
    match survey s with
    | .ok met => if met.bell then none else some (respell met.letters s)
    | .error .beyond => some s
    | .error .malformed => none
    | .error (.unknownEscape rest) =>
      match withControl? s rest with
      | some replaced => spellTo steps replaced
      | none => none

def spelling? (text : String) : Option String :=
  (spellTo (text.length + 1) text.toList).map String.ofList

end Brokerage.Pattern
