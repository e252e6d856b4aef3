import Brokerage.Json.Parser

/-!
Passing over a JSON text without building its value. Nesting has no limit here, numbers need not
fit, and surrogate escapes need not be paired; what is left is the grammar alone.
-/

set_option autoImplicit false

namespace Brokerage.Json

open Text (Located Reading stopAt stopBefore)

/-- What follows the sign of an exponent, which may be left out. -/
def behindSign (s : List Char) : List Char :=
  match s with
  | '+' :: rest => rest
  | '-' :: rest => rest
  | _ => s

def skipExponent (s : List Char) : Reading Malformation Unit :=
  match behindSign s with
  | [] => stopAt .badNumber []
  | c :: rest =>
    if c.isDigit then .ok ((), (c :: rest).dropWhile Char.isDigit)
    else stopAt .badNumber (c :: rest)

/-- The exponent that may end a number. -/
def skipAfterDigits (s : List Char) : Reading Malformation Unit :=
  match s with
  | [] => .ok ((), [])
  | c :: rest => if isExponentLetter c then skipExponent rest else .ok ((), s)

def skipFraction (s : List Char) : Reading Malformation Unit :=
  match s with
  | [] => stopAt .badNumber []
  | c :: _ =>
    if c.isDigit then skipAfterDigits (s.dropWhile Char.isDigit) else stopAt .badNumber s

def skipAfterInteger (s : List Char) : Reading Malformation Unit :=
  match s with
  | [] => .ok ((), [])
  | c :: rest => if c = '.' then skipFraction rest else skipAfterDigits s

/-- A number literal, after its sign. -/
def skipNumeral (s : List Char) : Reading Malformation Unit :=
  match s with
  | [] => stopAt .badNumber []
  | c :: rest =>
    if c = '0' then
      match rest with
      | [] => .ok ((), [])
      | d :: _ => if d.isDigit then stopAt .badNumber rest else skipAfterInteger rest
    else if c.isDigit then skipAfterInteger (s.dropWhile Char.isDigit)
    else stopAt .badNumber s

/-- An escape, after its backslash. -/
def skipEscape (s : List Char) : Reading Malformation Unit :=
  match s with
  | [] => stopBefore .unfinishedString []
  | c :: rest =>
    if c = 'u' then
      match readHexUnit rest with
      | .error fault => .error fault
      | .ok (_, after) => .ok ((), after)
    else if (namedEscape? c).isSome then .ok ((), rest)
    else stopAt .badEscape s

def skipQuotation : (steps : Nat) → List Char → Reading Malformation Unit
  | 0, s => stopBefore .outOfSteps s
  | _ + 1, [] => stopBefore .unfinishedString []
  | steps + 1, c :: rest =>
    if c = '"' then .ok ((), rest)
    else if c = '\\' then
      match skipEscape rest with
      | .error fault => .error fault
      | .ok (_, after) => skipQuotation steps after
    else if c.toNat < 0x20 then stopBefore .controlCharacter (c :: rest)
    else skipQuotation steps rest

/-- A key, from its opening quote. -/
def skipKey (steps : Nat) (s : List Char) : Reading Malformation Unit :=
  match skipSpaces s with
  | [] => stopBefore .unfinishedObject []
  | c :: rest => if c = '"' then skipQuotation steps rest else stopAt .keyExpected (c :: rest)

mutual

def skipValue : (steps : Nat) → List Char → Reading Malformation Unit
  | 0, s => stopBefore .outOfSteps s
  | steps + 1, s =>
    match skipSpaces s with
    | [] => stopBefore .unfinishedValue []
    | c :: rest =>
      if c = 'n' then readWord ['u', 'l', 'l'] rest
      else if c = 't' then readWord ['r', 'u', 'e'] rest
      else if c = 'f' then readWord ['a', 'l', 's', 'e'] rest
      else if c = '-' then skipNumeral rest
      else if c.isDigit then skipNumeral (c :: rest)
      else if c = '"' then skipQuotation steps rest
      else if c = '[' then skipItems steps true rest
      else if c = '{' then skipMembers steps true rest
      else stopAt .valueExpected (c :: rest)

/-- The items of an array up to its end; `first` as long as none has been passed. -/
def skipItems : (steps : Nat) → (first : Bool) → List Char → Reading Malformation Unit
  | 0, _, s => stopBefore .outOfSteps s
  | steps + 1, first, s =>
    match skipSpaces s with
    | [] => stopBefore .unfinishedList []
    | c :: rest =>
      if c = ']' then .ok ((), rest)
      else if !first && c != ',' then stopAt .commaOrBracketExpected (c :: rest)
      else
        match skipValue steps (if first then c :: rest else rest) with
        | .error fault => .error fault
        | .ok (_, after) => skipItems steps false after

def skipMembers : (steps : Nat) → (first : Bool) → List Char → Reading Malformation Unit
  | 0, _, s => stopBefore .outOfSteps s
  | steps + 1, first, s =>
    match skipSpaces s with
    | [] => stopBefore .unfinishedObject []
    | c :: rest =>
      if c = '}' then .ok ((), rest)
      else if !first && c != ',' then stopAt .commaOrBraceExpected (c :: rest)
      else
        match skipKey steps (if first then c :: rest else rest) with
        | .error fault => .error fault
        | .ok (_, behindKey) =>
          match readColon behindKey with
          | .error fault => .error fault
          | .ok (_, behindColon) =>
            match skipValue steps behindColon with
            | .error fault => .error fault
            | .ok (_, after) => skipMembers steps false after

end

/-- Whether a text is JSON by the grammar alone, and if not, why. -/
def check (text : String) : Except (Located Malformation) Unit :=
  readAll (fun s ↦ skipValue (stepsFor s) s) .trailingCharacters text

end Brokerage.Json
