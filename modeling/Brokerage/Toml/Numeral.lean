import Brokerage.Json.Basic
import Brokerage.Text.Digit
import Brokerage.Toml.Basic

/-!
Numbers. An integer is decimal, or has a base that its second character names; it must fit 64 bits
with its sign. Anything with a fraction or an exponent is a real number, and so are the two
infinities and the value that is no number. A single underscore may part two digits.
-/

set_option autoImplicit false

namespace Brokerage.Toml

open Text (Reading stopBefore)

/-- The digits that follow at least one, which stand in `before` in reverse. -/
def readMoreDigits (isDigit : Char → Bool) (before : List Char) :
    List Char → Reading Malformation (List Char)
  | [] => .ok (before.reverse, [])
  | c :: rest =>
    if isDigit c then readMoreDigits isDigit (c :: before) rest
    else if c = '_' then
      match rest with
      | [] => stopBefore .badNumber []
      | d :: after =>
        if isDigit d then readMoreDigits isDigit (d :: before) after
        else stopBefore .badNumber (d :: after)
    else .ok (before.reverse, c :: rest)

/-- Digits without the underscores between them. -/
def readDigits (isDigit : Char → Bool) (s : List Char) : Reading Malformation (List Char) :=
  match s with
  | [] => stopBefore .badNumber []
  | c :: rest =>
    if isDigit c then readMoreDigits isDigit [c] rest else stopBefore .badNumber (c :: rest)

/-- The digits of a decimal integer. A leading zero stands alone. -/
def readInteger (s : List Char) : Reading Malformation (List Char) :=
  match s with
  | [] => stopBefore .badNumber []
  | c :: rest => if c = '0' then .ok ([c], rest) else readDigits Char.isDigit (c :: rest)

/-- The least magnitude that does not fit 64 bits with a sign, unless it is negative. -/
def integerLimit : Nat := Nat.pow 2 63

/-- An integer that fits 64 bits with its sign. -/
def integerOf (negative : Bool) (magnitude : Nat) (rest : List Char) : Reading Malformation Json :=
  if negative then
    if magnitude ≤ integerLimit then .ok (.integer (-magnitude), rest)
    else stopBefore .numberTooLarge rest
  else if magnitude < integerLimit then .ok (.integer magnitude, rest)
  else stopBefore .numberTooLarge rest

/-- The real number of a sign, digits on both sides of the point, and an exponent. A negative number
may be as large as it likes, and is infinite then. -/
def realOf (negative : Bool) (whole fraction : List Char) (exponent : Int) (rest : List Char) :
    Reading Malformation Json :=
  let x := Double.nearest negative (Text.natural (whole ++ fraction)) (exponent - fraction.length)
  if negative || x.isFinite then .ok (.real x, rest) else stopBefore .numberTooLarge rest

/-- An exponent, after its letter. -/
def readExponent (s : List Char) : Reading Malformation Int :=
  let (down, digits) := match s with
    | '+' :: rest => (false, rest)
    | '-' :: rest => (true, rest)
    | _ => (false, s)
  match readDigits Char.isDigit digits with
  | .error fault => .error fault
  | .ok (read, rest) =>
    let magnitude : Int := Text.natural read
    .ok (if down then -magnitude else magnitude, rest)

def isExponentLetter (c : Char) : Bool :=
  c = 'e' || c = 'E'

/-- What follows the fraction of a real number. -/
def readAfterFraction (negative : Bool) (whole fraction : List Char) (s : List Char) :
    Reading Malformation Json :=
  match s with
  | [] => realOf negative whole fraction 0 []
  | c :: rest =>
    if isExponentLetter c then
      match readExponent rest with
      | .error fault => .error fault
      | .ok (exponent, after) => realOf negative whole fraction exponent after
    else realOf negative whole fraction 0 (c :: rest)

/-- A decimal number, after its sign. -/
def readDecimal (negative : Bool) (s : List Char) : Reading Malformation Json :=
  match readInteger s with
  | .error fault => .error fault
  | .ok (whole, left) =>
    match left with
    | [] => integerOf negative (Text.natural whole) []
    | c :: rest =>
      if c = '.' then
        match readDigits Char.isDigit rest with
        | .error fault => .error fault
        | .ok (fraction, after) => readAfterFraction negative whole fraction after
      else if isExponentLetter c then readAfterFraction negative whole [] (c :: rest)
      else integerOf negative (Text.natural whole) (c :: rest)

/-- The base that a letter names, and its digits. -/
def baseOf? (letter : Char) : Option (Nat × (Char → Bool)) :=
  if letter = 'x' then some (16, Text.isHexDigit)
  else if letter = 'o' then some (8, fun c ↦ '0' ≤ c && c ≤ '7')
  else if letter = 'b' then some (2, fun c ↦ c = '0' || c = '1')
  else none

/-- A number without a sign. -/
def readUnsigned (s : List Char) : Reading Malformation Json :=
  match s with
  | '0' :: letter :: rest =>
    match baseOf? letter with
    | none => readDecimal false s
    | some (base, isDigit) =>
      match readDigits isDigit rest with
      | .error fault => .error fault
      | .ok (digits, after) => integerOf false (Text.naturalIn base digits) after
  | _ => readDecimal false s

/-- The real number that a word names. -/
def namedReal? (negative : Bool) (word : List Char) : Option Double :=
  if word = ['i', 'n', 'f'] then some (Double.infinity negative)
  else if word = ['n', 'a', 'n'] then some Double.notANumber
  else none

/-- A number after its sign, which may be named. -/
def readSigned (negative : Bool) (s : List Char) : Reading Malformation Json :=
  match namedReal? negative (s.take 3) with
  | some x => .ok (.real x, s.drop 3)
  | none => readDecimal negative s

def readNumber (s : List Char) : Reading Malformation Json :=
  match s with
  | '+' :: rest => readSigned false rest
  | '-' :: rest => readSigned true rest
  | _ =>
    match namedReal? false (s.take 3) with
    | some x => .ok (.real x, s.drop 3)
    | none => readUnsigned s

end Brokerage.Toml
