import Brokerage.Json.Reader
import Brokerage.Text.Digit

/-!
Number literals. A literal without fraction and exponent is an integer if it fits 64 bits, signed
or unsigned; minus zero and everything else is a binary64 value. Its coefficient takes as many
digits as fit 64 bits: further integer digits count into the exponent, further fraction digits
are dropped.
-/

set_option autoImplicit false

namespace Brokerage.Json

open Text (Reading digitValue natural stopAt stopBefore)

/-- The largest coefficient is one below this. -/
def coefficientLimit : Nat := Nat.pow 2 64

/-- Extends a coefficient by leading digits while it fits, and gives the digits left over. -/
def absorb : Nat → List Char → Nat × List Char
  | n, [] => (n, [])
  | n, d :: digits =>
    let next := 10 * n + digitValue d
    if next < coefficientLimit then absorb next digits else (n, d :: digits)

def signed (negative : Bool) (x : Double) : Double :=
  if negative then x.neg else x

/-- The real with the given coefficient and exponent, unless it is too large. -/
def realOf (negative : Bool) (coefficient : Nat) (exponent : Int) (rest : List Char) :
    Reading Malformation Json :=
  match Double.ofDecimal? coefficient exponent with
  | some x => .ok (.real (signed negative x), rest)
  | none => stopBefore .numberTooLarge rest

/-- An integer literal whose coefficient fits. -/
def integerOf (negative : Bool) (coefficient : Nat) : Json :=
  if !negative then .integer coefficient
  else if coefficient = 0 || Nat.pow 2 63 < coefficient then .real (Double.ofNat coefficient).neg
  else .integer (-coefficient)

def exponentLimit : Nat := Nat.pow 2 31 - 1

/-- What follows the digit at which an exponent passes its limit, if it does. -/
def pastExponentLimit? : Nat → List Char → Option (List Char)
  | _, [] => none
  | n, c :: rest =>
    if c.isDigit then
      let next := 10 * n + digitValue c
      if exponentLimit < next then some rest else pastExponentLimit? next rest
    else none

/-- The digits of an exponent, after its sign. -/
def readExponentDigits (negative : Bool) (coefficient : Nat) (start : Int) (down : Bool)
    (s : List Char) : Reading Malformation Json :=
  match s with
  | [] => stopBefore .unfinishedValue []
  | c :: _ =>
    if c.isDigit then
      let rest := s.dropWhile Char.isDigit
      match pastExponentLimit? 0 s with
      | some left =>
        if coefficient != 0 && !down then stopBefore .numberTooLarge left
        else .ok (.real (signed negative Double.zero), rest)
      | none =>
        let exponent : Int := natural (s.takeWhile Char.isDigit)
        realOf negative coefficient (if down then start - exponent else start + exponent) rest
    else stopAt .badNumber s

/-- What follows the letter of an exponent. -/
def readExponent (negative : Bool) (coefficient : Nat) (start : Int) (s : List Char) :
    Reading Malformation Json :=
  match s with
  | '+' :: rest => readExponentDigits negative coefficient start false rest
  | '-' :: rest => readExponentDigits negative coefficient start true rest
  | _ => readExponentDigits negative coefficient start false s

def isExponentLetter (c : Char) : Bool :=
  c = 'e' || c = 'E'

/-- What follows the digits of a literal that is no integer: its exponent, if there is one. -/
def readAfterDigits (negative : Bool) (coefficient : Nat) (start : Int) (s : List Char) :
    Reading Malformation Json :=
  match s with
  | c :: after =>
    if isExponentLetter c then readExponent negative coefficient start after
    else realOf negative coefficient start s
  | [] => realOf negative coefficient start s

/-- What follows the decimal point. -/
def readFraction (negative : Bool) (coefficient : Nat) (start : Int) (s : List Char) :
    Reading Malformation Json :=
  let digits := s.takeWhile Char.isDigit
  let rest := s.dropWhile Char.isDigit
  if digits.isEmpty then
    if rest.isEmpty then stopBefore .unfinishedValue [] else stopAt .badNumber rest
  else
    let (longer, left) := absorb coefficient digits
    readAfterDigits negative longer (start - (digits.length - left.length : Nat)) rest

/-- Ends a literal without fraction and exponent, `surplus` digits of which did not fit. -/
def endInteger (negative : Bool) (coefficient surplus : Nat) (s : List Char) :
    Reading Malformation Json :=
  if surplus = 0 then .ok (integerOf negative coefficient, s)
  else realOf negative coefficient surplus s

/-- What follows the integer digits, `surplus` of which did not fit. -/
def readAfterInteger (negative : Bool) (coefficient surplus : Nat) (s : List Char) :
    Reading Malformation Json :=
  match s with
  | c :: rest =>
    if c = '.' then readFraction negative coefficient surplus rest
    else if isExponentLetter c then readExponent negative coefficient surplus rest
    else endInteger negative coefficient surplus s
  | [] => endInteger negative coefficient surplus s

/-- A number literal, after its sign. A leading zero stands alone. -/
def readNumeral (negative : Bool) (s : List Char) : Reading Malformation Json :=
  match s with
  | [] => stopBefore .unfinishedValue []
  | c :: rest =>
    if c = '0' then
      match rest with
      | d :: _ => if d.isDigit then stopAt .badNumber rest else readAfterInteger negative 0 0 rest
      | [] => readAfterInteger negative 0 0 rest
    else if c.isDigit then
      let (coefficient, left) := absorb 0 (s.takeWhile Char.isDigit)
      readAfterInteger negative coefficient left.length (s.dropWhile Char.isDigit)
    else stopAt .badNumber s

end Brokerage.Json
