import Brokerage.Text.Calendar

/-!
Formats of dates and times of day. A number of a fixed width is read by the last four bits of its
characters, so that the signs that stand before the digits in ASCII pass for what these bits say;
only the ranges of the numbers are checked.
-/

set_option autoImplicit false

namespace Brokerage.Schema.Format

/-- The value of a character where a digit is expected. -/
def figure? (c : Char) : Option Nat :=
  if '*' ≤ c && c ≤ '9' then some (c.toNat % 16) else none

/-- The number that characters stand for. -/
def figures? (s : List Char) : Option Nat :=
  s.foldlM (fun number c ↦ (figure? c).map (10 * number + ·)) 0

def isDate (s : List Char) : Bool :=
  match s with
  | [a, b, c, d, '-', e, f, '-', g, h] =>
    match figures? [a, b, c, d], figures? [e, f], figures? [g, h] with
    | some year, some month, some day =>
      1 ≤ month && month ≤ 12 && 1 ≤ day && day ≤ Text.daysIn year month
    | _, _, _ => false
  | _ => false

/-- The minutes by which an offset is ahead of universal time. -/
def offset? (s : List Char) : Option Int :=
  match s with
  | ['Z'] | ['z'] => some 0
  | [sign, a, b, ':', c, d] =>
    match figures? [a, b], figures? [c, d] with
    | some hours, some minutes =>
      let ahead : Int := hours * 60 + minutes
      if 23 < hours || 59 < minutes then none
      else if sign = '+' then some ahead
      else if sign = '-' then some (-ahead)
      else none
    | _, _ => none
  | _ => none

/-- What follows the seconds and the fraction that they may have. -/
def behindFraction? (s : List Char) : Option (List Char) :=
  match s with
  | '.' :: rest => if rest.head?.any Char.isDigit then some (rest.dropWhile Char.isDigit) else none
  | _ => some s

/-- A time of day with its offset. There is a sixty-first second only before midnight in universal
time. -/
def isTime (s : List Char) : Bool :=
  match s with
  | a :: b :: ':' :: c :: d :: ':' :: e :: f :: rest =>
    let offset? := (behindFraction? rest).bind offset?
    match figures? [a, b], figures? [c, d], figures? [e, f], offset? with
    | some hour, some minute, some second, some ahead =>
      let universal : Int := ((hour * 60 + minute : Int) - ahead) % 1440
      hour ≤ 23 && minute ≤ 59 && (second ≤ 59 || (second = 60 && universal = 1439))
    | _, _, _, _ => false
  | _ => false

def isDateTime (s : List Char) : Bool :=
  match s.drop 10 with
  | mark :: time => (mark = 'T' || mark = 't') && isDate (s.take 10) && isTime time
  | [] => false

end Brokerage.Schema.Format
