import Brokerage.Number.Double

/-!
The shortest decimal that reads back as a given binary64 value, and its layouts. Digits are
chosen on the decimal grids from one digit to seventeen: the first grid with a point inside the
interval that rounds to the value wins, and of two points the nearer.
-/

set_option autoImplicit false

namespace Brokerage

/-- The number `digits * 10 ^ exponent`. -/
structure Decimal where
  digits : Nat
  exponent : Int
  deriving DecidableEq

namespace Double

/-- The interval of reals that round to a finite value, as numerators over four times
`magnitudeUnit`. Below a power of two the neighbour is only half as far away. -/
def readBackLow (x : Double) : Nat :=
  let step := if x.fraction = 0 && 1 < x.exponentField then 1 else 2
  (4 * x.significand - step) * Nat.pow 2 x.scale

def readBackHigh (x : Double) : Nat :=
  (4 * x.significand + 2) * Nat.pow 2 x.scale

/-- Whether `point * 10 ^ exponent` rounds to the value. The ends belong to the interval when the
significand is even. -/
def readsBack (x : Double) (point : Nat) (exponent : Int) : Bool :=
  let num := point * Nat.pow 10 exponent.toNat * (4 * magnitudeUnit)
  let den := Nat.pow 10 (-exponent).toNat
  let low := x.readBackLow * den
  let high := x.readBackHigh * den
  if x.significand % 2 = 0 then low ≤ num && num ≤ high else low < num && num < high

def digitCount (n : Nat) : Nat :=
  (Nat.toDigits 10 n).length

/-- The exponent of the leading decimal digit of `num / den`, both positive. -/
def leadingExponent (num den : Nat) : Int :=
  if den ≤ num then (digitCount (num / den) : Int) - 1
  else
    let down := digitCount (den / num)
    if den ≤ num * Nat.pow 10 (down - 1) then -((down : Int) - 1) else -(down : Int)

/-- The better of the two points of a grid around the value, if any reads back. -/
def onGrid? (x : Double) (exponent : Int) : Option Decimal :=
  let num := x.magnitude * Nat.pow 10 (-exponent).toNat
  let den := magnitudeUnit * Nat.pow 10 exponent.toNat
  let below := num / den
  let remainder := num % den
  match x.readsBack below exponent, x.readsBack (below + 1) exponent with
  | true, true =>
    if 2 * remainder < den || (2 * remainder == den && below % 2 == 0) then
      some ⟨below, exponent⟩
    else some ⟨below + 1, exponent⟩
  | true, false => some ⟨below, exponent⟩
  | false, true => some ⟨below + 1, exponent⟩
  | false, false => none

/-- The shortest decimal of a finite value other than zero, its sign left out. The point above a
nine ends in a zero, which belongs to the exponent. -/
def shortest (x : Double) : Decimal :=
  let lead := leadingExponent x.magnitude magnitudeUnit
  let grids := (List.range 17).map fun (extra : Nat) ↦ lead - extra
  let found := (grids.findSome? x.onGrid?).getD ⟨0, 0⟩
  if found.digits % 10 = 0 then ⟨found.digits / 10, found.exponent + 1⟩ else found

end Double

namespace Decimal

def digitText (d : Decimal) : List Char :=
  Nat.toDigits 10 d.digits

/-- The number of digits before the decimal point; negative when zeros follow the point. -/
def pointAt (d : Decimal) : Int :=
  (d.digitText.length : Int) + d.exponent

/-- Digits with a decimal point and at least one digit on each side of it. -/
def positional (d : Decimal) : List Char :=
  let digits := d.digitText
  match d.pointAt with
  | .ofNat 0 => '0' :: '.' :: digits
  | .negSucc n => '0' :: '.' :: List.replicate (n + 1) '0' ++ digits
  | .ofNat point =>
    if digits.length ≤ point then
      digits ++ List.replicate (point - digits.length) '0' ++ ['.', '0']
    else digits.take point ++ '.' :: digits.drop point

/-- One digit before the point and an exponent that always shows its sign. -/
def scientific (d : Decimal) : List Char :=
  let exponent := d.pointAt - 1
  let mantissa := match d.digitText with
    | [] => []
    | [digit] => [digit]
    | digit :: rest => digit :: '.' :: rest
  let sign := if exponent < 0 then '-' else '+'
  mantissa ++ 'e' :: sign :: Nat.toDigits 10 exponent.natAbs

end Decimal

namespace Double

def signText (x : Double) : List Char :=
  if x.isNegative then ['-'] else []

/-- Always positional, with a fractional part; the infinite values and the rest are named. -/
def positionalText (x : Double) : String :=
  if x.isZero then String.ofList (x.signText ++ ['0', '.', '0'])
  else if x.isFinite then String.ofList (x.signText ++ x.shortest.positional)
  else if x.isInfinite then String.ofList (x.signText ++ ['i', 'n', 'f'])
  else "NaN"

/-- Always positional, with a fractional part only where it is not zero. -/
def plainText (x : Double) : String :=
  let chars := x.positionalText.toList
  if chars.drop (chars.length - 2) = ['.', '0'] then String.ofList (chars.take (chars.length - 2))
  else x.positionalText

/-- Positional from `0.00001` up to below `10 ^ 16`, scientific elsewhere. -/
def chars (x : Double) : List Char :=
  if x.isZero then x.signText ++ ['0', '.', '0']
  else
    let d := x.shortest
    if -4 ≤ d.pointAt && d.pointAt ≤ 16 then x.signText ++ d.positional
    else x.signText ++ d.scientific

end Double

end Brokerage
