import Brokerage.Json.Basic
import Brokerage.Number.Shortest

/-!
Numbers of JSON by their value, and equality of values up to the way their numbers are written. A
real number is compared by the exact value of its bits. Multiples are told among binary64 values:
of a whole number by the exact values, and of any other by the decimals that they are written
as, so that `0.3` is a multiple of `0.1`.
-/

set_option autoImplicit false

namespace Brokerage

/-- The quotient of an integer and a positive natural. -/
structure Quantity where
  num : Int
  den : Nat
  deriving DecidableEq

namespace Quantity

def less (a b : Quantity) : Bool :=
  a.num * b.den < b.num * a.den

def same (a b : Quantity) : Bool :=
  a.num * b.den == b.num * a.den

def isWhole (a : Quantity) : Bool :=
  a.num % a.den == 0

/-- Whether `a` is an integer times `unit`, which is not zero. -/
def isMultipleOf (a unit : Quantity) : Bool :=
  (a.num * unit.den) % (a.den * unit.num) == 0

end Quantity

namespace Double

def signedBy (x : Double) (n : Nat) : Int :=
  if x.isNegative then -n else n

/-- The exact value of a finite number. -/
def quantity (x : Double) : Quantity :=
  ⟨x.signedBy x.magnitude, magnitudeUnit⟩

/-- The value of the shortest decimal of a finite number. -/
def decimalQuantity (x : Double) : Quantity :=
  if x.isZero then ⟨0, 1⟩
  else
    let d := x.shortest
    ⟨x.signedBy (d.digits * Nat.pow 10 d.exponent.toNat), Nat.pow 10 (-d.exponent).toNat⟩

/-- Whether a value is a multiple of a unit. Of a unit with a fractional part, only zero and
values no less than it are. -/
def isMultipleOf (x unit : Double) : Bool :=
  if unit.quantity.isWhole then x.quantity.isMultipleOf unit.quantity
  else x.isZero ||
    (!x.quantity.less unit.quantity && x.decimalQuantity.isMultipleOf unit.decimalQuantity)

end Double

namespace Json

def quantity? : Json → Option Quantity
  | .integer i => some ⟨i, 1⟩
  | .real x => some x.quantity
  | _ => none

/-- The binary64 value nearest to a number. -/
def double? : Json → Option Double
  | .integer i => some (Double.ofRatio (i < 0) i.natAbs 1)
  | .real x => some x
  | _ => none

/-- A number without a fractional part, however it is written. -/
def isWhole (j : Json) : Bool :=
  match j.quantity? with
  | some q => q.isWhole
  | none => false

/-- The greatest count; a greater number counts for it. -/
def greatestCount : Nat := 18446744073709551615

/-- A whole number as a count; what is below zero counts for zero. -/
def count? (j : Json) : Option Nat :=
  match j with
  | .integer i => some i.toNat
  | .real x =>
    let q := x.quantity
    if q.isWhole then some (min (q.num / q.den).toNat greatestCount) else none
  | _ => none

mutual

/-- Equality that does not tell `1` from `1.0`. -/
def alike : Json → Json → Bool
  | .null, .null => true
  | .bool a, .bool b => a == b
  | .integer a, .integer b => a == b
  | .integer a, .real b => (Quantity.mk a 1).same b.quantity
  | .real a, .integer b => a.quantity.same ⟨b, 1⟩
  | .real a, .real b => a.quantity.same b.quantity
  | .string a, .string b => a == b
  | .list a, .list b => alikeItems a b
  | .object a, .object b => alikeMembers a b
  | _, _ => false

def alikeItems : List Json → List Json → Bool
  | [], [] => true
  | a :: as, b :: bs => alike a b && alikeItems as bs
  | _, _ => false

def alikeMembers : List (String × Json) → List (String × Json) → Bool
  | [], [] => true
  | (k, a) :: as, (l, b) :: bs => k == l && alike a b && alikeMembers as bs
  | _, _ => false

end

/-- No two items alike. -/
def allDistinct : List Json → Bool
  | [] => true
  | item :: rest => !rest.any (alike item) && allDistinct rest

end Json

end Brokerage
