/-!
Binary64 numbers by bit pattern, with exact arithmetic on natural numbers. A finite value is
`significand * 2 ^ scale / 2 ^ 1075`; every operation takes the exact quotient of naturals and
rounds it once, to the nearest value and on a tie to the even significand.
-/

set_option autoImplicit false

namespace Brokerage

/-- One sign bit, eleven exponent bits and 52 fraction bits, from the top. -/
structure Double where
  bits : UInt64
  deriving DecidableEq

namespace Double

def isNegative (x : Double) : Bool :=
  Nat.pow 2 63 ≤ x.bits.toNat

def exponentField (x : Double) : Nat :=
  x.bits.toNat / Nat.pow 2 52 % Nat.pow 2 11

def fraction (x : Double) : Nat :=
  x.bits.toNat % Nat.pow 2 52

def isFinite (x : Double) : Bool :=
  x.exponentField != 2047

def isInfinite (x : Double) : Bool :=
  x.exponentField == 2047 && x.fraction == 0

def isZero (x : Double) : Bool :=
  x.exponentField == 0 && x.fraction == 0

/-- The integer part of `significand * 2 ^ scale / 2 ^ 1075`, the magnitude of a finite value. -/
def significand (x : Double) : Nat :=
  if x.exponentField = 0 then x.fraction else Nat.pow 2 52 + x.fraction

def scale (x : Double) : Nat :=
  max x.exponentField 1

/-- The magnitude as a numerator over `magnitudeUnit`. -/
def magnitude (x : Double) : Nat :=
  x.significand * Nat.pow 2 x.scale

def magnitudeUnit : Nat := Nat.pow 2 1075

/-- The nearest natural to `num / den`; a half goes to the even neighbour. -/
def roundQuotient (num den : Nat) : Nat :=
  let quotient := num / den
  let remainder := num % den
  if 2 * remainder < den then quotient
  else if den < 2 * remainder then quotient + 1
  else quotient + quotient % 2

def signBit (negative : Bool) : Nat :=
  if negative then Nat.pow 2 63 else 0

def infinityBits : Nat := 2047 * Nat.pow 2 52

/-- The value nearest to `num / den` with the given sign, infinite when no finite one is near.
A significand of `2 ^ 53` carries into the exponent field by itself, which is why the field and
the significand are added rather than joined. -/
def ofRatio (negative : Bool) (num den : Nat) : Double :=
  let whole := num * magnitudeUnit / den
  let exponent := max (Nat.log2 whole - 52) 1
  let rounded := roundQuotient (num * magnitudeUnit) (den * Nat.pow 2 exponent)
  let pattern := min ((exponent - 1) * Nat.pow 2 52 + rounded) infinityBits
  ⟨UInt64.ofNat (signBit negative + pattern)⟩

def ofNat (n : Nat) : Double :=
  ofRatio false n 1

def zero : Double := ⟨0⟩

def infinity (negative : Bool) : Double :=
  ⟨UInt64.ofNat (signBit negative + infinityBits)⟩

def notANumber : Double :=
  ⟨UInt64.ofNat (infinityBits + Nat.pow 2 51)⟩

def neg (x : Double) : Double :=
  ⟨x.bits ^^^ UInt64.ofNat (Nat.pow 2 63)⟩

/-- The product of two finite values. -/
def mul (x y : Double) : Double :=
  ofRatio (x.isNegative != y.isNegative) (x.magnitude * y.magnitude)
    (magnitudeUnit * magnitudeUnit)

/-- The quotient of two finite values, the second not zero. -/
def div (x y : Double) : Double :=
  ofRatio (x.isNegative != y.isNegative) x.magnitude y.magnitude

/-- The value nearest to a power of ten. -/
def powerOfTen (n : Nat) : Double :=
  ofNat (Nat.pow 10 n)

/-- The largest exponent whose power of ten is finite. -/
def maxPowerOfTen : Nat := 308

/-- Scaling up by a power of ten; nothing when the result is not finite. -/
def scaleUp? (x : Double) (exponent : Nat) : Option Double :=
  if exponent ≤ maxPowerOfTen then
    let scaled := x.mul (powerOfTen exponent)
    if scaled.isFinite then some scaled else none
  else if x.isZero then some x
  else none

/-- Scaling down by a power of ten, in strides of the largest finite power until what is left
is in reach or the value has vanished. -/
def scaleDown (x : Double) : (strides exponent : Nat) → Double
  | 0, exponent => x.div (powerOfTen exponent)
  | strides + 1, exponent =>
    if exponent ≤ maxPowerOfTen then x.div (powerOfTen exponent)
    else if x.isZero then x
    else (x.div (powerOfTen maxPowerOfTen)).scaleDown strides (exponent - maxPowerOfTen)

/-- `coefficient * 10 ^ exponent` as a literal denotes it: the coefficient is rounded to a value
first and the power of ten applied to that. -/
def ofDecimal? (coefficient : Nat) (exponent : Int) : Option Double :=
  match exponent with
  | .ofNat up => (ofNat coefficient).scaleUp? up
  | .negSucc down => some ((ofNat coefficient).scaleDown ((down + 1) / maxPowerOfTen) (down + 1))

/-- No decimal whose leading digit lies further from the point than this is near a finite value
other than zero. -/
def decimalReach : Int := 400

/-- The value nearest to `coefficient * 10 ^ exponent`, with the given sign. -/
def nearest (negative : Bool) (coefficient : Nat) (exponent : Int) : Double :=
  let lead := (Nat.toDigits 10 coefficient).length + exponent
  if coefficient = 0 || lead < -decimalReach then ofRatio negative 0 1
  else if decimalReach < lead then infinity negative
  else
    match exponent with
    | .ofNat up => ofRatio negative (coefficient * Nat.pow 10 up) 1
    | .negSucc down => ofRatio negative coefficient (Nat.pow 10 (down + 1))

end Double

end Brokerage
