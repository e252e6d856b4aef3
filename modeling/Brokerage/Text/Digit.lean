/-!
Digits and the natural numbers that runs of them denote.
-/

set_option autoImplicit false

namespace Brokerage.Text

/-- The value of a hexadecimal digit, of either case. -/
def digitValue? (c : Char) : Option Nat :=
  if '0' ≤ c ∧ c ≤ '9' then some (c.toNat - '0'.toNat)
  else if 'a' ≤ c ∧ c ≤ 'f' then some (c.toNat - 'a'.toNat + 10)
  else if 'A' ≤ c ∧ c ≤ 'F' then some (c.toNat - 'A'.toNat + 10)
  else none

/-- The value of a digit, and zero for anything else. -/
def digitValue (c : Char) : Nat :=
  (digitValue? c).getD 0

def isHexDigit (c : Char) : Bool :=
  (digitValue? c).isSome

/-- The number that digits denote in a base. -/
def naturalIn (base : Nat) (digits : List Char) : Nat :=
  digits.foldl (fun n c ↦ base * n + digitValue c) 0

def natural (digits : List Char) : Nat :=
  naturalIn 10 digits

end Brokerage.Text
