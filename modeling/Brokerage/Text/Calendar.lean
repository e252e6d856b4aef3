import Brokerage.Text.Digit

/-!
The calendar, and numbers of a fixed width as dates and times of day are written with.
-/

set_option autoImplicit false

namespace Brokerage.Text

def isLeap (year : Nat) : Bool :=
  year % 4 = 0 && (year % 100 ≠ 0 || year % 400 = 0)

def daysIn (year month : Nat) : Nat :=
  if month = 2 then (if isLeap year then 29 else 28)
  else if [4, 6, 9, 11].contains month then 30
  else 31

/-- The number written in the given count of digits at the front, if there are so many. -/
def digitsAt? (count : Nat) (s : List Char) : Option Nat :=
  let digits := s.take count
  if digits.length = count && digits.all Char.isDigit then some (natural digits) else none

end Brokerage.Text
