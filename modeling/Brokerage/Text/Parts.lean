/-!
Texts in parts that a mark keeps apart.
-/

set_option autoImplicit false

namespace Brokerage.Text

/-- The parts of a text between the marks of a kind. -/
def partsAt (mark : Char) (s : List Char) : List (List Char) :=
  s.foldr (fun c parts ↦
    match parts with
    | part :: others => if c = mark then [] :: part :: others else (c :: part) :: others
    | [] => [[c]]) [[]]

/-- What stands before and behind the last mark of a kind, if there is one. -/
def splitAtLast? (mark : Char) (s : List Char) : Option (List Char × List Char) :=
  let behind := (s.reverse.takeWhile (· != mark)).reverse
  if s.contains mark then some (s.take (s.length - behind.length - 1), behind) else none

end Brokerage.Text
