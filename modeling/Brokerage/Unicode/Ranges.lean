import Brokerage.Text.Digit

/-!
Sets of code points as closed ranges in increasing order, none touching the next, so that equal
sets are equal lists. Tables write them down by distances: `gap` or `gap+more` in hexadecimal for
the number of code points left out before a range and the number that follow its first.
-/

set_option autoImplicit false

namespace Brokerage.Unicode

abbrev Ranges := List (Nat × Nat)

namespace Ranges

/-- The greatest code point. -/
def top : Nat := 0x10FFFF

def full : Ranges := [(0, top)]

/-- Membership; ranges that begin beyond a code point are not looked at. -/
def has : Ranges → (code : Nat) → Bool
  | [], _ => false
  | range :: rest, code => range.1 ≤ code && (code ≤ range.2 || has rest code)

/-- Puts a range in front of ranges that begin no earlier, joining those it meets. -/
def attach (range : Nat × Nat) : Ranges → Ranges
  | [] => [range]
  | next :: rest =>
    if next.1 ≤ range.2 + 1 then attach (range.1, max range.2 next.2) rest
    else range :: next :: rest

/-- The set that the given ranges cover. -/
def ofList (ranges : List (Nat × Nat)) : Ranges :=
  (ranges.mergeSort fun a b ↦ a.1 ≤ b.1).foldr attach []

def union (a b : Ranges) : Ranges :=
  ofList (a ++ b)

/-- The code points from `next` on that are in none of the ranges. -/
def gapsFrom (next : Nat) : Ranges → Ranges
  | [] => if next ≤ top then [(next, top)] else []
  | range :: rest =>
    if next < range.1 then (next, range.1 - 1) :: gapsFrom (range.2 + 1) rest
    else gapsFrom (max next (range.2 + 1)) rest

def complement (ranges : Ranges) : Ranges :=
  gapsFrom 0 ranges

def inter (a b : Ranges) : Ranges :=
  (a.complement.union b.complement).complement

def difference (a b : Ranges) : Ranges :=
  a.inter b.complement

/-- In one of the two and not in both. -/
def symmetricDifference (a b : Ranges) : Ranges :=
  (a.union b).difference (a.inter b)

/-- The range that a word of a table stands for, where code points below `next` are behind. -/
def ofWord (next : Nat) (word : String) : Nat × Nat :=
  let number (s : String) : Nat := Text.naturalIn 16 s.toList
  match word.splitOn "+" with
  | [gap, more] => (next + number gap, next + number gap + number more)
  | _ => (next + number word, next + number word)

/-- The set that a table writes down. -/
def ofTable (table : String) : Ranges :=
  let lines := table.splitOn "\n"
  let words := (lines.flatMap fun line ↦ line.splitOn " ").filter fun word ↦ !word.isEmpty
  (words.foldl (fun (next, found) word ↦
    let range := ofWord next word
    (range.2 + 1, range :: found)) (0, [])).2.reverse

end Ranges

/-- A set of code points, the names it goes by and its table. -/
structure NamedSet where
  names : List String
  table : String

def NamedSet.ranges (set : NamedSet) : Ranges :=
  Ranges.ofTable set.table

end Brokerage.Unicode
