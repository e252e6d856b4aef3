import Brokerage.Unicode.Lookup

/-!
Directions of writing in names. Where one label of a name is written to the left, no label may be
such that its characters change places when it stands beside others: a label keeps to one direction,
begins with a letter of it and ends with a letter or a digit.
-/

set_option autoImplicit false

namespace Brokerage.Host

/-- What counts of a character for the direction of a label. -/
inductive Direction where
  | right
  | left
  | number
  | arabicNumber
  | mark
  | neutral
  deriving DecidableEq

/-- Where the characters of the scripts are that are written to the left. -/
def leftward : Unicode.Ranges := [
  (0x590, 0x8FF), (0xFB1D, 0xFDFF), (0xFE70, 0xFEFF), (0x10800, 0x10FFF), (0x1E800, 0x1EFFF)]

/-- Signs among them that have no direction. -/
def leftwardNeutral : Unicode.Ranges := [
  (0x606, 0x607), (0x609, 0x60A), (0x60C, 0x60C), (0x60E, 0x60F), (0x66A, 0x66A), (0x6DE, 0x6DE),
  (0x6E9, 0x6E9), (0x7F6, 0x7F9), (0xFB29, 0xFB29), (0xFD3E, 0xFD4F), (0xFDCF, 0xFDCF),
  (0xFDFD, 0xFDFF), (0x1091F, 0x1091F), (0x10B39, 0x10B3F), (0x10D6E, 0x10D6E),
  (0x1EEF0, 0x1EEF1)]

def arabicNumbers : Unicode.Ranges := [
  (0x600, 0x605), (0x660, 0x669), (0x66B, 0x66C), (0x6DD, 0x6DD), (0x890, 0x891), (0x8E2, 0x8E2),
  (0x10D30, 0x10D39), (0x10E60, 0x10E7E)]

/-- Digits of numbers that are written to the right everywhere. -/
def numbers : Unicode.Ranges := [
  (0x30, 0x39), (0xB2, 0xB3), (0xB9, 0xB9), (0x6F0, 0x6F9), (0x2070, 0x2070), (0x2074, 0x2079),
  (0x2080, 0x2089), (0x102E1, 0x102FB), (0x1CCF0, 0x1CCF9), (0x1D7CE, 0x1D7FF),
  (0x1FBF0, 0x1FBF9)]

def isOfCategory (names : List String) (c : Char) : Bool :=
  (Unicode.inCategories names).has c.toNat

def direction (c : Char) : Direction :=
  let code := c.toNat
  if arabicNumbers.has code then .arabicNumber
  else if numbers.has code then .number
  else if c = '-' then .neutral
  else if code < 0x80 then .right
  else if isOfCategory ["Me", "Mn"] c then .mark
  else if leftward.has code then if leftwardNeutral.has code then .neutral else .left
  else if isOfCategory ["Cf", "Pc", "Pd", "Pe", "Pf", "Pi", "Po", "Ps", "Sc", "Sk", "Sm", "So"] c
  then .neutral
  else .right

/-- Whether a label keeps to its direction. -/
def keepsDirection (label : List Direction) : Bool :=
  let last? := (label.reverse.dropWhile (· == .mark)).head?
  match label with
  | .left :: _ =>
    !label.contains .right && !(label.contains .number && label.contains .arabicNumber) &&
      last?.any [Direction.left, .number, .arabicNumber].contains
  | .right :: _ =>
    !label.contains .left && !label.contains .arabicNumber &&
      last?.any [Direction.right, .number].contains
  | _ => false

/-- Whether the labels of a name keep to their directions, where one of them is written to the
left. -/
def keepDirections (labels : List (List Char)) : Bool :=
  let directions := labels.map fun label ↦ label.map direction
  let turns := directions.any fun label ↦ label.contains .left || label.contains .arabicNumber
  !turns || directions.all keepsDirection

end Brokerage.Host
