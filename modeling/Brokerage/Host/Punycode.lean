/-!
Names beyond ASCII in ASCII. The characters of ASCII come first; then, from the least code point
up, every other character is told by how far it is from the one before, counted in code points and
in places where it may be put in. A distance is a number with digits of thirty-six values, least
first, in a notation whose thresholds follow the distances met so far.
-/

set_option autoImplicit false

namespace Brokerage.Host.Punycode

/-- The value of a digit, of either case: letters first, then the digits of decimals. -/
def digit? (c : Char) : Option Nat :=
  if c.isLower then some (c.toNat - 'a'.toNat)
  else if c.isUpper then some (c.toNat - 'A'.toNat)
  else if c.isDigit then some (c.toNat - '0'.toNat + 26)
  else none

def digitChar (value : Nat) : Char :=
  if value < 26 then Char.ofNat ('a'.toNat + value) else Char.ofNat ('0'.toNat + value - 26)

/-- The value from which on a digit is not the last one. -/
def threshold (bias position : Nat) : Nat :=
  min 26 (max 1 (36 * (position + 1) - bias))

theorem threshold_pos (bias position : Nat) : 0 < threshold bias position := by
  unfold threshold
  omega

/-- Divides a distance until it is small; counts the divisions. -/
def shrink (distance count : Nat) : Nat × Nat :=
  if 455 < distance then shrink (distance / 35) (count + 1) else (distance, count)
termination_by distance
decreasing_by exact Nat.div_lt_self (by omega) (by omega)

/-- The bias behind a distance, where so many characters are known. -/
def biasBehind (distance known : Nat) (isFirst : Bool) : Nat :=
  let scaled := if isFirst then distance / 700 else distance / 2
  let (rest, count) := shrink (scaled + scaled / known) 0
  36 * count + 36 * rest / (rest + 38)

/-! ### Reading -/

/-- What has been read: the characters so far, the last code point put in and the place behind it,
the bias, and the distance that is being read, with the weight and the number of its next digit. -/
structure Progress where
  found : List Char
  code : Nat := 128
  place : Nat := 0
  bias : Nat := 72
  distance : Nat := 0
  weight : Nat := 1
  position : Nat := 0

/-- Puts in the character at the end of a distance, unless there is no such character. -/
def Progress.insert? (p : Progress) : Option Progress :=
  let known := p.found.length + 1
  let code := p.code + (p.place + p.distance) / known
  let place := (p.place + p.distance) % known
  if code < 0xD800 || (0xDFFF < code && code ≤ 0x10FFFF) then
    some {
      found := p.found.take place ++ Char.ofNat code :: p.found.drop place
      code
      place := place + 1
      bias := biasBehind p.distance known (p.place == 0) }
  else none

/-- Reads digits to the end, which is where a distance ends. -/
def Progress.read? (p : Progress) : List Char → Option (List Char)
  | [] => if p.position = 0 then some p.found else none
  | c :: rest =>
    match digit? c with
    | none => none
    | some value =>
      let limit := threshold p.bias p.position
      let next := { p with distance := p.distance + value * p.weight }
      if value < limit then
        match next.insert? with
        | some p => p.read? rest
        | none => none
      else
        { next with weight := p.weight * (36 - limit), position := p.position + 1 }.read? rest

/-- The name that a text in ASCII stands for. The last hyphen ends the part that is in ASCII
anyway, and there is none where that part is empty. -/
def decode? (s : List Char) : Option (List Char) :=
  let digits := (s.reverse.takeWhile (· != '-')).reverse
  let plain := s.take (s.length - digits.length - 1)
  if s.any fun c ↦ 0x80 ≤ c.toNat then none
  else if s.contains '-' && plain.isEmpty then none
  else Progress.read? { found := plain } digits

/-! ### Writing -/

/-- The digits of a distance from a position on. -/
def digitsFrom (bias position distance : Nat) : List Char :=
  let limit := threshold bias position
  if distance < limit then [digitChar distance]
  else
    let rest := distance - limit
    digitChar (limit + rest % (36 - limit)) ::
      digitsFrom bias (position + 1) (rest / (36 - limit))
termination_by distance
decreasing_by
  have := threshold_pos bias position
  exact Nat.lt_of_le_of_lt (Nat.div_le_self _ _) (by omega)

/-- What has been written: the digits, the distance since the last character, the number of
characters known, and the bias. -/
structure Draft where
  written : List Char := []
  distance : Nat := 0
  known : Nat
  bias : Nat := 72

/-- Passes a character of the name on the round for a code point. -/
def Draft.pass (code plain : Nat) (draft : Draft) (c : Char) : Draft :=
  if c.toNat < code then { draft with distance := draft.distance + 1 }
  else if c.toNat = code then
    { written := draft.written ++ digitsFrom draft.bias 0 draft.distance
      known := draft.known + 1
      bias := biasBehind draft.distance (draft.known + 1) (draft.known == plain) }
  else draft

/-- The text in ASCII that stands for a name. -/
def encode (name : List Char) : List Char :=
  let plain := name.filter fun c ↦ c.toNat < 0x80
  let others := ((name.filter fun c ↦ 0x80 ≤ c.toNat).map Char.toNat).mergeSort.eraseReps
  let start : Draft × Nat := ({ known := plain.length }, 128)
  let finish := others.foldl (fun (draft, next) code ↦
    let moved := { draft with distance := draft.distance + (code - next) * (draft.known + 1) }
    let passed := name.foldl (Draft.pass code plain.length) moved
    ({ passed with distance := passed.distance + 1 }, code + 1)) start
  (if plain.isEmpty then [] else plain ++ ['-']) ++ finish.1.written

end Brokerage.Host.Punycode
