import Brokerage.Text.Digit
import Brokerage.Text.Parts

/-!
Hosts by number: four octets in decimals, or eight groups of hexadecimal digits, of which a run may
be left out and the last two may be written as octets.
-/

set_option autoImplicit false

namespace Brokerage.Host

def isIpv4 (s : List Char) : Bool :=
  let parts := Text.partsAt '.' s
  parts.length = 4 && parts.all fun part ↦
    !part.isEmpty && part.length ≤ 3 && part.all Char.isDigit && Text.natural part ≤ 255 &&
      (part.length = 1 || part.head? != some '0')

/-- The number of groups in a run of them, the last of which may be four octets that stand for
two. -/
def groupCount? : List (List Char) → Option Nat
  | [] => some 0
  | [last] =>
    if last.length ≤ 4 && !last.isEmpty && last.all Text.isHexDigit then some 1
    else if isIpv4 last then some 2
    else none
  | group :: others =>
    if !group.isEmpty && group.length ≤ 4 && group.all Text.isHexDigit then
      (groupCount? others).map (· + 1)
    else none

/-- What stands on both sides of the first two colons in a row. -/
def atGap? : List Char → Option (List Char × List Char)
  | ':' :: ':' :: rest => some ([], rest)
  | c :: rest => (atGap? rest).map fun (before, behind) ↦ (c :: before, behind)
  | [] => none

def isIpv6 (s : List Char) : Bool :=
  let side? (s : List Char) : Option Nat :=
    groupCount? (if s.isEmpty then [] else Text.partsAt ':' s)
  match atGap? s with
  | some (before, behind) =>
    match side? before, side? behind with
    | some m, some n => m + n ≤ 7 && !before.contains '.'
    | _, _ => false
  | none => !s.isEmpty && groupCount? (Text.partsAt ':' s) == some 8

end Brokerage.Host
