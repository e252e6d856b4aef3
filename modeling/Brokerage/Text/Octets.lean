/-!
Text as bytes. Not every run of bytes is the UTF-8 form of a text; where one is not, the first
place where it goes wrong is told, and by how many bytes.
-/

set_option autoImplicit false

namespace Brokerage.Text

/-- How bytes fail to be a text: they end within a character, or some of them begin none. -/
inductive Illegible where
  | cut (place : Nat)
  | wrong (length place : Nat)
  deriving DecidableEq

def Illegible.message : Illegible → String
  | .cut place => s!"incomplete utf-8 byte sequence from index {place}"
  | .wrong length place => s!"invalid utf-8 sequence of {length} bytes from index {place}"

/-- The ranges of the bytes that complete the character of a first byte. -/
def completion? (first : UInt8) : Option (List (UInt8 × UInt8)) :=
  let any : UInt8 × UInt8 := (0x80, 0xBF)
  if first < 0x80 then some []
  else if first < 0xC2 then none
  else if first < 0xE0 then some [any]
  else if first = 0xE0 then some [(0xA0, 0xBF), any]
  else if first = 0xED then some [(0x80, 0x9F), any]
  else if first < 0xF0 then some [any, any]
  else if first = 0xF0 then some [(0x90, 0xBF), any, any]
  else if first < 0xF4 then some [any, any, any]
  else if first = 0xF4 then some [(0x80, 0x8F), any, any]
  else none

/-- The number of bytes at the front that lie in the ranges, one by one. -/
def fitting : List (UInt8 × UInt8) → List UInt8 → Nat
  | (low, high) :: ranges, b :: rest =>
    if low ≤ b && b ≤ high then fitting ranges rest + 1 else 0
  | _, _ => 0

/-- The first fault in bytes that stand at a place. -/
def illegibleFrom? : (steps place : Nat) → List UInt8 → Option Illegible
  | steps + 1, place, b :: rest =>
    match completion? b with
    | none => some (.wrong 1 place)
    | some ranges =>
      let n := fitting ranges rest
      if n = ranges.length then illegibleFrom? steps (place + n + 1) (rest.drop n)
      else if n = rest.length then some (.cut place)
      else some (.wrong (n + 1) place)
  | _, _, _ => none

/-- The text that bytes stand for. -/
def ofOctets (bytes : List UInt8) : Except Illegible String :=
  match illegibleFrom? bytes.length 0 bytes with
  | some fault => .error fault
  | none => .ok ((String.fromUTF8? ⟨bytes.toArray⟩).getD "")

end Brokerage.Text
