import Brokerage.Json.Reader
import Brokerage.Text.Digit

/-!
String literals, read from behind their opening quote. Escapes by number name units of sixteen
bits: a high surrogate must be followed by the escape of a low one, and the two name one
character.
-/

set_option autoImplicit false

namespace Brokerage.Json

open Text (Reading stopAt stopBefore)

/-- The unit named by the next four bytes. Fewer bytes than that end the string too early. -/
def readHexUnit (s : List Char) : Reading Malformation Nat :=
  if Text.byteLength (s.take 4) < 4 then stopBefore .unfinishedString []
  else
    match s with
    | a :: b :: c :: d :: rest =>
      if [a, b, c, d].all Text.isHexDigit then .ok (Text.naturalIn 16 [a, b, c, d], rest)
      else .error ⟨.badEscape, s, 4⟩
    | _ => .error ⟨.badEscape, s, 4⟩

def isHighSurrogate (unit : Nat) : Bool :=
  0xD800 ≤ unit && unit ≤ 0xDBFF

def isLowSurrogate (unit : Nat) : Bool :=
  0xDC00 ≤ unit && unit ≤ 0xDFFF

def joinSurrogates (high low : Nat) : Char :=
  Char.ofNat ((high - 0xD800) * 0x400 + (low - 0xDC00) + 0x10000)

/-- The low half of a character whose high half has been read. -/
def readLowSurrogate (high : Nat) (s : List Char) : Reading Malformation Char :=
  match s with
  | [] => stopBefore .unfinishedString []
  | '\\' :: [] => stopBefore .unfinishedString []
  | '\\' :: 'u' :: rest =>
    match readHexUnit rest with
    | .error fault => .error fault
    | .ok (low, after) =>
      if isLowSurrogate low then .ok (joinSurrogates high low, after)
      else stopBefore .loneSurrogate after
  | '\\' :: rest => stopAt .unfinishedSurrogate rest
  | _ => stopAt .unfinishedSurrogate s

/-- An escape by number, after its letter. -/
def readNumberedEscape (s : List Char) : Reading Malformation Char :=
  match readHexUnit s with
  | .error fault => .error fault
  | .ok (unit, rest) =>
    if isLowSurrogate unit then stopBefore .loneSurrogate rest
    else if isHighSurrogate unit then readLowSurrogate unit rest
    else .ok (Char.ofNat unit, rest)

/-- The character named by an escape letter. -/
def namedEscape? (c : Char) : Option Char :=
  if c = '"' then some '"'
  else if c = '\\' then some '\\'
  else if c = '/' then some '/'
  else if c = 'b' then some '\x08'
  else if c = 'f' then some '\x0c'
  else if c = 'n' then some '\n'
  else if c = 'r' then some '\r'
  else if c = 't' then some '\t'
  else none

/-- An escape, after its backslash. -/
def readEscape (s : List Char) : Reading Malformation Char :=
  match s with
  | [] => stopBefore .unfinishedString []
  | c :: rest =>
    if c = 'u' then readNumberedEscape rest
    else
      match namedEscape? c with
      | some named => .ok (named, rest)
      | none => stopAt .badEscape s

/-- The characters of a string up to its closing quote, those already read in reverse. -/
def readQuotation : (steps : Nat) → (before : List Char) → List Char →
    Reading Malformation String
  | 0, _, s => stopBefore .outOfSteps s
  | _ + 1, _, [] => stopBefore .unfinishedString []
  | steps + 1, before, c :: rest =>
    if c = '"' then .ok (String.ofList before.reverse, rest)
    else if c = '\\' then
      match readEscape rest with
      | .error fault => .error fault
      | .ok (named, after) => readQuotation steps (named :: before) after
    else if c.toNat < 0x20 then stopAt .controlCharacter (c :: rest)
    else readQuotation steps (c :: before) rest

end Brokerage.Json
