import Brokerage.Text.Digit
import Brokerage.Toml.Basic

/-!
Strings. A string stands between double quotes, with escapes, or between single ones, without. With
one mark on each side it stays on its line; with three it may hold line breaks and up to two
marks in a row, and a line break right behind the opening marks does not count.
-/

set_option autoImplicit false

namespace Brokerage.Toml

open Text (Reading stopBefore)

/-- What a string is written between. -/
inductive Quote where
  | escaping
  | literal
  deriving DecidableEq

def Quote.mark : Quote → Char
  | .escaping => '"'
  | .literal => '\''

/-- The quote that a character opens, if it is one. -/
def Quote.ofMark? (c : Char) : Option Quote :=
  if c = '"' then some .escaping
  else if c = '\'' then some .literal
  else none

/-- The character of the given number of hexadecimal digits. -/
def readCodePoint (digits : Nat) (s : List Char) : Reading Malformation Char :=
  let code := s.take digits
  let n := Text.naturalIn 16 code
  if code.length = digits && code.all Text.isHexDigit && decide n.isValidChar then
    .ok (Char.ofNat n, s.drop digits)
  else stopBefore .badEscape s

/-- The character that an escape letter stands for. -/
def namedEscape? (c : Char) : Option Char :=
  if c = 'b' then some '\x08'
  else if c = 't' then some '\t'
  else if c = 'n' then some '\n'
  else if c = 'f' then some '\x0c'
  else if c = 'r' then some '\r'
  else if c = '"' then some '"'
  else if c = '\\' then some '\\'
  else none

/-- An escape, after its backslash. -/
def readEscape (s : List Char) : Reading Malformation Char :=
  match s with
  | [] => stopBefore .unfinishedString []
  | c :: rest =>
    if c = 'u' then readCodePoint 4 rest
    else if c = 'U' then readCodePoint 8 rest
    else
      match namedEscape? c with
      | some named => .ok (named, rest)
      | none => stopBefore .badEscape s

/-- What follows a backslash at the end of a line: the next character that is no white space. -/
def pastContinuation? (s : List Char) : Option (List Char) :=
  (pastLineBreak? (skipBlanks s)).map skipBreaks

/-- A string on one line, from behind its opening mark; what was read of it in reverse. -/
def readShort (quote : Quote) : (steps : Nat) → (before : List Char) → List Char →
    Reading Malformation String
  | 0, _, s => stopBefore .outOfSteps s
  | _ + 1, _, [] => stopBefore .unfinishedString []
  | steps + 1, before, c :: rest =>
    if c = quote.mark then .ok (String.ofList before.reverse, rest)
    else if quote = .escaping && c = '\\' then
      match readEscape rest with
      | .error fault => .error fault
      | .ok (named, after) => readShort quote steps (named :: before) after
    else if isPlain c then readShort quote steps (c :: before) rest
    else stopBefore .controlCharacter (c :: rest)

/-- How many marks close a string that may hold two in a row, the two included. -/
def longestRun : Nat := 5

/-- A string on several lines, from behind its opening marks; what was read of it in reverse. -/
def readLong (quote : Quote) : (steps : Nat) → (before : List Char) → List Char →
    Reading Malformation String
  | 0, _, s => stopBefore .outOfSteps s
  | _ + 1, _, [] => stopBefore .unfinishedString []
  | steps + 1, before, c :: rest =>
    if c = quote.mark then
      let run := min longestRun ((c :: rest).takeWhile (· = quote.mark)).length
      let left := (c :: rest).drop run
      if run < 3 then readLong quote steps (List.replicate run c ++ before) left
      else .ok (String.ofList (List.replicate (run - 3) c ++ before).reverse, left)
    else if quote = .escaping && c = '\\' then
      match pastContinuation? rest with
      | some after => readLong quote steps before after
      | none =>
        match readEscape rest with
        | .error fault => .error fault
        | .ok (named, after) => readLong quote steps (named :: before) after
    else
      match pastLineBreak? (c :: rest) with
      | some after => readLong quote steps ('\n' :: before) after
      | none =>
        if isPlain c then readLong quote steps (c :: before) rest
        else stopBefore .controlCharacter (c :: rest)

/-- A string of either length, from behind its first mark. -/
def readString (quote : Quote) (s : List Char) : Reading Malformation String :=
  if s.take 2 = [quote.mark, quote.mark] then
    let body := s.drop 2
    let start := (pastLineBreak? body).getD body
    readLong quote (start.length + 1) [] start
  else readShort quote (s.length + 1) [] s

end Brokerage.Toml
