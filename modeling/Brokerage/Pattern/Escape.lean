import Brokerage.Text.Blank
import Brokerage.Unicode.Lookup

/-!
Escapes of the plain grammar of patterns. A backslash gives a character by its letter or number,
a set of characters by a letter or by the name of a property, or a place in the text. Where blanks
do not count, they may stand between the parts of an escape.
-/

set_option autoImplicit false

namespace Brokerage.Pattern

/-- Why a text is outside the plain grammar: it looks around or asks for what was matched before,
which is beyond the grammar, or it is no pattern. Of an escape that means nothing, the text from
its backslash on is kept. -/
inductive Trouble where
  | unknownEscape (rest : List Char)
  | beyond
  | malformed

/-- What is read and what is left, or what is in the way. -/
abbrev Scan (α : Type) := Except Trouble (α × List Char)

inductive Escape where
  | code (code : Nat)
  | bell
  | letter (letter : Char)
  | property (negated : Bool) (name : String)
  | place

/-- Skips blanks and comments, which a number sign begins and a line feed ends. -/
def skipBlank : (inComment : Bool) → List Char → List Char
  | _, [] => []
  | true, c :: rest => skipBlank (c != '\n') rest
  | false, c :: rest =>
    if Text.isWhiteSpace c then skipBlank false rest
    else if c = '#' then skipBlank true rest
    else c :: rest

/-- Skips blanks where they do not count. -/
def skip (spaced : Bool) (s : List Char) : List Char :=
  if spaced then skipBlank false s else s

/-- A number that is the code of a character. -/
def isScalar (code : Nat) : Bool :=
  code < 0xD800 || (0xDFFF < code && code ≤ Unicode.Ranges.top)

/-- A character by exactly so many hexadecimal digits. -/
def readHex (spaced : Bool) : (digits : Nat) → (code : Nat) → List Char → Scan Escape
  | 0, code, s => if isScalar code then .ok (.code code, s) else .error .malformed
  | _ + 1, _, [] => .error .malformed
  | digits + 1, code, c :: rest =>
    if Text.isHexDigit c then
      readHex spaced digits (16 * code + Text.digitValue c) (skip spaced rest)
    else .error .malformed

/-- The text up to a closing brace, blanks left out where they do not count. -/
def readBraces (spaced : Bool) (s : List Char) : Scan (List Char) :=
  let within := s.takeWhile (· != '\x7d')
  match s.dropWhile (· != '\x7d') with
  | [] => .error .malformed
  | _ :: rest => .ok (if spaced then within.filter (!Text.isWhiteSpace ·) else within, rest)

/-- A character by its number, behind the letter that says how many digits it has. -/
def readNumbered (spaced : Bool) (digits : Nat) (s : List Char) : Scan Escape :=
  match s with
  | '\x7b' :: rest =>
    match readBraces spaced rest with
    | .error trouble => .error trouble
    | .ok (within, after) =>
      let code := Text.naturalIn 16 within
      if !within.isEmpty && within.all Text.isHexDigit && isScalar code then
        .ok (.code code, after)
      else .error .malformed
  | _ => readHex spaced digits 0 s

/-- A set by the name of a property, which is one letter or stands in braces. -/
def readProperty (spaced negated : Bool) (s : List Char) : Scan Escape :=
  match s with
  | [] => .error .malformed
  | '\x7b' :: rest =>
    match readBraces spaced rest with
    | .error trouble => .error trouble
    | .ok (within, after) => .ok (.property negated (String.ofList within), after)
  | c :: rest =>
    if c = '\\' then .error .malformed
    else .ok (.property negated (String.singleton c), rest)

/-- The edges of words that have a name. -/
def wordEdgeNames : List String := ["start", "end", "start-half", "end-half"]

/-- What may follow the escape of a word edge: the name of an edge in braces. Braces that begin
with something else are a count. -/
def readEdgeName (spaced : Bool) (s : List Char) : Scan Escape :=
  let named (c : Char) : Bool := c.isAlpha || c = '-'
  match s with
  | '\x7b' :: rest =>
    match skip spaced rest with
    | [] => .error .malformed
    | c :: tail =>
      if !named c then .ok (.place, s)
      else
        match readBraces spaced (c :: tail) with
        | .error trouble => .error trouble
        | .ok (within, after) =>
          if wordEdgeNames.contains (String.ofList within) then .ok (.place, after)
          else .error .malformed
  | _ => .ok (.place, s)

/-- The control character of a letter. -/
def controlOf? (letter : Char) : Option Nat :=
  if letter = 't' then some 0x9
  else if letter = 'n' then some 0xA
  else if letter = 'v' then some 0xB
  else if letter = 'f' then some 0xC
  else if letter = 'r' then some 0xD
  else none

def isSetLetter (c : Char) : Bool :=
  ['d', 'D', 's', 'S', 'w', 'W'].contains c

/-- Whether a backslash makes a character stand for itself. -/
def standsForItself (c : Char) : Bool :=
  c.toNat < 0x80 && !c.isAlphanum && c != '<' && c != '>'

/-- An escape, behind its backslash. -/
def readEscape (spaced : Bool) (s : List Char) : Scan Escape :=
  match s with
  | [] => .error .malformed
  | c :: rest =>
    if c.isDigit then .error .beyond
    else if c = 'x' then readNumbered spaced 2 (skip spaced rest)
    else if c = 'u' then readNumbered spaced 4 (skip spaced rest)
    else if c = 'U' then readNumbered spaced 8 (skip spaced rest)
    else if c = 'p' || c = 'P' then readProperty spaced (c = 'P') (skip spaced rest)
    else if isSetLetter c then .ok (.letter c, rest)
    else if standsForItself c then .ok (.code c.toNat, rest)
    else if c = 'a' then .ok (.bell, rest)
    else if c = 'b' then readEdgeName spaced rest
    else if c = 'A' || c = 'z' || c = 'B' || c = '<' || c = '>' then .ok (.place, rest)
    else
      match controlOf? c with
      | some code => .ok (.code code, rest)
      | none => .error (.unknownEscape ('\\' :: c :: rest))

/-! ### The sets that escapes stand for -/

/-- The set of a letter. -/
def letterSet (letter : Char) : Unicode.Ranges :=
  if letter = 'd' then Unicode.digits
  else if letter = 'D' then Unicode.digits.complement
  else if letter = 's' then Unicode.spaces
  else if letter = 'S' then Unicode.spaces.complement
  else if letter = 'w' then Unicode.wordParts
  else Unicode.wordParts.complement

/-- The set of a property, which may be given with a value. -/
def propertySet? (name : String) : Option Unicode.Ranges :=
  match name.splitOn "!=" with
  | first :: second :: rest =>
    (Unicode.valued? first ("!=".intercalate (second :: rest))).map Unicode.Ranges.complement
  | _ =>
    let mark := if name.contains ':' then ":" else "="
    match name.splitOn mark with
    | first :: second :: rest => Unicode.valued? first (mark.intercalate (second :: rest))
    | _ => Unicode.named? name

end Brokerage.Pattern
