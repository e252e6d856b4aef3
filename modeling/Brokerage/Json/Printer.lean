import Brokerage.Json.Basic
import Brokerage.Number.Shortest

/-!
The text of a JSON value, compact and indented. Only quotes, backslashes and control characters
are escaped in strings; a real number that is not finite has no text of its own and is written
as null.
-/

set_option autoImplicit false

namespace Brokerage.Json

def hexDigit (n : Nat) : Char :=
  (Nat.digitChar (n % 16))

/-- A character inside a string, the named escapes first. -/
def escapedChar (c : Char) : List Char :=
  if c = '"' then ['\\', '"']
  else if c = '\\' then ['\\', '\\']
  else if c = '\x08' then ['\\', 'b']
  else if c = '\t' then ['\\', 't']
  else if c = '\n' then ['\\', 'n']
  else if c = '\x0c' then ['\\', 'f']
  else if c = '\r' then ['\\', 'r']
  else if c.toNat < 0x20 then ['\\', 'u', '0', '0', hexDigit (c.toNat / 16), hexDigit c.toNat]
  else [c]

def stringChars (s : String) : List Char :=
  '"' :: s.toList.flatMap escapedChar ++ ['"']

def integerChars : Int → List Char
  | .ofNat n => Nat.toDigits 10 n
  | .negSucc n => '-' :: Nat.toDigits 10 (n + 1)

/-- The text of a value that holds no other. -/
def scalarChars : Json → List Char
  | .null => ['n', 'u', 'l', 'l']
  | .bool true => ['t', 'r', 'u', 'e']
  | .bool false => ['f', 'a', 'l', 's', 'e']
  | .integer i => integerChars i
  | .real x => if x.isFinite then x.chars else ['n', 'u', 'l', 'l']
  | .string s => stringChars s
  | .list _ => []
  | .object _ => []

mutual

/-- The compact text, without white space. -/
def chars : Json → List Char
  | .list items => '[' :: itemsChars items ++ [']']
  | .object members => '{' :: membersChars members ++ ['}']
  | scalar => scalarChars scalar

def itemsChars : List Json → List Char
  | [] => []
  | [item] => item.chars
  | item :: next :: rest => item.chars ++ ',' :: itemsChars (next :: rest)

def membersChars : List (String × Json) → List Char
  | [] => []
  | [(key, value)] => stringChars key ++ ':' :: value.chars
  | (key, value) :: next :: rest =>
    stringChars key ++ ':' :: value.chars ++ ',' :: membersChars (next :: rest)

end

def text (j : Json) : String :=
  String.ofList j.chars

/-- A line break and the indentation of the given level, two spaces each. -/
def lineBreak (level : Nat) : List Char :=
  '\n' :: List.replicate (2 * level) ' '

mutual

/-- The text with one item or member to a line. Empty arrays and objects stay closed. -/
def indentedChars : Json → (level : Nat) → List Char
  | .list [], _ => ['[', ']']
  | .list (item :: rest), level =>
    '[' :: indentedItems (item :: rest) (level + 1) ++ lineBreak level ++ [']']
  | .object [], _ => ['{', '}']
  | .object (member :: rest), level =>
    '{' :: indentedMembers (member :: rest) (level + 1) ++ lineBreak level ++ ['}']
  | scalar, _ => scalarChars scalar

def indentedItems : List Json → (level : Nat) → List Char
  | [], _ => []
  | [item], level => lineBreak level ++ item.indentedChars level
  | item :: next :: rest, level =>
    lineBreak level ++ item.indentedChars level ++ ',' :: indentedItems (next :: rest) level

def indentedMembers : List (String × Json) → (level : Nat) → List Char
  | [], _ => []
  | [(key, value)], level =>
    lineBreak level ++ stringChars key ++ ':' :: ' ' :: value.indentedChars level
  | (key, value) :: next :: rest, level =>
    lineBreak level ++ stringChars key ++ ':' :: ' ' :: value.indentedChars level ++
      ',' :: indentedMembers (next :: rest) level

end

def indentedText (j : Json) : String :=
  String.ofList (j.indentedChars 0)

end Brokerage.Json
