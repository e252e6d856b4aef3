import Brokerage.Toml.Assembly
import Brokerage.Toml.Moment
import Brokerage.Toml.Numeral
import Brokerage.Toml.Quotation

/-!
Keys and values. An array may run over several lines and end in a comma; an inline table stands on
one line and may not. Arrays and inline tables together nest less than eighty deep, and a key has
fewer than eighty parts. A moment has no counterpart among the values: it is an object with its
text under a name of its own.
-/

set_option autoImplicit false

namespace Brokerage.Toml

open Text (Reading stopBefore)

/-- How deep arrays and inline tables may nest, and how many parts a key may have. -/
def nestingLimit : Nat := 79

/-! ### Keys -/

/-- A character that may stand in a key without quotes. -/
def isBare (c : Char) : Bool :=
  c.isAlphanum || c = '-' || c = '_'

/-- One part of a key with the blanks around it. -/
def readPart (s : List Char) : Reading Malformation String :=
  match skipBlanks s with
  | [] => stopBefore .keyExpected []
  | c :: rest =>
    match Quote.ofMark? c with
    | some quote =>
      (readShort quote (rest.length + 1) [] rest).map fun (part, after) ↦ (part, skipBlanks after)
    | none =>
      let part := (c :: rest).takeWhile isBare
      if part.isEmpty then stopBefore .keyExpected (c :: rest)
      else .ok (String.ofList part, skipBlanks ((c :: rest).dropWhile isBare))

/-- A key of at most `limit` more parts than those already read, which stand in reverse. -/
def readParts : (limit : Nat) → (before : List String) → List Char → Reading Malformation Key
  | 0, _, s => stopBefore .longKey s
  | limit + 1, before, s =>
    match readPart s with
    | .error fault => .error fault
    | .ok (part, '.' :: rest) => readParts limit (part :: before) rest
    | .ok (part, rest) => .ok (⟨before.reverse, part⟩, rest)

def readKey (s : List Char) : Reading Malformation Key :=
  readParts nestingLimit [] s

/-- A key and the sign behind it. -/
def readKeyOfAssignment (s : List Char) : Reading Malformation Key :=
  match readKey s with
  | .error fault => .error fault
  | .ok (key, '=' :: rest) => .ok (key, skipBlanks rest)
  | .ok (_, rest) => stopBefore .equalsSignExpected rest

/-! ### Values -/

/-- The name under which an object holds the text of a moment. -/
def momentName : String := "$__toml_private_datetime"

def Moment.toJson (m : Moment) : Json :=
  .object [(momentName, .string m.text)]

/-- The value that a word stands for. -/
def readWord (word : List Char) (value : Json) (s : List Char) : Reading Malformation Json :=
  if s.take word.length = word then .ok (value, s.drop word.length)
  else stopBefore .valueExpected s

/-- A moment or a number. -/
def readQuantity (s : List Char) : Reading Malformation Json :=
  match readMoment? s with
  | some reading => reading.map fun (moment, rest) ↦ (moment.toJson, rest)
  | none => readNumber s

/-- Passes to the next item of an array, or behind its end and says so. -/
def nextItem (first : Bool) (s : List Char) : Reading Malformation Bool :=
  match skipLines false s with
  | [] => stopBefore .arrayUnfinished []
  | c :: rest =>
    if c = ']' then .ok (false, rest)
    else if first then .ok (true, c :: rest)
    else if c = ',' then
      match skipLines false rest with
      | ']' :: after => .ok (false, after)
      | left => .ok (true, left)
    else stopBefore .arrayUnfinished (c :: rest)

/-- Passes to the next key of an inline table, or behind its end and says so. -/
def nextKey (first : Bool) (s : List Char) : Reading Malformation Bool :=
  match skipBlanks s with
  | [] => stopBefore .inlineTableUnfinished []
  | c :: rest =>
    if c = '}' then .ok (false, rest)
    else if first then .ok (true, c :: rest)
    else if c = ',' then
      match skipBlanks rest with
      | '}' :: _ => stopBefore .keyExpected rest
      | left => .ok (true, left)
    else stopBefore .inlineTableUnfinished (c :: rest)

mutual

def readValue : (steps levels : Nat) → List Char → Reading Malformation Json
  | 0, _, s => stopBefore .outOfSteps s
  | _ + 1, _, [] => stopBefore .valueExpected []
  | steps + 1, levels, c :: rest =>
    match Quote.ofMark? c with
    | some quote => (readString quote rest).map fun (content, after) ↦ (.string content, after)
    | none =>
      if c = '[' then
        match levels with
        | 0 => stopBefore .tooDeep (c :: rest)
        | inner + 1 => readItems steps inner [] rest
      else if c = '{' then
        match levels with
        | 0 => stopBefore .tooDeep (c :: rest)
        | inner + 1 => readAssignments steps inner [] rest
      else if c = 't' then readWord ['t', 'r', 'u', 'e'] (.bool true) (c :: rest)
      else if c = 'f' then readWord ['f', 'a', 'l', 's', 'e'] (.bool false) (c :: rest)
      else readQuantity (c :: rest)

/-- The items of an array up to its end, those already read in reverse. -/
def readItems : (steps levels : Nat) → (before : List Json) → List Char →
    Reading Malformation Json
  | 0, _, _, s => stopBefore .outOfSteps s
  | steps + 1, levels, before, s =>
    match nextItem before.isEmpty s with
    | .error fault => .error fault
    | .ok (false, rest) => .ok (.list before.reverse, rest)
    | .ok (true, front) =>
      match readValue steps levels front with
      | .error fault => .error fault
      | .ok (item, rest) => readItems steps levels (item :: before) rest

/-- The assignments of an inline table up to its end, those already read in reverse. -/
def readAssignments : (steps levels : Nat) → (before : List (Key × Json)) → List Char →
    Reading Malformation Json
  | 0, _, _, s => stopBefore .outOfSteps s
  | steps + 1, levels, before, s =>
    match nextKey before.isEmpty s with
    | .error fault => .error fault
    | .ok (false, rest) =>
      match inlineTable [] before.reverse with
      | .error problem => stopBefore problem rest
      | .ok table => .ok (table, rest)
    | .ok (true, front) =>
      match readKeyOfAssignment front with
      | .error fault => .error fault
      | .ok (key, rest) =>
        match readValue steps levels rest with
        | .error fault => .error fault
        | .ok (content, rest) => readAssignments steps levels ((key, content) :: before) rest

end

end Brokerage.Toml
