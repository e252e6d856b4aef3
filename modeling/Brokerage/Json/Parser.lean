import Brokerage.Json.Members
import Brokerage.Json.Numeral
import Brokerage.Json.Quotation

/-!
JSON text to value. Arrays and objects may nest 127 deep. Of two members with one key the later
wins. Each call of a reader takes one step, and a text never needs more than `stepsFor` it.
-/

set_option autoImplicit false

namespace Brokerage.Json

open Text (Located Reading stopAt stopBefore)

/-- How deep arrays and objects may nest. -/
def nestingLimit : Nat := 127

def stepsFor (s : List Char) : Nat :=
  2 * s.length + 2

/-- The value after a word has been read. -/
def readConstant (expected : List Char) (result : Json) (rest : List Char) :
    Reading Malformation Json :=
  match readWord expected rest with
  | .error fault => .error fault
  | .ok (_, after) => .ok (result, after)

/-- The colon between a key and its value. -/
def readColon (s : List Char) : Reading Malformation Unit :=
  match skipSpaces s with
  | [] => stopBefore .unfinishedObject []
  | c :: rest => if c = ':' then .ok ((), rest) else stopAt .colonExpected (c :: rest)

/-- Passes to the next item of an array, or behind its end and says so. The text starts behind the
opening bracket when `first` holds, and behind an item otherwise. -/
def nextItem (first : Bool) (s : List Char) : Reading Malformation Bool :=
  match skipSpaces s with
  | [] => stopBefore .unfinishedList []
  | c :: rest =>
    if c = ']' then .ok (false, rest)
    else if first then .ok (true, c :: rest)
    else if c = ',' then
      match skipSpaces rest with
      | [] => stopBefore .unfinishedValue []
      | d :: after =>
        if d = ']' then stopAt .trailingComma (d :: after) else .ok (true, d :: after)
    else stopAt .commaOrBracketExpected (c :: rest)

/-- Passes to the next key of an object, behind the opening quote, or behind its end. -/
def nextKey (first : Bool) (s : List Char) : Reading Malformation Bool :=
  match skipSpaces s with
  | [] => stopBefore .unfinishedObject []
  | c :: rest =>
    if c = '}' then .ok (false, rest)
    else if first then
      if c = '"' then .ok (true, rest) else stopAt .keyExpected (c :: rest)
    else if c = ',' then
      match skipSpaces rest with
      | [] => stopBefore .unfinishedValue []
      | d :: after =>
        if d = '"' then .ok (true, after)
        else if d = '}' then stopAt .trailingComma (d :: after)
        else stopAt .keyExpected (d :: after)
    else stopAt .commaOrBraceExpected (c :: rest)

mutual

def readValue : (steps levels : Nat) → List Char → Reading Malformation Json
  | 0, _, s => stopBefore .outOfSteps s
  | steps + 1, levels, s =>
    match skipSpaces s with
    | [] => stopBefore .unfinishedValue []
    | c :: rest =>
      if c = 'n' then readConstant ['u', 'l', 'l'] .null rest
      else if c = 't' then readConstant ['r', 'u', 'e'] (.bool true) rest
      else if c = 'f' then readConstant ['a', 'l', 's', 'e'] (.bool false) rest
      else if c = '-' then readNumeral true rest
      else if c.isDigit then readNumeral false (c :: rest)
      else if c = '"' then
        match readQuotation steps [] rest with
        | .error fault => .error fault
        | .ok (content, after) => .ok (.string content, after)
      else if c = '[' then
        match levels with
        | 0 => stopAt .tooDeep (c :: rest)
        | inner + 1 => readItems steps inner [] rest
      else if c = '{' then
        match levels with
        | 0 => stopAt .tooDeep (c :: rest)
        | inner + 1 => readMembers steps inner true [] rest
      else stopAt .valueExpected (c :: rest)

/-- The items of an array up to its end, those already read in reverse. -/
def readItems : (steps levels : Nat) → (before : List Json) → List Char →
    Reading Malformation Json
  | 0, _, _, s => stopBefore .outOfSteps s
  | steps + 1, levels, before, s =>
    match nextItem before.isEmpty s with
    | .error fault => .error fault
    | .ok (false, rest) => .ok (.list before.reverse, rest)
    | .ok (true, front) =>
      match readValue steps levels front with
      | .error fault => .error fault
      | .ok (item, rest) => readItems steps levels (item :: before) rest

/-- The members of an object up to its end, added to those already read. -/
def readMembers : (steps levels : Nat) → (first : Bool) → (before : Members) → List Char →
    Reading Malformation Json
  | 0, _, _, _, s => stopBefore .outOfSteps s
  | steps + 1, levels, first, before, s =>
    match nextKey first s with
    | .error fault => .error fault
    | .ok (false, rest) => .ok (.object before, rest)
    | .ok (true, front) =>
      match readQuotation steps [] front with
      | .error fault => .error fault
      | .ok (key, rest) =>
        match readColon rest with
        | .error fault => .error fault
        | .ok (_, rest) =>
          match readValue steps levels rest with
          | .error fault => .error fault
          | .ok (item, rest) => readMembers steps levels false (before.insert key item) rest

end

/-- The value that a text denotes. -/
def parse (text : String) : Except (Located Malformation) Json :=
  readAll (fun s ↦ readValue (stepsFor s) nestingLimit s) .trailingCharacters text

end Brokerage.Json
