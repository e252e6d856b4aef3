import Brokerage.Json.Basic
import Brokerage.Text.Reading

/-!
The ways in which a text is not JSON, and what its readers share: white space, fixed words, and
that nothing may follow the value.
-/

set_option autoImplicit false

namespace Brokerage.Json

open Text (Fault Located Reading stopAt stopBefore)

/-- The ways in which a text is not JSON. Running out of steps is one of its own; a reader that
starts with enough of them for its text never reports it. -/
inductive Malformation where
  | unfinishedList
  | unfinishedObject
  | unfinishedString
  | unfinishedValue
  | colonExpected
  | commaOrBracketExpected
  | commaOrBraceExpected
  | wordExpected
  | valueExpected
  | badEscape
  | badNumber
  | numberTooLarge
  | controlCharacter
  | keyExpected
  | loneSurrogate
  | unfinishedSurrogate
  | trailingComma
  | trailingCharacters
  | tooDeep
  | outOfSteps
  deriving DecidableEq

def Malformation.message : Malformation → String
  | .unfinishedList => "EOF while parsing a list"
  | .unfinishedObject => "EOF while parsing an object"
  | .unfinishedString => "EOF while parsing a string"
  | .unfinishedValue => "EOF while parsing a value"
  | .colonExpected => "expected `:`"
  | .commaOrBracketExpected => "expected `,` or `]`"
  | .commaOrBraceExpected => "expected `,` or `\x7d`"
  | .wordExpected => "expected ident"
  | .valueExpected => "expected value"
  | .badEscape => "invalid escape"
  | .badNumber => "invalid number"
  | .numberTooLarge => "number out of range"
  | .controlCharacter => "control character (\\u0000-\\u001F) found while parsing a string"
  | .keyExpected => "key must be a string"
  | .loneSurrogate => "lone leading surrogate in hex escape"
  | .unfinishedSurrogate => "unexpected end of hex escape"
  | .trailingComma => "trailing comma"
  | .trailingCharacters => "trailing characters"
  | .tooDeep => "recursion limit exceeded"
  | .outOfSteps => "step limit exceeded"

/-- The white space of JSON, four characters only. -/
def isSpace (c : Char) : Bool :=
  c = ' ' || c = '\t' || c = '\n' || c = '\r'

def skipSpaces : List Char → List Char
  | [] => []
  | c :: rest => if isSpace c then skipSpaces rest else c :: rest

/-- The rest of a fixed word whose first letter has been taken. -/
def readWord : (expected : List Char) → List Char → Reading Malformation Unit
  | [], rest => .ok ((), rest)
  | _ :: _, [] => stopBefore .unfinishedValue []
  | e :: expected, c :: rest =>
    if c = e then readWord expected rest else stopAt .wordExpected (c :: rest)

/-- A reading of the whole text: nothing but white space may follow. -/
def toEnd {π α : Type} (surplus : π) : Reading π α → Except (Fault π) α
  | .error fault => .error fault
  | .ok (result, rest) =>
    match skipSpaces rest with
    | [] => .ok result
    | left => stopAt surplus left

/-- Reads a whole text and places what goes wrong. -/
def readAll {π α : Type} (read : List Char → Reading π α) (surplus : π) (text : String) :
    Except (Located π) α :=
  match toEnd surplus (read text.toList) with
  | .ok result => .ok result
  | .error fault => .error (fault.locate text.toList)

end Brokerage.Json
