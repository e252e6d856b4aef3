import Brokerage.Text.Reading

/-!
Configuration documents: the ways in which a text is not one, and what parts its items. Blanks
stand within a line; a line ends at a line feed, alone or after a carriage return, or with the
text; a comment reaches to the end of its line.
-/

set_option autoImplicit false

namespace Brokerage.Toml

open Text (Reading stopBefore)

/-- The ways in which a text is not a document. -/
inductive Malformation where
  | keyExpected
  | longKey
  | equalsSignExpected
  | valueExpected
  | headingUnfinished
  | lineEndExpected
  | arrayUnfinished
  | inlineTableUnfinished
  | unfinishedString
  | controlCharacter
  | badEscape
  | badNumber
  | numberTooLarge
  | badDate
  | badTime
  | tooDeep
  | definedTwice (name : String)
  | notTable (name : String)
  | outOfSteps
  deriving DecidableEq

def Malformation.message : Malformation → String
  | .keyExpected => "expected a key"
  | .longKey => "the key has too many parts"
  | .equalsSignExpected => "expected `=`"
  | .valueExpected => "expected a value"
  | .headingUnfinished => "unfinished table heading"
  | .lineEndExpected => "expected the end of the line"
  | .arrayUnfinished => "expected `,` or `]`"
  | .inlineTableUnfinished => "expected `,` or `\x7d`"
  | .unfinishedString => "unfinished string"
  | .controlCharacter => "control character in a string"
  | .badEscape => "invalid escape"
  | .badNumber => "invalid number"
  | .numberTooLarge => "number out of range"
  | .badDate => "invalid date"
  | .badTime => "invalid time"
  | .tooDeep => "values nest too deep"
  | .definedTwice name => s!"`{name}` is defined twice"
  | .notTable name => s!"`{name}` is not a table"
  | .outOfSteps => "step limit exceeded"

/-- White space within a line. -/
def isBlank (c : Char) : Bool :=
  c = ' ' || c = '\t'

def skipBlanks (s : List Char) : List Char :=
  s.dropWhile isBlank

/-- Any character but a control character; a tab is none here. -/
def isPlain (c : Char) : Bool :=
  c = '\t' || (0x20 ≤ c.toNat && c.toNat ≠ 0x7F)

/-- What follows a line break, if the text starts with one. -/
def pastLineBreak? : List Char → Option (List Char)
  | [] => none
  | c :: rest =>
    if c = '\n' then some rest
    else if c = '\r' then
      match rest with
      | [] => none
      | d :: after => if d = '\n' then some after else none
    else none

/-- What follows white space, line breaks and, outside of strings, comments. -/
def skipLines (inComment : Bool) : List Char → List Char
  | [] => []
  | c :: rest =>
    if c = '\n' then skipLines false rest
    else if c = '\r' then
      match rest with
      | [] => [c]
      | d :: after => if d = '\n' then skipLines false after else c :: d :: after
    else if inComment then
      if isPlain c then skipLines true rest else c :: rest
    else if isBlank c then skipLines false rest
    else if c = '#' then skipLines true rest
    else c :: rest

/-- What follows white space and line breaks. -/
def skipBreaks : List Char → List Char
  | [] => []
  | c :: rest =>
    if c = '\n' || isBlank c then skipBreaks rest
    else if c = '\r' then
      match rest with
      | [] => [c]
      | d :: after => if d = '\n' then skipBreaks after else c :: d :: after
    else c :: rest

def skipComment (s : List Char) : List Char :=
  match s with
  | [] => []
  | c :: rest => if c = '#' then rest.dropWhile isPlain else c :: rest

/-- The end of a line on which nothing but blanks and a comment is left. -/
def readLineEnd (s : List Char) : Reading Malformation Unit :=
  match skipComment (skipBlanks s) with
  | [] => .ok ((), [])
  | left =>
    match pastLineBreak? left with
    | some rest => .ok ((), rest)
    | none => stopBefore .lineEndExpected left

end Brokerage.Toml
