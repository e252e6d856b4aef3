import Brokerage.Pattern.Bracket

/-!
The plain grammar of patterns: characters, sets, escapes, groups, alternatives and repetitions. A
pattern within it may be respelled; one that goes beyond it, by looking around or by asking for
what was matched before, may still be a pattern.
-/

set_option autoImplicit false

namespace Brokerage.Pattern

/-- Characters that may stand in the name of a group. -/
def isNameStart (c : Char) : Bool :=
  c = '_' || c.isAlpha || Unicode.alphabetic.has c.toNat

def isNamePart (c : Char) : Bool :=
  isNameStart c || c = '.' || c = '[' || c = ']' || c.isDigit ||
    Unicode.numbers.has c.toNat

/-- The name of a group and the text behind its closing angle bracket. -/
def readGroupName? (s : List Char) : Option (String × List Char) :=
  match s.takeWhile (· != '>'), s.dropWhile (· != '>') with
  | first :: others, _ :: rest =>
    if isNameStart first && others.all isNamePart then
      some (String.ofList (first :: others), rest)
    else none
  | _, _ => none

/-- Marks between a question mark and the end of a group's head, none of them twice. -/
def areMarks (marks : List Char) : Bool :=
  marks.all (['i', 'm', 's', 'U', 'u', 'R', 'x', '-'].contains ·) && marks.Nodup &&
    marks.getLast? != some '-'

/-- Whether blanks count behind marks, where they said nothing about it before. -/
def spacedBy (marks : List Char) (before : Bool) : Bool :=
  if (marks.takeWhile (· != '-')).contains 'x' then true
  else if marks.contains 'x' then false
  else before

/-- What the head of a group opens. -/
inductive Opening where
  | group (name? : Option String) (spaced : Bool)
  | marks (spaced : Bool)

/-- Marks, behind their question mark. -/
def readMarks (spaced : Bool) (s : List Char) : Scan Opening :=
  let ends (c : Char) : Bool := c = ':' || c = ')'
  let marks := s.takeWhile (!ends ·)
  if !areMarks marks then .error .malformed
  else
    match s.dropWhile (!ends ·) with
    | ':' :: rest => .ok (.group none (spacedBy marks spaced), rest)
    | _ :: rest =>
      if marks.isEmpty then .error .malformed else .ok (.marks (spacedBy marks spaced), rest)
    | [] => .error .malformed

/-- The head of a group, behind its opening parenthesis. -/
def readOpening (spaced : Bool) (s : List Char) : Scan Opening :=
  let named (s : List Char) : Scan Opening :=
    match readGroupName? s with
    | some (name, rest) => .ok (.group (some name) spaced, rest)
    | none => .error .malformed
  match skip spaced s with
  | '?' :: '=' :: _ | '?' :: '!' :: _ | '?' :: '<' :: '=' :: _ | '?' :: '<' :: '!' :: _ =>
    .error .beyond
  | '?' :: 'P' :: '<' :: rest | '?' :: '<' :: rest => named rest
  | '?' :: rest => readMarks spaced rest
  | rest => .ok (.group none spaced, rest)

/-- A number of 32 bits, with blanks around it. -/
def readNumber? (s : List Char) : Option (Nat × List Char) :=
  let s := s.dropWhile Text.isWhiteSpace
  let digits := s.takeWhile Char.isDigit
  let number := Text.natural digits
  if digits.isEmpty || 0xFFFFFFFF < number then none
  else some (number, (s.dropWhile Char.isDigit).dropWhile Text.isWhiteSpace)

/-- The text behind a count in braces. -/
def afterCount? (s : List Char) : Option (List Char) :=
  match readNumber? s with
  | some (_, '\x7d' :: rest) => some rest
  | some (least, ',' :: rest) =>
    match rest.dropWhile Text.isWhiteSpace with
    | '\x7d' :: after => some after
    | after =>
      match readNumber? after with
      | some (most, '\x7d' :: others) => if least ≤ most then some others else none
      | _ => none
  | _ => none

/-- The text behind the mark of reluctance that a repetition may have. -/
def afterReluctance (s : List Char) : List Char :=
  match s with
  | '?' :: rest => rest
  | _ => s

/-- What respelling a pattern has to know: whether it holds a bell, and where the letters that stand
for sets are, each told by the number of characters behind it. -/
structure Survey where
  bell : Bool := false
  letters : List Nat := []

/-- Where the reading of a pattern stands: whether blanks count for nothing, what they counted for
around each open group, whether there is something to repeat, the names of groups, and what has
been met. -/
structure Progress where
  spaced : Bool := false
  around : List Bool := []
  operand : Bool := false
  names : List String := []
  met : Survey := {}

/-- Behind a part that may be repeated and that holds the given letters. -/
def Progress.behind (progress : Progress) (letters : List Nat) : Progress :=
  { progress with
    operand := true, met := { progress.met with letters := letters ++ progress.met.letters } }

/-- Behind a bell. -/
def Progress.behindBell (progress : Progress) : Progress :=
  { progress with operand := true, met := { progress.met with bell := true } }

/-- Enters what the head of a group opens. -/
def Progress.enter (progress : Progress) (opening : Opening) : Option Progress :=
  match opening with
  | .marks spaced => some { progress with spaced, operand := false }
  | .group name? spaced =>
    if name?.any progress.names.contains then none
    else
      some { progress with
        spaced, operand := false, around := progress.spaced :: progress.around
        names := name?.toList ++ progress.names }

/-- Reads a pattern to its end. -/
def readPlain : (steps : Nat) → Progress → List Char → Except Trouble Survey
  | 0, _, _ => .error .malformed
  | steps + 1, progress, s =>
    let operand := progress.behind []
    match skip progress.spaced s with
    | [] => if progress.around.isEmpty then .ok progress.met else .error .malformed
    | c :: rest =>
      if c = '(' then
        match readOpening progress.spaced rest with
        | .error trouble => .error trouble
        | .ok (opening, after) =>
          match progress.enter opening with
          | some inside => readPlain steps inside after
          | none => .error .malformed
      else if c = ')' then
        match progress.around with
        | [] => .error .malformed
        | spaced :: around => readPlain steps { operand with spaced, around } rest
      else if c = '|' then readPlain steps { progress with operand := false } rest
      else if c = '[' then
        match Bracket.read progress.spaced rest with
        | .error trouble => .error trouble
        | .ok (set, after) => readPlain steps (progress.behind set.letters) after
      else if c = '?' || c = '*' || c = '+' then
        if progress.operand then readPlain steps operand (afterReluctance rest)
        else .error .malformed
      else if c = '\x7b' then
        match progress.operand, afterCount? rest with
        | true, some after => readPlain steps operand (afterReluctance after)
        | _, _ => .error .malformed
      else if c = '\\' then
        match readEscape progress.spaced rest with
        | .error trouble => .error trouble
        | .ok (.bell, after) => readPlain steps progress.behindBell after
        | .ok (.letter _, after) => readPlain steps (progress.behind [after.length]) after
        | .ok (_, after) => readPlain steps operand after
      else readPlain steps operand rest

/-- What a text of the plain grammar holds, if it is one. -/
def survey (s : List Char) : Except Trouble Survey :=
  readPlain (s.length + 1) {} s

end Brokerage.Pattern
