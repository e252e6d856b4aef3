import Brokerage.Pattern.Bracket
import Brokerage.Pattern.Program

/-!
Reading patterns. Beyond the plain grammar there are looking ahead and behind, groups that are not
tried again, repetitions that give nothing back, groups whose text is asked for again, and choices
by what a group has matched. An opening brace that begins no count stands for itself. Marks set
in a group without a colon last beyond its end.
-/

set_option autoImplicit false

namespace Brokerage.Pattern

/-- The marks that are set. -/
structure Marks where
  blind : Bool := false
  manyLines : Bool := false
  dotAll : Bool := false
  swapped : Bool := false
  spaced : Bool := false

def Marks.set? (marks : Marks) (c : Char) (on : Bool) : Option Marks :=
  if c = 'i' then some { marks with blind := on }
  else if c = 'm' then some { marks with manyLines := on }
  else if c = 's' then some { marks with dotAll := on }
  else if c = 'U' then some { marks with swapped := on }
  else if c = 'x' then some { marks with spaced := on }
  else if c = 'u' && on then some marks
  else none

/-- Where the reading stands: the text ahead, the marks, the number of groups so far, the names of
groups, the groups asked for, and whether one was asked for by number. -/
structure Cursor where
  rest : List Char
  marks : Marks := {}
  groups : Nat := 0
  names : List (String × Nat) := []
  asked : List Nat := []
  byNumber : Bool := false

abbrev Reader := StateT Cursor Option

namespace Reader

def refuse {α : Type} : Reader α :=
  fun _ ↦ none

def expect {α : Type} (value? : Option α) : Reader α :=
  fun cursor ↦ value?.map fun value ↦ (value, cursor)

def ahead : Reader (List Char) :=
  return (← get).rest

def marks : Reader Marks :=
  return (← get).marks

def goTo (rest : List Char) : Reader Unit :=
  modify fun cursor ↦ { cursor with rest }

/-- What may stand between the parts of a pattern. -/
inductive Margin where
  | none
  | line
  | comment

/-- The text behind a margin: blanks and lines behind number signs where blanks do not count, and
comments in parentheses everywhere. -/
def afterMargin? (spaced : Bool) : Margin → List Char → Option (List Char)
  | .none, '(' :: '?' :: '#' :: rest => afterMargin? spaced .comment rest
  | .none, c :: rest =>
    if spaced && c = '#' then afterMargin? spaced .line rest
    else if spaced && [' ', '\t', '\n', '\r'].contains c then afterMargin? spaced .none rest
    else some (c :: rest)
  | .line, c :: rest => afterMargin? spaced (if c = '\n' then .none else .line) rest
  | .comment, '\\' :: _ :: rest => afterMargin? spaced .comment rest
  | .comment, c :: rest => afterMargin? spaced (if c = ')' then .none else .comment) rest
  | .comment, [] => none
  | .none, [] | .line, [] => some []

def skipMargin : Reader Unit := do
  goTo (← expect (afterMargin? (← marks).spaced .none (← ahead)))

/-- The next character, which the reading moves past if it is the given one. -/
def accept (c : Char) : Reader Bool := do
  match ← ahead with
  | d :: rest =>
    if c = d then
      goTo rest
      return true
    else return false
  | [] => return false

/-! ### Parts -/

def literal (c : Char) : Reader Pattern := do
  let set : Unicode.Ranges := [(c.toNat, c.toNat)]
  return .one (if (← marks).blind then Unicode.closeUnderCase set else set)

/-- An unsigned number of 64 bits. -/
def decimal? (s : List Char) : Option (Nat × List Char) :=
  let digits := s.takeWhile Char.isDigit
  let number := Text.natural digits
  if digits.isEmpty || 0xFFFFFFFFFFFFFFFF < number then none
  else some (number, s.dropWhile Char.isDigit)

/-- A count behind its opening brace; without a lower bound it is zero. -/
def count? (spaced : Bool) (s : List Char) : Option ((Nat × Option Nat) × List Char) := do
  let margin := afterMargin? spaced .none
  let s ← margin s
  let (least, s) ← if s.head? = some ',' then some (0, s) else decimal? s
  match ← margin s with
  | '\x7d' :: rest => some ((least, some least), rest)
  | ',' :: rest =>
    let rest ← margin rest
    let (most, rest) := match decimal? rest with
      | some (most, after) => (some most, after)
      | none => (none, rest)
    match ← margin rest with
    | '\x7d' :: after => some ((least, most), after)
    | _ => none
  | _ => none

/-- The counts of a repetition that follows, if one does. -/
def repetition? : Reader (Option (Nat × Option Nat)) := do
  match ← ahead with
  | '?' :: rest =>
    goTo rest
    return some (0, some 1)
  | '*' :: rest =>
    goTo rest
    return some (0, none)
  | '+' :: rest =>
    goTo rest
    return some (1, none)
  | '\x7b' :: rest =>
    match count? (← marks).spaced rest with
    | some (counts, after) =>
      goTo after
      return some counts
    | none => return none
  | _ => return none

/-- A part with the repetition that follows it. -/
def repeating (part : Pattern) : Reader Pattern := do
  skipMargin
  match ← repetition? with
  | none => return part
  | some (least, most) =>
    if !part.isRepeatable then refuse
    else
      skipMargin
      let reluctant ← accept '?'
      let eager := reluctant == (← marks).swapped
      let whole ← accept '+'
      let part := Pattern.repeated part least most eager
      return if whole then .whole part else part

/-- Asks for the text of a group. -/
def ask (index : Nat) : Reader Pattern := do
  modify fun cursor ↦ { cursor with asked := index :: cursor.asked }
  return .again index (← marks).blind

/-- Characters of a group's name. -/
def isNamePart (c : Char) : Bool :=
  c = '_' || Unicode.alphabetic.has c.toNat || Unicode.numbers.has c.toNat

/-- A name up to the given end. -/
def nameBefore (finish : List Char) : Reader String := do
  let s ← ahead
  let name := s.takeWhile isNamePart
  let rest := s.dropWhile isNamePart
  if name.isEmpty || !finish.isPrefixOf rest then refuse
  else
    goTo (rest.drop finish.length)
    return String.ofList name

/-- The number of a group that is given by how many groups it is back or ahead, up to the given
end. -/
def groupAway (finish : List Char) : Reader Nat := do
  let groups := (← get).groups
  match ← ahead with
  | sign :: rest =>
    let (distance, rest) ← expect (decimal? rest)
    if distance = 0 || !finish.isPrefixOf rest then refuse
    else
      goTo (rest.drop finish.length)
      if sign = '+' then return groups + distance
      else if sign = '-' && distance ≤ groups + 1 then return groups + 1 - distance
      else refuse
  | [] => refuse

/-- A group by its name, or else by its number or its distance, up to the given end. -/
def groupBefore (finish : List Char) : Reader Nat := do
  match ← ahead with
  | '+' :: _ | '-' :: _ => groupAway finish
  | _ =>
    let name ← nameBefore finish
    match (← get).names.lookup name with
    | some index => return index
    | none =>
      match decimal? name.toList with
      | some (index, []) => return index
      | _ => refuse

/-- A group by its number, which a pattern of `length` bytes may have. -/
def groupNumbered (length : Nat) : Reader Nat := do
  let (index, rest) ← expect (decimal? (← ahead))
  if length / 2 ≤ index then refuse
  else
    goTo rest
    modify fun cursor ↦ { cursor with byNumber := true }
    return index

/-- A character by its number, behind the letter that says how many digits it has. -/
def numbered (digits : Nat) : Reader Char := do
  skipMargin
  let s ← ahead
  let taken := s.take digits
  if taken.length = digits && taken.all Text.isHexDigit then
    goTo (s.drop digits)
    character taken
  else
    match s with
    | '\x7b' :: rest =>
      let within := rest.takeWhile Text.isHexDigit
      match rest.dropWhile Text.isHexDigit with
      | '\x7d' :: after =>
        if within.isEmpty || 8 < within.length then refuse
        else
          goTo after
          character within
      | _ => refuse
    | _ => refuse
where
  character (digits : List Char) : Reader Char :=
    let code := Text.naturalIn 16 digits
    if isScalar code then pure (Char.ofNat code) else refuse

/-- The text of a property, behind its letter. -/
def propertyName : Reader (List Char) := do
  match ← ahead with
  | '\x7b' :: rest =>
    match rest.dropWhile (· != '\x7d') with
    | _ :: after =>
      goTo after
      return rest.takeWhile (· != '\x7d')
    | [] => refuse
  | c :: rest =>
    goTo rest
    return [c]
  | [] => refuse

/-- The character of an escape letter. -/
def escapeCharacter? (c : Char) : Option Char :=
  if c = 'a' then some '\x07'
  else if c = 'e' then some '\x1b'
  else
    match controlOf? c with
    | some code => some (Char.ofNat code)
    | none => if c.toNat < 0x80 && c.isAlphanum then none else some c

def digitsOf? (c : Char) : Option Nat :=
  if c = 'x' then some 2 else if c = 'u' then some 4 else if c = 'U' then some 8 else none

/-- A character by its escape, behind the backslash. -/
def escapedCharacter (c : Char) (rest : List Char) : Reader Char := do
  goTo rest
  match digitsOf? c with
  | some digits => numbered digits
  | none => expect (escapeCharacter? c)

def edgeOf? (c : Char) : Option Edge :=
  if c = 'A' then some .start
  else if c = 'G' then some .outset
  else if c = 'K' then some .anywhere
  else if c = 'z' then some .finish
  else if c = 'Z' then some .lastLine
  else if c = 'B' then some .noWord
  else if c = '<' then some .wordStart
  else if c = '>' then some .wordFinish
  else none

/-- The edges of words by name. -/
def namedEdges : List (String × Edge) :=
  [("start", .wordStart), ("end", .wordFinish), ("start-half", .beforeWord),
   ("end-half", .afterWord)]

/-- The edge of a word, which may be named in braces. Braces without a name are a count. -/
def wordEdge : Reader Pattern := do
  match ← ahead with
  | '\x7b' :: rest =>
    if rest.head?.any fun c ↦ c.isAlpha || c = '-' then
      let name := String.ofList (rest.takeWhile (· != '\x7d'))
      goTo ((rest.dropWhile (· != '\x7d')).drop 1)
      return .edge (← expect (namedEdges.lookup name))
    else return .edge .word
  | _ => return .edge .word

/-- An escape, behind its backslash, in a pattern of `length` bytes. -/
def escape (length : Nat) : Reader Pattern := do
  match ← ahead with
  | [] => refuse
  | c :: rest =>
    if c.isDigit then ask (← groupNumbered length)
    else if c = 'b' then
      goTo rest
      wordEdge
    else if c = 'k' then
      match rest with
      | '<' :: name =>
        goTo name
        ask (← groupBefore ['>'])
      | '\'' :: name =>
        goTo name
        ask (← groupBefore ['\''])
      | _ => refuse
    else if c = 'O' then
      goTo rest
      return .one Unicode.Ranges.full
    else if c = 'p' || c = 'P' then
      goTo rest
      let set ← expect (propertySet? (String.ofList (← propertyName)))
      return .one (Bracket.settle (← marks).blind (c = 'P') set)
    else if isSetLetter c then
      goTo rest
      return .one (letterSet c)
    else if c = 'h' || c = 'H' then
      goTo rest
      let hex : Unicode.Ranges := [(0x30, 0x39), (0x41, 0x46), (0x61, 0x66)]
      return .one (if c = 'h' then hex else hex.complement)
    else
      match edgeOf? c with
      | some e =>
        goTo rest
        return .edge e
      | none => literal (← escapedCharacter c rest)

/-! ### Sets in brackets -/

/-- A character that stands for itself in brackets. -/
def plainly (c : Char) : List Char :=
  if standsForItself c then ['\\', c] else [c]

/-- An escape in brackets in the plain grammar, behind its backslash. -/
def bracketEscape : Reader (List Char) := do
  match ← ahead with
  | [] => refuse
  | c :: rest =>
    if isSetLetter c then
      goTo rest
      return ['\\', c]
    else if c = 'p' || c = 'P' then
      goTo rest
      let name ← propertyName
      return ['\\', c, '\x7b'] ++ name ++ ['\x7d']
    else if c = 'b' then
      goTo rest
      return ['\x08']
    else if c = 'h' || c = 'H' then
      goTo rest
      return if c = 'h' then "[0-9A-Fa-f]".toList else "[^0-9A-Fa-f]".toList
    else return plainly (← escapedCharacter c rest)

/-- The text of a set up to the end of its outermost brackets, with its escapes in the plain
grammar. -/
def bracketText : (steps : Nat) → (open_ : Nat) → (found : List Char) → Reader (List Char)
  | 0, _, _ => refuse
  | steps + 1, open_, found => do
    match ← ahead with
    | [] => refuse
    | c :: rest =>
      goTo rest
      if c = '\\' then bracketText steps open_ (found ++ (← bracketEscape))
      else if c = '[' then bracketText steps (open_ + 1) (found ++ [c])
      else if c = ']' then
        if open_ ≤ 1 then return found ++ [c]
        else bracketText steps (open_ - 1) (found ++ [c])
      else bracketText steps open_ (found ++ [c])

/-- A set, behind its opening bracket. -/
def bracket : Reader Pattern := do
  let caret ← accept '^'
  let closing ← accept ']'
  let head := (if caret then ['^'] else []) ++ (if closing then [']'] else [])
  let text ← bracketText ((← ahead).length + 1) 1 head
  match Bracket.read false text with
  | .ok (set, []) => return .one (← expect (set.ranges? (← marks).blind))
  | _ => refuse

/-! ### Groups -/

/-- What a group makes of its body. -/
inductive GroupKind where
  | plain
  | counted
  | named (finish : List Char)
  | look (isAhead expected : Bool)
  | whole
  | choice
  | marks
  | again

/-- The kind of a group and the text behind its head. -/
def groupKind (s : List Char) : GroupKind × List Char :=
  match s with
  | '?' :: '=' :: rest => (.look true true, rest)
  | '?' :: '!' :: rest => (.look true false, rest)
  | '?' :: '<' :: '=' :: rest => (.look false true, rest)
  | '?' :: '<' :: '!' :: rest => (.look false false, rest)
  | '?' :: '<' :: rest | '?' :: 'P' :: '<' :: rest => (.named ['>'], rest)
  | '?' :: '\'' :: rest => (.named ['\''], rest)
  | '?' :: 'P' :: '=' :: rest => (.again, rest)
  | '?' :: '>' :: rest => (.whole, rest)
  | '?' :: '(' :: rest => (.choice, rest)
  | '?' :: rest => (.marks, rest)
  | _ => (.counted, s)

/-- The number of a new group. -/
def newGroup : Reader Nat :=
  modifyGet fun cursor ↦ (cursor.groups + 1, { cursor with groups := cursor.groups + 1 })

/-- Marks up to a colon or a closing parenthesis; says whether a body follows. -/
def readMarksTo : (steps : Nat) → (some_ off : Bool) → Reader Bool
  | 0, _, _ => refuse
  | steps + 1, some_, off => do
    skipMargin
    match ← ahead with
    | [] => refuse
    | c :: rest =>
      goTo rest
      if c = ')' then
        if some_ then return false else refuse
      else if c = ':' then
        if off && !some_ then refuse else return true
      else if c = '-' then
        if off then refuse else readMarksTo steps some_ true
      else
        let set ← expect ((← marks).set? c !off)
        modify fun cursor ↦ { cursor with marks := set }
        readMarksTo steps true off

/-- Closes a group. -/
def closeGroup : Reader Unit := do
  if ← accept ')' then return () else refuse

/-- Groups may not be deeper than this. -/
def depthLimit : Nat := 64

/-- A group that keeps nothing, where it holds something together. -/
def held (body : Pattern) : Pattern :=
  match body with
  | .both _ _ | .either _ _ => .group none body
  | other => other

/-- A choice by what has been tested: the first of several alternatives, and the others. Where there
is nothing to choose, only the test is left. -/
def chosen (test body : Pattern) : Pattern :=
  match body.bare with
  | .either .nothing .nothing | .nothing => test
  | .either first second => .choice test first second
  | other => .choice test other .nothing

/-- What the test of a choice asks: where it would ask for the text of a group, whether there is
one. -/
def asTest (test : Pattern) : Pattern :=
  match test with
  | .again index _ => .heard index
  | other => other

def sequence (parts : List Pattern) : Pattern :=
  match parts with
  | [] => .nothing
  | [part] => part
  | part :: rest => .both part (sequence rest)

mutual

/-- Alternatives, up to a closing parenthesis or the end, in a pattern of `length` bytes, inside
`depth` groups. -/
def alternatives (length : Nat) : (steps : Nat) → (depth : Nat) → Reader Pattern
  | 0, _ => refuse
  | steps + 1, depth => do
    let first := sequence (← parts length steps depth)
    skipMargin
    if ← accept '|' then return .either first (← furtherAlternatives length steps depth)
    else
      let cursor ← get
      if cursor.byNumber && !cursor.names.isEmpty then refuse else return first

/-- The alternatives behind a bar. -/
def furtherAlternatives (length : Nat) : (steps : Nat) → (depth : Nat) → Reader Pattern
  | 0, _ => refuse
  | steps + 1, depth => do
    let first := sequence (← parts length steps depth)
    skipMargin
    if ← accept '|' then return .either first (← furtherAlternatives length steps depth)
    else return first

/-- Parts one after another, as long as there are any. -/
def parts (length : Nat) : (steps : Nat) → (depth : Nat) → Reader (List Pattern)
  | 0, _ => refuse
  | steps + 1, depth => do
    let before := (← ahead).length
    if before = 0 then return []
    else
      let part ← repeating (← atom length steps depth)
      if (← ahead).length = before then return []
      else
        let rest ← parts length steps depth
        return match part with
          | .nothing => rest
          | _ => part :: rest

/-- A part without its repetition. -/
def atom (length : Nat) : (steps : Nat) → (depth : Nat) → Reader Pattern
  | 0, _ => refuse
  | steps + 1, depth => do
    skipMargin
    let set ← marks
    match ← ahead with
    | [] => return .nothing
    | c :: rest =>
      if c = '+' || c = '*' || c = '?' || c = '|' || c = ')' then return .nothing
      else
        goTo rest
        if c = '.' then
          return .one (if set.dotAll then Unicode.Ranges.full
            else Unicode.Ranges.complement [(0xA, 0xA)])
        else if c = '^' then return .edge (if set.manyLines then .lineStart else .start)
        else if c = '$' then return .edge (if set.manyLines then .lineFinish else .finish)
        else if c = '(' then group length steps depth
        else if c = '\\' then escape length
        else if c = '[' then bracket
        else literal c

/-- A group, behind its opening parenthesis. -/
def group (length : Nat) : (steps : Nat) → (depth : Nat) → Reader Pattern
  | 0, _ => refuse
  | steps + 1, depth => do
    if depthLimit ≤ depth + 1 then refuse
    else
      skipMargin
      let (kind, rest) := groupKind (← ahead)
      goTo rest
      match kind with
      | .again => ask (← groupBefore [')'])
      | .marks =>
        let before ← marks
        if ← readMarksTo (rest.length + 1) false false then
          let body ← alternatives length steps (depth + 1)
          closeGroup
          modify fun cursor ↦ { cursor with marks := before }
          return held body
        else return .nothing
      | .choice =>
        let test ← choiceTest length steps (depth + 1)
        let left := (← ahead).length
        let body ← alternatives length steps (depth + 1)
        if (← ahead).length = left && !(test matches .heard _) then refuse
        else
          closeGroup
          return chosen test body
      | .named finish =>
        let index ← newGroup
        let name ← nameBefore finish
        modify fun cursor ↦ { cursor with names := (name, index) :: cursor.names }
        let body ← alternatives length steps (depth + 1)
        closeGroup
        return .group (some index) body
      | .counted =>
        let index ← newGroup
        let body ← alternatives length steps (depth + 1)
        closeGroup
        return .group (some index) body
      | other =>
        let body ← alternatives length steps (depth + 1)
        closeGroup
        return match other with
          | .look true expected => .ahead expected body
          | .look false expected => .behind expected body
          | .whole => .whole body
          | _ => held body

/-- What a choice asks, up to its closing parenthesis: whether a group has matched, or whether a
pattern does. -/
def choiceTest (length : Nat) : (steps : Nat) → (depth : Nat) → Reader Pattern
  | 0, _ => refuse
  | steps + 1, depth => do
    match ← ahead with
    | '<' :: rest =>
      goTo rest
      return asTest (← ask (← groupBefore ['>', ')']))
    | '\'' :: rest =>
      goTo rest
      return asTest (← ask (← groupBefore ['\'', ')']))
    | c :: _ =>
      if c.isDigit || c = '+' || c = '-' then return asTest (← ask (← groupBefore [')']))
      else
        let test ← alternatives length steps depth
        closeGroup
        return asTest test
    | [] => refuse

end

end Reader

/-- A pattern that was read, with the number of its groups and those whose texts it asks for. -/
structure Reading where
  pattern : Pattern
  groups : Nat
  asked : List Nat

/-- The pattern that a text is read as. -/
def read? (text : String) : Option Reading :=
  let s := text.toList
  match Reader.alternatives text.utf8ByteSize (6 * s.length + 6) 0 |>.run { rest := s } with
  | some (pattern, cursor) =>
    let known := cursor.asked.all fun index ↦ 0 < index && index ≤ cursor.groups
    if cursor.rest.isEmpty && known then some ⟨pattern, cursor.groups, cursor.asked⟩ else none
  | none => none

/-- The program of a pattern that was read. -/
def Reading.program? (reading : Reading) : Option Program :=
  Program.ofPattern? reading.groups reading.asked reading.pattern

end Brokerage.Pattern
