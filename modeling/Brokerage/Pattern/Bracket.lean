import Brokerage.Pattern.Escape
import Brokerage.Unicode.CaseOrbit

/-!
Sets in brackets. A set lists characters, ranges, escapes and further sets in brackets, and may be
cut with, lessened by or compared with another. A caret in front takes everything else. A closing
bracket in front stands for itself, so that no set is written without a member.
-/

set_option autoImplicit false

namespace Brokerage.Pattern

/-- The ways to combine two sets. -/
inductive Combination where
  | meet
  | lessen
  | differ

/-- Sets. A set by its letter comes with the number of characters behind the letter. -/
inductive Bracket where
  | nothing
  | span (low high : Nat)
  | letter (letter : Char) (left : Nat)
  | property (negated : Bool) (name : String)
  | common (negated : Bool) (name : String)
  | union (first second : Bracket)
  | combined (how : Combination) (first second : Bracket)
  | group (negated : Bool) (body : Bracket)

namespace Bracket

/-- Sets of ASCII characters that have a name between colons. -/
def commonSets : List (String × Unicode.Ranges) := [
  ("alnum", [(0x30, 0x39), (0x41, 0x5A), (0x61, 0x7A)]),
  ("alpha", [(0x41, 0x5A), (0x61, 0x7A)]),
  ("ascii", [(0, 0x7F)]),
  ("blank", [(0x9, 0x9), (0x20, 0x20)]),
  ("cntrl", [(0, 0x1F), (0x7F, 0x7F)]),
  ("digit", [(0x30, 0x39)]),
  ("graph", [(0x21, 0x7E)]),
  ("lower", [(0x61, 0x7A)]),
  ("print", [(0x20, 0x7E)]),
  ("punct", [(0x21, 0x2F), (0x3A, 0x40), (0x5B, 0x60), (0x7B, 0x7E)]),
  ("space", [(0x9, 0xD), (0x20, 0x20)]),
  ("upper", [(0x41, 0x5A)]),
  ("word", [(0x30, 0x39), (0x41, 0x5A), (0x5F, 0x5F), (0x61, 0x7A)]),
  ("xdigit", [(0x30, 0x39), (0x41, 0x46), (0x61, 0x66)])]

/-- A named set, behind its opening bracket; anything else is no such set. -/
def readCommon? (s : List Char) : Option (Bracket × List Char) :=
  let named (negated : Bool) (s : List Char) : Option (Bracket × List Char) :=
    let name := String.ofList (s.takeWhile (· != ':'))
    match s.dropWhile (· != ':') with
    | ':' :: ']' :: rest =>
      if (commonSets.lookup name).isSome then some (.common negated name, rest) else none
    | _ => none
  match s with
  | ':' :: '^' :: rest => named true rest
  | ':' :: rest => named false rest
  | _ => none

/-- An end of a range, or a whole set where no range can be. -/
def readItem (spaced : Bool) (s : List Char) : Scan Escape :=
  match s with
  | [] => .error .malformed
  | '\\' :: rest => readEscape spaced rest
  | c :: rest => .ok (.code c.toNat, rest)

/-- The set of one item, with the text behind it. -/
def ofItem? (rest : List Char) : Escape → Option Bracket
  | .code code => some (.span code code)
  | .bell => some (.span 0x7 0x7)
  | .letter c => some (.letter c rest.length)
  | .property negated name => some (.property negated name)
  | .place => none

/-- The end of a range that an item is. -/
def endOf? : Escape → Option Nat
  | .code code => some code
  | .bell => some 0x7
  | _ => none

/-- The set of the characters between two items. -/
def between? (first second : Escape) : Option Bracket :=
  match endOf? first, endOf? second with
  | some low, some high => if low ≤ high then some (.span low high) else none
  | _, _ => none

def orUnsupported (set? : Option Bracket) (rest : List Char) : Scan Bracket :=
  match set? with
  | some set => .ok (set, rest)
  | none => .error .malformed

/-- An item or a range. A hyphen before a closing bracket or another hyphen makes no range. -/
def readRange (spaced : Bool) (s : List Char) : Scan Bracket :=
  match readItem spaced s with
  | .error trouble => .error trouble
  | .ok (first, after) =>
    match skip spaced after with
    | [] => .error .malformed
    | '-' :: rest =>
      match skip spaced rest with
      | [] => .error .malformed
      | c :: tail =>
        if c = ']' || c = '-' then orUnsupported (ofItem? after first) ('-' :: rest)
        else
          match readItem spaced (c :: tail) with
          | .error trouble => .error trouble
          | .ok (second, others) => orUnsupported (between? first second) others
    | _ => orUnsupported (ofItem? after first) after

/-- What has been read of a set, with the set before it that it is to be combined with. -/
def close (pending : Option (Combination × Bracket)) (found : Bracket) : Bracket :=
  match pending with
  | some (how, first) => .combined how first found
  | none => found

/-- The leading hyphens of a set, each of which stands for itself. -/
def readHyphens (spaced : Bool) : (found : Bracket) → List Char → Bracket × List Char
  | found, [] => (found, [])
  | found, c :: rest =>
    if c = '-' then readHyphens spaced (.union found (.span 0x2D 0x2D)) rest
    else if spaced && Text.isWhiteSpace c then readHyphens spaced found rest
    else (found, c :: rest)

/-- What a combination of two characters says. -/
def combination? (s : List Char) : Option (Combination × List Char) :=
  match s with
  | '&' :: '&' :: rest => some (.meet, rest)
  | '-' :: '-' :: rest => some (.lessen, rest)
  | '~' :: '~' :: rest => some (.differ, rest)
  | _ => none

mutual

/-- The members of a set up to its closing bracket. -/
def readMembers (spaced : Bool) : (steps : Nat) → (pending : Option (Combination × Bracket)) →
    (found : Bracket) → List Char → Scan Bracket
  | 0, _, _, _ => .error .malformed
  | steps + 1, pending, found, s =>
    match skip spaced s with
    | [] => .error .malformed
    | ']' :: rest => .ok (close pending found, rest)
    | '[' :: rest =>
      match readCommon? rest with
      | some (set, after) => readMembers spaced steps pending (.union found set) after
      | none =>
        match readSet spaced steps rest with
        | .error trouble => .error trouble
        | .ok (set, after) => readMembers spaced steps pending (.union found set) after
    | c :: rest =>
      match combination? (c :: rest) with
      | some (how, after) =>
        readMembers spaced steps (some (how, close pending found)) .nothing after
      | none =>
        match readRange spaced (c :: rest) with
        | .error trouble => .error trouble
        | .ok (set, after) => readMembers spaced steps pending (.union found set) after

/-- A set, behind its opening bracket. -/
def readSet (spaced : Bool) : (steps : Nat) → List Char → Scan Bracket
  | 0, _ => .error .malformed
  | steps + 1, s =>
    let (negated, body) := match skip spaced s with
      | '^' :: rest => (true, skip spaced rest)
      | other => (false, other)
    let members := match readHyphens spaced .nothing body with
      | (.nothing, ']' :: rest) => readMembers spaced steps none (.span 0x5D 0x5D) rest
      | (found, rest) => readMembers spaced steps none found rest
    match members with
    | .error trouble => .error trouble
    | .ok (set, after) => .ok (.group negated set, after)

end

/-- The number of items that a set lists. -/
def itemCount : Bracket → Nat
  | .nothing => 0
  | .union first _ => itemCount first + 1
  | _ => 1

/-- How deep sets stand in a set; several items together are one step deeper than one. -/
def depth : Bracket → Nat
  | .union first second =>
    let own := if 1 < itemCount (.union first second) then 1 else 0
    max (depthOfItems first) (depth second) + own
  | .combined _ first second => max (depth first) (depth second) + 1
  | .group _ body => depth body + 1
  | _ => 0
where
  depthOfItems : Bracket → Nat
    | .union first second => max (depthOfItems first) (depth second)
    | other => depth other

/-- Sets may not stand deeper than this. -/
def depthLimit : Nat := 250

/-- Reads a set that a text begins with, behind its opening bracket. -/
def read (spaced : Bool) (s : List Char) : Scan Bracket :=
  match readSet spaced (2 * s.length + 2) s with
  | .ok (set, rest) => if set.depth ≤ depthLimit then .ok (set, rest) else .error .malformed
  | .error trouble => .error trouble

/-- The letters that stand for sets, each by the number of characters behind it. -/
def letters : Bracket → List Nat
  | .letter _ left => [left]
  | .union first second | .combined _ first second => letters first ++ letters second
  | .group _ body => letters body
  | _ => []

/-! ### The characters of a set -/

def Combination.apply (how : Combination) (a b : Unicode.Ranges) : Unicode.Ranges :=
  match how with
  | .meet => a.inter b
  | .lessen => a.difference b
  | .differ => a.symmetricDifference b

/-- Closes a set under case where case does not count, and then takes all else if negated. -/
def settle (blind negated : Bool) (ranges : Unicode.Ranges) : Unicode.Ranges :=
  let closed := if blind then Unicode.closeUnderCase ranges else ranges
  if negated then closed.complement else closed

/-- The characters of a set, unless it names a property that there is not. -/
def ranges? (blind : Bool) : Bracket → Option Unicode.Ranges
  | .nothing => some []
  | .span low high => some [(low, high)]
  | .letter c _ => some (letterSet c)
  | .property negated name => (propertySet? name).map (settle blind negated)
  | .common negated name => (commonSets.lookup name).map (settle blind negated)
  | .union first second => do return (← first.ranges? blind).union (← second.ranges? blind)
  | .combined how first second => do
    return Combination.apply how (settle blind false (← first.ranges? blind))
      (settle blind false (← second.ranges? blind))
  | .group negated body => (body.ranges? blind).map (settle blind negated)

end Bracket

end Brokerage.Pattern
