import Brokerage.Json.Skip
import Brokerage.Shape.Basic

/-!
Checking a JSON text against a shape while it is read. What a shape does not ask for is passed
over by the grammar alone, so it may nest without limit; what it asks for is read as a value. A
mismatch is placed where the reading stands when it is noticed, and one of a record or list as
a whole is placed behind its closing bracket if that comes next.
-/

set_option autoImplicit false

namespace Brokerage.Shape

open Json (Malformation)
open Text (Fault Located Reading stopAt stopBefore)

/-- A text is not JSON, or it is and has the wrong shape. -/
inductive Problem where
  | malformed (problem : Malformation)
  | mismatched (mismatch : Mismatch)
  deriving DecidableEq

def Problem.message : Problem → String
  | .malformed problem => problem.message
  | .mismatched mismatch => mismatch.message Dialect.json.realText

section
variable {α β : Type}

/-- A reading of the grammar as a step of a reading by shape. -/
def plainly (reading : Reading Malformation α) : Reading Problem α :=
  match reading with
  | .ok result => .ok result
  | .error fault => .error (fault.map .malformed)

def mismatchBefore (mismatch : Mismatch) (rest : List Char) : Except (Fault Problem) α :=
  stopBefore (.mismatched mismatch) rest

/-- A mismatch of an array or object as a whole, behind its end if that comes next. -/
def mismatchBehind (closing : Char) (mismatch : Mismatch) (rest : List Char) :
    Except (Fault Problem) α :=
  match Json.skipSpaces rest with
  | [] => mismatchBefore mismatch []
  | c :: after => mismatchBefore mismatch (if c = closing then after else c :: after)

end

/-- What a text has in place of the value that was expected. A scalar is read to its end before the
complaint; an array or object is not entered. -/
def complain {α : Type} (steps : Nat) (expected : String) (s : List Char) :
    Except (Fault Problem) α :=
  match s with
  | [] => stopBefore (.malformed .unfinishedValue) []
  | c :: _ =>
    if c = '[' then mismatchBefore (.wrongKind .sequence expected) s
    else if c = '{' then mismatchBefore (.wrongKind .map expected) s
    else
      match plainly (Json.readValue steps 0 s) with
      | .error fault => .error fault
      | .ok (value, rest) => mismatchBefore (.wrongKind (Found.ofJson value) expected) rest

/-- Ends a record written as a list. -/
def endItems {α : Type} (result : α) (s : List Char) : Reading Problem α :=
  match Json.skipSpaces s with
  | [] => stopBefore (.malformed .unfinishedList) []
  | c :: rest =>
    if c = ']' then .ok (result, rest)
    else if c = ',' then
      match Json.skipSpaces rest with
      | d :: after =>
        stopAt (.malformed (if d = ']' then .trailingComma else .trailingCharacters))
          (d :: after)
      | [] => stopAt (.malformed .trailingCharacters) []
    else stopAt (.malformed .trailingCharacters) (c :: rest)

/-- The name of a choice, from behind its opening quote. -/
def readName (steps : Nat) (names : List String) (s : List Char) : Reading Problem Json :=
  match plainly (Json.readQuotation steps [] s) with
  | .error fault => .error fault
  | .ok (name, rest) =>
    if names.contains name then .ok (.string name, rest)
    else mismatchBefore (.unknownChoice name names) rest

/-- A value that must be null. -/
def readNull (steps : Nat) (s : List Char) : Reading Problem Unit :=
  match Json.skipSpaces s with
  | [] => stopBefore (.malformed .unfinishedValue) []
  | c :: rest =>
    if c = 'n' then plainly (Json.readWord ['u', 'l', 'l'] rest)
    else complain steps "unit" (c :: rest)

/-- The only member of an object that names a choice, from behind the opening brace. -/
def readNamedChoice (steps : Nat) (names : List String) (s : List Char) : Reading Problem Json :=
  match Json.skipSpaces s with
  | [] => stopBefore (.malformed .unfinishedValue) []
  | c :: rest =>
    if c = '"' then
      match readName steps names rest with
      | .error fault => .error fault
      | .ok (accepted, behindName) =>
        match plainly (Json.readColon behindName) with
        | .error fault => .error fault
        | .ok (_, behindColon) =>
          match readNull steps behindColon with
          | .error fault => .error fault
          | .ok (_, behindNull) =>
            match Json.skipSpaces behindNull with
            | [] => stopBefore (.malformed .unfinishedObject) []
            | d :: after =>
              if d = '}' then .ok (accepted, after)
              else stopBefore (.malformed .valueExpected) (d :: after)
    else complain steps "variant identifier" (c :: rest)

def readChoice (steps levels : Nat) (names : List String) (s : List Char) :
    Reading Problem Json :=
  match s with
  | [] => stopBefore (.malformed .unfinishedValue) []
  | c :: rest =>
    if c = '"' then readName steps names rest
    else if c = '{' then
      match levels with
      | 0 => stopAt (.malformed .tooDeep) s
      | _ + 1 => readNamedChoice steps names rest
    else stopAt (.malformed .valueExpected) s

/-- A text, and nothing else. -/
def readText (steps : Nat) (s : List Char) : Reading Problem Json :=
  match s with
  | '"' :: rest =>
    match plainly (Json.readQuotation steps [] rest) with
    | .error fault => .error fault
    | .ok (content, after) => .ok (.string content, after)
  | _ => complain steps Shape.text.expectation s

def readFlag (steps : Nat) (s : List Char) : Reading Problem Json :=
  match s with
  | 't' :: rest => plainly (Json.readConstant ['r', 'u', 'e'] (.bool true) rest)
  | 'f' :: rest => plainly (Json.readConstant ['a', 'l', 's', 'e'] (.bool false) rest)
  | _ => complain steps Shape.flag.expectation s

/-- A free object. -/
def readTable (steps levels : Nat) (s : List Char) : Reading Problem Json :=
  match s with
  | '{' :: _ => plainly (Json.readValue steps levels s)
  | _ => complain steps Shape.table.expectation s

/-- A member that no field asks for, from behind its key. -/
def skipMember (steps : Nat) (s : List Char) : Reading Problem Unit :=
  match plainly (Json.readColon s) with
  | .error fault => .error fault
  | .ok (_, behindColon) => plainly (Json.skipValue steps behindColon)

/-- Ends a record whose fields were named. -/
def closeNamed (fields : List (String × Absence × Shape)) (mentioned : Members)
    (rest : List Char) : Reading Problem Json :=
  match complete mentioned fields with
  | .ok all => .ok (.object all, rest)
  | .error mismatch => mismatchBefore mismatch rest

/-- Ends a record written as a list of `count` items, behind its bracket. -/
def closeListed (name : String) (total count : Nat) (fields : List (String × Absence × Shape))
    (before : Members) (rest : List Char) : Reading Problem Json :=
  match completeListed name total count before fields with
  | .ok all => .ok (.object all, rest)
  | .error mismatch => mismatchBefore mismatch rest

mutual

def read : (steps levels : Nat) → Shape → List Char → Reading Problem Json
  | 0, _, _, s => stopBefore (.malformed .outOfSteps) s
  | steps + 1, levels, shape, s =>
    match Json.skipSpaces s with
    | [] => stopBefore (.malformed .unfinishedValue) []
    | c :: rest =>
      if c = 'n' && shape.admitsNull then
        plainly (Json.readConstant ['u', 'l', 'l'] .null rest)
      else
        match shape.core with
        | .text => readText steps (c :: rest)
        | .flag => readFlag steps (c :: rest)
        | .anything => plainly (Json.readValue steps levels (c :: rest))
        | .table => readTable steps levels (c :: rest)
        | .choice names => readChoice steps levels names (c :: rest)
        | .optional _ => complain steps shape.expectation (c :: rest)
        | .listOf item =>
          if c = '[' then
            match levels with
            | 0 => stopAt (.malformed .tooDeep) (c :: rest)
            | inner + 1 => readItems steps inner item [] rest
          else complain steps shape.expectation (c :: rest)
        | .record name fields =>
          if c = '[' then
            match levels with
            | 0 => stopAt (.malformed .tooDeep) (c :: rest)
            | inner + 1 => readListed steps inner name fields.length 0 [] fields rest
          else if c = '{' then
            match levels with
            | 0 => stopAt (.malformed .tooDeep) (c :: rest)
            | inner + 1 => readNamed steps inner fields true [] rest
          else complain steps shape.expectation (c :: rest)

/-- The items of a list up to its end, those already read in reverse. -/
def readItems : (steps levels : Nat) → (item : Shape) → (before : List Json) → List Char →
    Reading Problem Json
  | 0, _, _, _, s => stopBefore (.malformed .outOfSteps) s
  | steps + 1, levels, item, before, s =>
    match plainly (Json.nextItem before.isEmpty s) with
    | .error fault => .error fault
    | .ok (false, rest) => .ok (.list before.reverse, rest)
    | .ok (true, front) =>
      match read steps levels item front with
      | .error fault => .error fault
      | .ok (value, rest) => readItems steps levels item (value :: before) rest

/-- The fields of a record written as a list, `count` of which have been read. -/
def readListed : (steps levels : Nat) → (name : String) → (total count : Nat) →
    (before : Members) → List (String × Absence × Shape) → List Char → Reading Problem Json
  | 0, _, _, _, _, _, _, s => stopBefore (.malformed .outOfSteps) s
  | _ + 1, _, _, _, _, before, [], s => endItems (.object before) s
  | steps + 1, levels, name, total, count, before, (field, absence, shape) :: fields, s =>
    match plainly (Json.nextItem (count == 0) s) with
    | .error fault => .error fault
    | .ok (false, rest) =>
      closeListed name total count ((field, absence, shape) :: fields) before rest
    | .ok (true, front) =>
      match read steps levels shape front with
      | .error fault => .error fault
      | .ok (value, rest) =>
        readListed steps levels name total (count + 1) (before.insert field value) fields rest

/-- The members of a record up to its end; those that stand for a field are collected. -/
def readNamed : (steps levels : Nat) → (fields : List (String × Absence × Shape)) →
    (first : Bool) → (before : Members) → List Char → Reading Problem Json
  | 0, _, _, _, _, s => stopBefore (.malformed .outOfSteps) s
  | steps + 1, levels, fields, first, before, s =>
    match plainly (Json.nextKey first s) with
    | .error fault => .error fault
    | .ok (false, rest) => closeNamed fields before rest
    | .ok (true, front) =>
      match plainly (Json.readQuotation steps [] front) with
      | .error fault => .error fault
      | .ok (key, behindKey) =>
        match field? fields key with
        | none =>
          match skipMember steps behindKey with
          | .error fault => .error fault
          | .ok (_, rest) => readNamed steps levels fields false before rest
        | some shape =>
          if before.contains key then mismatchBehind '}' (.duplicateField key) behindKey
          else
            match plainly (Json.readColon behindKey) with
            | .error fault => .error fault
            | .ok (_, behindColon) =>
              match read steps levels shape behindColon with
              | .error fault => .error fault
              | .ok (value, rest) =>
                readNamed steps levels fields false (before.insert key value) rest

end

/-- The value that a text denotes, in the canonical form of the shape. -/
def parse (shape : Shape) (text : String) : Except (Located Problem) Json :=
  Json.readAll (fun s ↦ read (Json.stepsFor s) Json.nestingLimit shape s)
    (.malformed .trailingCharacters) text

end Brokerage.Shape
