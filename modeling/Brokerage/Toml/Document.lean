import Brokerage.Toml.Value

/-!
Whole documents. A line holds an assignment, a heading, or nothing; a mark of the byte order may
stand at the front of the text.
-/

set_option autoImplicit false

namespace Brokerage.Toml

open Text (Located Reading stopBefore)

/-- The key of a heading, from behind its opening brackets. -/
def readHeading (closing : List Char) (s : List Char) : Reading Malformation Key :=
  match readKey s with
  | .error fault => .error fault
  | .ok (key, left) =>
    if left.take closing.length = closing then .ok (key, left.drop closing.length)
    else stopBefore .headingUnfinished left

/-- An assignment or a heading, the end of its line left out. -/
def readStatement (s : List Char) : Reading Malformation Statement :=
  match s with
  | '[' :: '[' :: rest =>
    (readHeading [']', ']'] rest).map fun (key, after) ↦ (.elementHeading key, after)
  | '[' :: rest => (readHeading [']'] rest).map fun (key, after) ↦ (.tableHeading key, after)
  | _ =>
    match readKeyOfAssignment s with
    | .error fault => .error fault
    | .ok (key, rest) =>
      (readValue (2 * rest.length + 2) nestingLimit rest).map fun (content, after) ↦
        (.assignment key content, after)

/-- The lines of a text, added to a draft. -/
def readLines : (steps : Nat) → Draft → List Char → Reading Malformation Draft
  | 0, _, s => stopBefore .outOfSteps s
  | steps + 1, draft, s =>
    match skipLines false s with
    | [] => .ok (draft, [])
    | front =>
      match readStatement front with
      | .error fault => .error fault
      | .ok (statement, rest) =>
        match readLineEnd rest with
        | .error fault => .error fault
        | .ok (_, after) =>
          match draft.add statement with
          | .error problem => stopBefore problem front
          | .ok longer => readLines steps longer after

/-- The mark of the byte order. -/
def byteOrderMark : Char := '\uFEFF'

def skipByteOrderMark (s : List Char) : List Char :=
  match s with
  | [] => []
  | c :: rest => if c = byteOrderMark then rest else c :: rest

/-- The object that a text denotes, with its members in the order of the document. -/
def parse (text : String) : Except (Located Malformation) Json :=
  let s := skipByteOrderMark text.toList
  match readLines (s.length + 1) {} s with
  | .error fault => .error (fault.locate text.toList)
  | .ok (draft, _) => .ok draft.toJson

end Brokerage.Toml
