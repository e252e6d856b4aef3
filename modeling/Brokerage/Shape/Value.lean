import Brokerage.Shape.Basic

/-!
Checking a value against a shape. Members are taken in the order in which they stand, so the
first mismatch reported is the first one met; members that the shape does not know are ignored.
A number that is not finite becomes null, except where null would mean that there is no value.
-/

set_option autoImplicit false

namespace Brokerage.Shape

def wrongKind (shape : Shape) (value : Json) : Mismatch :=
  .wrongKind (Found.ofJson value) shape.expectation

mutual

/-- A free value with its objects sorted, and with null for the numbers that are not finite. -/
def settled : Json → Json
  | .real x => if x.isFinite then .real x else .null
  | .list items => .list (settledItems items)
  | .object members => .object (settledMembers [] members)
  | value => value

def settledItems : List Json → List Json
  | [] => []
  | item :: rest => settled item :: settledItems rest

def settledMembers : (before : Members) → List (String × Json) → Members
  | before, [] => before
  | before, (key, value) :: rest => settledMembers (before.insert key (settled value)) rest

end

def chosen (names : List String) (name : String) : Except Mismatch Json :=
  if names.contains name then .ok (.string name) else .error (.unknownChoice name names)

/-- A choice may be named by a text or by the only key of an object, with null as its value. -/
def chosenFrom (names : List String) : Json → Except Mismatch Json
  | .string name => chosen names name
  | .object [(name, value)] =>
    match chosen names name with
    | .error mismatch => .error mismatch
    | .ok accepted =>
      match value with
      | .null => .ok accepted
      | other => .error (.wrongKind (Found.ofJson other) "unit")
  | .object _ => .error .notOneChoice
  | other => .error (wrongKind (.choice names) other)

/-- Accepts `surplus` items beyond the fields of a record, if the dialect does. -/
def acceptSurplus (dialect : Dialect) (count : Nat) (surplus : List Json) (members : Members) :
    Except Mismatch Json :=
  if surplus.isEmpty || dialect.allowsSurplus then .ok (.object members)
  else .error (.tooManyItems count)

mutual

def decode (dialect : Dialect) (shape : Shape) : Json → Except Mismatch Json
  | .list items =>
    match shape.core with
    | .anything => .ok (.list (settledItems items))
    | .listOf item =>
      match decodeItems dialect item items with
      | .error mismatch => .error mismatch
      | .ok decoded => .ok (.list decoded)
    | .record name fields => decodeListed dialect name fields.length items.length [] fields items
    | other => .error (wrongKind other (.list items))
  | .object members =>
    match shape.core with
    | .anything => .ok (.object (settledMembers [] members))
    | .table => .ok (.object (settledMembers [] members))
    | .choice names => chosenFrom names (.object members)
    | .record _ fields =>
      match decodeNamed dialect fields [] members with
      | .error mismatch => .error mismatch
      | .ok mentioned =>
        match complete mentioned fields with
        | .error mismatch => .error mismatch
        | .ok all => .ok (.object all)
    | other => .error (wrongKind other (.object members))
  | .null =>
    if shape.admitsNull then .ok .null
    else
      match shape.core with
      | .anything => .ok .null
      | other => .error (wrongKind other .null)
  | scalar =>
    match shape.core, scalar with
    | .anything, value => .ok (if shape.admitsNull then value else settled value)
    | .text, .string s => .ok (.string s)
    | .flag, .bool b => .ok (.bool b)
    | .choice names, value => chosenFrom names value
    | other, value => .error (wrongKind other value)

def decodeItems (dialect : Dialect) (item : Shape) : List Json → Except Mismatch (List Json)
  | [] => .ok []
  | first :: rest =>
    match decode dialect item first with
    | .error mismatch => .error mismatch
    | .ok decoded =>
      match decodeItems dialect item rest with
      | .error mismatch => .error mismatch
      | .ok others => .ok (decoded :: others)

/-- The fields that a record with named fields mentions, added to those met before. -/
def decodeNamed (dialect : Dialect) (fields : List (String × Absence × Shape)) :
    (before : Members) → List (String × Json) → Except Mismatch Members
  | before, [] => .ok before
  | before, (key, value) :: rest =>
    match field? fields key with
    | none => decodeNamed dialect fields before rest
    | some shape =>
      if before.contains key then .error (.duplicateField key)
      else
        match decode dialect shape value with
        | .error mismatch => .error mismatch
        | .ok decoded => decodeNamed dialect fields (before.insert key decoded) rest

/-- A record written as the list of its `total` fields in order; the list has `count` items. -/
def decodeListed (dialect : Dialect) (name : String) (total count : Nat) :
    (before : Members) → List (String × Absence × Shape) → List Json → Except Mismatch Json
  | before, [], surplus => acceptSurplus dialect count surplus before
  | before, fields, [] =>
    match completeListed name total count before fields with
    | .error mismatch => .error mismatch
    | .ok all => .ok (.object all)
  | before, (field, _, shape) :: fields, first :: rest =>
    match decode dialect shape first with
    | .error mismatch => .error mismatch
    | .ok decoded => decodeListed dialect name total count (before.insert field decoded) fields rest

end

end Brokerage.Shape
