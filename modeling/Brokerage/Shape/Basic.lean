import Brokerage.Json.Members
import Brokerage.Json.Printer
import Brokerage.Number.Shortest
import Brokerage.Text.Quoted

/-!
Shapes of documents. A shape says what a value must look like to stand for a record, a list, a
text and so on; checking a value against a shape either fails with a mismatch or yields the
value in canonical form, with every field of every record present under its name.
-/

set_option autoImplicit false

namespace Brokerage

/-- What holds when a record does not mention a field: it may not be left out, it has a value of
its own, or it is null. A field of the last kind may be left out only where fields are named. -/
inductive Absence where
  | refused
  | filled (value : Json)
  | nullWhereNamed

inductive Shape where
  | text
  | flag
  | anything
  | table
  | optional (content : Shape)
  | listOf (item : Shape)
  | choice (names : List String)
  | record (name : String) (fields : List (String × Absence × Shape))

/-- What was found in place of the value that a shape asks for. -/
inductive Found where
  | null
  | boolean (b : Bool)
  | integer (i : Int)
  | real (x : Double)
  | text (s : String)
  | sequence
  | map
  deriving DecidableEq

namespace Found

def ofJson : Json → Found
  | .null => .null
  | .bool b => .boolean b
  | .integer i => .integer i
  | .real x => .real x
  | .string s => .text s
  | .list _ => .sequence
  | .object _ => .map

def describe (realText : Double → String) : Found → String
  | .null => "null"
  | .boolean b => s!"boolean `{b}`"
  | .integer i => s!"integer `{String.ofList (Json.integerChars i)}`"
  | .real x => s!"floating point `{realText x}`"
  | .text s => "string " ++ Text.quoted s
  | .sequence => "sequence"
  | .map => "map"

end Found

/-- The ways in which a value differs from its shape. -/
inductive Mismatch where
  | wrongKind (found : Found) (expected : String)
  | missingField (name : String)
  | duplicateField (name : String)
  | tooFewItems (count : Nat) (record : String) (fields : Nat)
  | tooManyItems (count : Nat)
  | unknownChoice (name : String) (names : List String)
  | notOneChoice
  deriving DecidableEq

/-- What differs between the formats whose values are checked against shapes: how a real number is
shown in a complaint, and whether a record written as a list may have items to spare. -/
structure Dialect where
  realText : Double → String
  allowsSurplus : Bool

/-- Values of JSON. -/
def Dialect.json : Dialect :=
  ⟨fun x ↦ String.ofList x.chars, false⟩

/-- Values of configuration documents. -/
def Dialect.document : Dialect :=
  ⟨Double.positionalText, true⟩

namespace Mismatch

def backquoted (name : String) : String :=
  s!"`{name}`"

/-- The choices on offer, as a complaint lists them. -/
def offer : List String → String
  | [] => "there are no variants"
  | [name] => s!"expected {backquoted name}"
  | [first, second] => s!"expected {backquoted first} or {backquoted second}"
  | names => "expected one of " ++ ", ".intercalate (names.map backquoted)

def message (realText : Double → String) : Mismatch → String
  | .wrongKind found expected =>
    s!"invalid type: {found.describe realText}, expected {expected}"
  | .missingField name => s!"missing field {backquoted name}"
  | .duplicateField name => s!"duplicate field {backquoted name}"
  | .tooFewItems count record fields =>
    let unit := if fields = 1 then "element" else "elements"
    s!"invalid length {count}, expected struct {record} with {fields} {unit}"
  | .tooManyItems count => s!"invalid length {count}, expected fewer elements in array"
  | .unknownChoice name names => s!"unknown variant {backquoted name}, {offer names}"
  | .notOneChoice => "invalid value: map, expected map with a single key"

end Mismatch

namespace Shape

/-- The shape below any layers that admit null. -/
def core : Shape → Shape
  | .optional content => content.core
  | shape => shape

def admitsNull : Shape → Bool
  | .optional _ => true
  | _ => false

/-- What a complaint says was expected. -/
def expectation : Shape → String
  | .text => "a string"
  | .flag => "a boolean"
  | .anything => "any value"
  | .table => "a map"
  | .optional content => content.expectation
  | .listOf _ => "a sequence"
  | .choice _ => "string or map"
  | .record name _ => "struct " ++ name

def field? (fields : List (String × Absence × Shape)) (name : String) : Option Shape :=
  (fields.lookup name).map Prod.snd

end Shape

namespace Absence

/-- The value of a field that a record with named fields leaves out. -/
def whereNamed (name : String) : Absence → Except Mismatch Json
  | .refused => .error (.missingField name)
  | .filled value => .ok value
  | .nullWhereNamed => .ok .null

/-- The value of a field beyond the end of a record written as a list. -/
def whereListed? : Absence → Option Json
  | .filled value => some value
  | _ => none

end Absence

namespace Shape

/-- Completes the fields of a record from those that were mentioned. -/
def complete (mentioned : Members) :
    List (String × Absence × Shape) → Except Mismatch Members
  | [] => .ok mentioned
  | (name, absence, _) :: rest =>
    match mentioned.get? name with
    | some _ => complete mentioned rest
    | none =>
      match absence.whereNamed name with
      | .error mismatch => .error mismatch
      | .ok value =>
        match complete mentioned rest with
        | .error mismatch => .error mismatch
        | .ok members => .ok (members.insert name value)

/-- Completes a record of the given name, written as a list of `count` items, by the fields that
the list did not reach. -/
def completeListed (name : String) (total count : Nat) :
    (before : Members) → List (String × Absence × Shape) → Except Mismatch Members
  | before, [] => .ok before
  | before, (field, absence, _) :: rest =>
    match absence.whereListed? with
    | none => .error (.tooFewItems count name total)
    | some value => completeListed name total (count + 1) (before.insert field value) rest

end Shape

end Brokerage
