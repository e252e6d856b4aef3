import Brokerage.Json.Members

/-!
Looking into a value without asking first what it is: a member that is missing reads as null,
and a value of another kind than the one asked for reads as the empty value of that kind.
-/

set_option autoImplicit false

namespace Brokerage.Json

def membersOf : Json → Members
  | .object members => members
  | _ => []

def itemsOf : Json → List Json
  | .list items => items
  | _ => []

def text? : Json → Option String
  | .string s => some s
  | _ => none

def textOf (j : Json) : String :=
  j.text?.getD ""

def flagOf : Json → Bool
  | .bool b => b
  | _ => false

def field (j : Json) (name : String) : Json :=
  (j.membersOf.get? name).getD .null

def textAt (j : Json) (name : String) : String :=
  (j.field name).textOf

def textAt? (j : Json) (name : String) : Option String :=
  (j.field name).text?

def flagAt (j : Json) (name : String) : Bool :=
  (j.field name).flagOf

def itemsAt (j : Json) (name : String) : List Json :=
  (j.field name).itemsOf

def textsAt (j : Json) (name : String) : List String :=
  (j.itemsAt name).map textOf

def membersAt (j : Json) (name : String) : Members :=
  (j.field name).membersOf

/-- Anything but null. -/
def present? : Json → Option Json
  | .null => none
  | j => some j

/-- A text that may be absent. -/
def ofText? : Option String → Json
  | none => .null
  | some s => .string s

def ofTexts (texts : List String) : Json :=
  .list (texts.map .string)

/-- An object from its members in any order. -/
def record (entries : List (String × Json)) : Json :=
  .object (Members.ofList entries)

end Brokerage.Json
