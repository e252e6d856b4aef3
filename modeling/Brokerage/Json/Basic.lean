import Brokerage.Number.Double

/-!
JSON values. An object is a list of members; the operations of this library keep it in strictly
increasing order of its keys, by code point, so that equal objects are equal values. A number is
an integer of 64 bits, signed or unsigned, or a binary64 value.
-/

set_option autoImplicit false

namespace Brokerage

inductive Json where
  | null
  | bool (b : Bool)
  | integer (i : Int)
  | real (x : Double)
  | string (s : String)
  | list (items : List Json)
  | object (members : List (String × Json))

/-- The members of an object. -/
abbrev Members := List (String × Json)

namespace Json

instance : Inhabited Json := ⟨.null⟩

/-- The constructor of a value. -/
inductive Kind where
  | null | bool | integer | real | string | list | object
  deriving DecidableEq

def kind : Json → Kind
  | .null => .null
  | .bool _ => .bool
  | .integer _ => .integer
  | .real _ => .real
  | .string _ => .string
  | .list _ => .list
  | .object _ => .object

mutual

def decEq : (a b : Json) → Decidable (a = b)
  | .null, .null => isTrue rfl
  | .bool a, .bool b => decidable_of_iff (a = b) (by simp)
  | .integer a, .integer b => decidable_of_iff (a = b) (by simp)
  | .real a, .real b => decidable_of_iff (a = b) (by simp)
  | .string a, .string b => decidable_of_iff (a = b) (by simp)
  | .list a, .list b => match decEqItems a b with
    | isTrue h => isTrue (h ▸ rfl)
    | isFalse h => isFalse fun e ↦ h (by cases e; rfl)
  | .object a, .object b => match decEqMembers a b with
    | isTrue h => isTrue (h ▸ rfl)
    | isFalse h => isFalse fun e ↦ h (by cases e; rfl)
  | .null, .bool _ | .null, .integer _ | .null, .real _ | .null, .string _ | .null, .list _
  | .null, .object _ | .bool _, .null | .bool _, .integer _ | .bool _, .real _
  | .bool _, .string _ | .bool _, .list _ | .bool _, .object _ | .integer _, .null
  | .integer _, .bool _ | .integer _, .real _ | .integer _, .string _ | .integer _, .list _
  | .integer _, .object _ | .real _, .null | .real _, .bool _ | .real _, .integer _
  | .real _, .string _ | .real _, .list _ | .real _, .object _ | .string _, .null
  | .string _, .bool _ | .string _, .integer _ | .string _, .real _ | .string _, .list _
  | .string _, .object _ | .list _, .null | .list _, .bool _ | .list _, .integer _
  | .list _, .real _ | .list _, .string _ | .list _, .object _ | .object _, .null
  | .object _, .bool _ | .object _, .integer _ | .object _, .real _ | .object _, .string _
  | .object _, .list _ => isFalse nofun

def decEqItems : (a b : List Json) → Decidable (a = b)
  | [], [] => isTrue rfl
  | [], _ :: _ | _ :: _, [] => isFalse nofun
  | a :: as, b :: bs => match decEq a b, decEqItems as bs with
    | isTrue h, isTrue g => isTrue (h ▸ g ▸ rfl)
    | isFalse h, _ => isFalse fun e ↦ h (by cases e; rfl)
    | _, isFalse h => isFalse fun e ↦ h (by cases e; rfl)

def decEqMembers : (a b : List (String × Json)) → Decidable (a = b)
  | [], [] => isTrue rfl
  | [], _ :: _ | _ :: _, [] => isFalse nofun
  | (k, a) :: as, (l, b) :: bs => match String.decEq k l, decEq a b, decEqMembers as bs with
    | isTrue f, isTrue h, isTrue g => isTrue (f ▸ h ▸ g ▸ rfl)
    | isFalse h, _, _ => isFalse fun e ↦ h (by cases e; rfl)
    | _, isFalse h, _ => isFalse fun e ↦ h (by cases e; rfl)
    | _, _, isFalse h => isFalse fun e ↦ h (by cases e; rfl)

end

instance : DecidableEq Json := decEq

mutual

/-- The number of arrays and objects around the innermost value. -/
def depth : Json → Nat
  | .list items => depthItems items + 1
  | .object members => depthMembers members + 1
  | _ => 0

def depthItems : List Json → Nat
  | [] => 0
  | item :: rest => max item.depth (depthItems rest)

def depthMembers : List (String × Json) → Nat
  | [] => 0
  | (_, value) :: rest => max value.depth (depthMembers rest)

end

end Json

end Brokerage
