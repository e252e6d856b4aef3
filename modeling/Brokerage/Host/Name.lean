import Brokerage.Host.Direction
import Brokerage.Host.Label
import Brokerage.Host.Punycode
import Brokerage.Text.Parts

/-!
Names of hosts: labels with dots between them. In a name in ASCII a label may stand for one beyond
ASCII, which must then be in order itself; a name beyond ASCII is one that can be written so.
-/

set_option autoImplicit false

namespace Brokerage.Host

/-- What a label in ASCII stands for, if it says that it stands for another. -/
def encoded? (label : List Char) : Option (List Char) :=
  match label with
  | x :: n :: '-' :: '-' :: rest => if x.toLower = 'x' && n.toLower = 'n' then some rest else none
  | _ => none

/-- The greatest length of a label, and that of a name. -/
def labelLimit : Nat := 63

def nameLimit : Nat := 253

/-! ### Names in ASCII -/

def isLabel (label : List Char) : Bool :=
  label.length ≤ labelLimit && (label.all fun c ↦ c.isAlphanum || c = '-') &&
    label.head? != some '-' && label.getLast? != some '-' &&
    match encoded? label with
    | some rest => (Punycode.decode? rest).any isOrdered
    | none => isOrdered label

def isName (s : List Char) : Bool :=
  s.length ≤ nameLimit && (Text.partsAt '.' s).all isLabel

/-! ### Names beyond ASCII -/

/-- A label as it is shown. One that stands for another must stand for one that could not be
written otherwise. -/
def shown? (label : List Char) : Option (List Char) :=
  match encoded? label with
  | none => some label
  | some rest =>
    match Punycode.decode? rest with
    | some shown =>
      if shown.all isSettled && shown.any fun c ↦ 0x80 ≤ c.toNat then some shown else none
    | none => none

/-- The length of a label in ASCII. -/
def lengthInAscii (label : List Char) : Nat :=
  if label.all fun c ↦ c.toNat < 0x80 then label.length
  else (Punycode.encode label).length + 4

def isInternationalName (s : List Char) : Bool :=
  match s.mapM mapped? with
  | none => false
  | some parts =>
    match (Text.partsAt '.' parts.flatten).mapM shown? with
    | none => false
    | some labels =>
      let lengths := labels.map lengthInAscii
      labels.all isOrdered && keepDirections labels && lengths.all (· ≤ labelLimit) &&
        lengths.foldl (· + ·) lengths.length ≤ nameLimit + 1

end Brokerage.Host
