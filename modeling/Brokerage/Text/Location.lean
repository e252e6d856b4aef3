/-!
Places in a text. A place is an offset in UTF-8 bytes; it is reported as a line, counted from
one, and a column, which is the number of bytes that precede it on that line.
-/

set_option autoImplicit false

namespace Brokerage.Text

structure Location where
  line : Nat
  column : Nat
  deriving DecidableEq, Repr

namespace Location

/-- The place reached from `here` after `offset` further bytes. An offset may end inside a
character that is written in several bytes. -/
def advance (here : Location) : List Char → Nat → Location
  | [], _ => here
  | _ :: _, 0 => here
  | c :: rest, offset + 1 =>
    let next : Location :=
      if c = '\n' then ⟨here.line + 1, 0⟩
      else ⟨here.line, here.column + min c.utf8Size (offset + 1)⟩
    advance next rest (offset + 1 - c.utf8Size)

def start : Location := ⟨1, 0⟩

def ofOffset (text : List Char) (offset : Nat) : Location :=
  start.advance text offset

end Location

/-- The number of bytes in which a run of characters is written. -/
def byteLength : List Char → Nat
  | [] => 0
  | c :: cs => c.utf8Size + byteLength cs

@[simp] theorem byteLength_nil : byteLength [] = 0 := rfl

@[simp] theorem byteLength_cons (c : Char) (cs : List Char) :
    byteLength (c :: cs) = c.utf8Size + byteLength cs := rfl

end Brokerage.Text
