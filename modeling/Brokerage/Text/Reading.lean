import Brokerage.Text.Location

/-!
Reading a text from the left. A reading either takes something off the front and leaves the
rest, or stops with a fault. A fault keeps what was left of the text where it was noticed and
how many bytes further it lies, from which its place in the whole text follows.
-/

set_option autoImplicit false

namespace Brokerage.Text

/-- A problem noticed `ahead` bytes into `rest`. -/
structure Fault (π : Type) where
  problem : π
  rest : List Char
  ahead : Nat

abbrev Reading (π α : Type) := Except (Fault π) (α × List Char)

/-- A problem with its place in the text. -/
structure Located (π : Type) where
  problem : π
  place : Location
  deriving DecidableEq

section
variable {π ρ α : Type}

def Fault.map (f : π → ρ) (fault : Fault π) : Fault ρ :=
  ⟨f fault.problem, fault.rest, fault.ahead⟩

/-- The problem with its place, when what was left is an end of the given text. -/
def Fault.locate (text : List Char) (fault : Fault π) : Located π :=
  ⟨fault.problem,
    .ofOffset text (byteLength text - byteLength fault.rest + fault.ahead)⟩

def Located.message (wording : π → String) (located : Located π) : String :=
  s!"{wording located.problem} at line {located.place.line} column {located.place.column}"

/-- A fault at the front of what is left. -/
def stopBefore (problem : π) (rest : List Char) : Except (Fault π) α :=
  .error ⟨problem, rest, 0⟩

/-- A fault at the next byte, if there is one. -/
def stopAt (problem : π) (rest : List Char) : Except (Fault π) α :=
  .error ⟨problem, rest, if rest.isEmpty then 0 else 1⟩

end

end Brokerage.Text
