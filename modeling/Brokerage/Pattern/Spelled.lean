import Brokerage.Pattern.Matching
import Brokerage.Pattern.Reader
import Brokerage.Pattern.Spelling

/-!
Patterns with the spelling that they are read from, which is what messages show of them.
-/

set_option autoImplicit false

namespace Brokerage.Pattern

structure Spelled where
  spelling : String
  program : Program

/-- The pattern that a text means, if it means one. -/
def ofText? (text : String) : Option Spelled := do
  let spelling ← spelling? text
  let reading ← read? spelling
  return ⟨spelling, ← reading.program?⟩

def Spelled.verdict (spelled : Spelled) (text : String) : Verdict :=
  spelled.program.verdict text

/-- Whether a text is accepted; one for which the search is given up is not. -/
def Spelled.accepts (spelled : Spelled) (text : String) : Bool :=
  spelled.verdict text == .accepted

end Brokerage.Pattern
