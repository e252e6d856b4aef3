import Brokerage.Json.Access
import Brokerage.Shape.Document
import Brokerage.Shape.Value

/-!
Types that are written as JSON. Such a type has a shape, and between it and its JSON values there
are two conversions; the one from JSON is only ever applied to a value in the canonical form of
the shape, so it need not say what else could go wrong.
-/

set_option autoImplicit false

namespace Brokerage

class Shaped (α : Type) where
  shape : Shape
  toJson : α → Json
  ofJson : Json → α

namespace Shaped

variable {α : Type} [Shaped α]

/-- Reads a JSON text. -/
def ofText (text : String) : Except (Text.Located Shape.Problem) α :=
  match (shape α).parse text with
  | .ok value => .ok (ofJson value)
  | .error located => .error located

/-- Reads a value of a format with the given habits. -/
def ofValue (dialect : Dialect) (value : Json) : Except Mismatch α :=
  match (shape α).decode dialect value with
  | .ok canonical => .ok (ofJson canonical)
  | .error mismatch => .error mismatch

def text (x : α) : String :=
  (toJson x).text

end Shaped

end Brokerage
