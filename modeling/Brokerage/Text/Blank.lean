/-!
Blank text. White space is the Unicode property White_Space, and a text is blank when it
holds nothing else. Identifiers, payloads and environment values all use this one test.
-/

set_option autoImplicit false

namespace Brokerage.Text

/-- Membership of a code point in a table of closed ranges. -/
def inRanges (table : List (Nat × Nat)) (code : Nat) : Bool :=
  table.any fun range ↦ range.1 ≤ code && code ≤ range.2

/-- The property White_Space as closed ranges of code points. -/
def whiteSpace : List (Nat × Nat) :=
  [(0x9, 0xD), (0x20, 0x20), (0x85, 0x85), (0xA0, 0xA0), (0x1680, 0x1680), (0x2000, 0x200A),
   (0x2028, 0x2029), (0x202F, 0x202F), (0x205F, 0x205F), (0x3000, 0x3000)]

def isWhiteSpace (c : Char) : Bool :=
  inRanges whiteSpace c.toNat

/-- No character but white space; the empty text is blank. -/
def isBlank (s : String) : Bool :=
  s.toList.all isWhiteSpace

@[simp] theorem isBlank_empty : isBlank "" = true := rfl

theorem isBlank_iff {s : String} :
    isBlank s = true ↔ ∀ c ∈ s.toList, isWhiteSpace c = true := by
  simp [isBlank]

end Brokerage.Text
