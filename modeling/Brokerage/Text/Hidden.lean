import Brokerage.Unicode.Lookup

/-!
Code points that a quoted text shows by number. They are those with no visible form of their
own (controls, format characters, separators other than the space, surrogates, private use,
unassigned, and those that are ignored where they cannot be shown) and those that attach to the
character before them, the extenders of grapheme clusters.
-/

set_option autoImplicit false

namespace Brokerage.Text

/-- Characters that are shown though the tables of categories do not know them yet. -/
def newlyShown : Unicode.Ranges := Unicode.Ranges.ofTable
  "88f 3cc 7f 13e4 ad4 7c37+1 2 1 1c 53d1+f 1bd+1 36+6 b71+19 56b+2 8+8 c88 3 1 248+2b 4+9 50b6+18
   2+18 11e+4 1801+7 509+15 61+72 3f07+2 1bd+16 f+10 17cf+1e 1+2 1+1 1+6 2+4 9+1 fd8 9e+3 155+8
   17b+3 32 3 39 4 1c 4 10a bb3f+5 1762+b 5502+10c9"

/-- Sound marks of half width, which extend a cluster and yet are shown: they have a width of their
own. -/
def soundMarks : Unicode.Ranges := [(0xFF9E, 0xFF9F)]

/-- The hidden code points, as closed ranges in increasing order. -/
def hidden : List (Nat × Nat) :=
  let withoutForm := Unicode.inCategories ["Cc", "Cf", "Cn", "Co", "Cs", "Zl", "Zp", "Zs"] ++
    Unicode.property "Default_Ignorable_Code_Point"
  (Unicode.Ranges.ofList (withoutForm ++ Unicode.property "Grapheme_Extend")).difference
    (Unicode.Ranges.ofList ((0x20, 0x20) :: newlyShown ++ soundMarks))

end Brokerage.Text
