import Brokerage.Host.Repertoire

/-!
Labels, the parts of a name. Hyphens and marks may not stand everywhere in a label, and some
characters need certain neighbours.
-/

set_option autoImplicit false

namespace Brokerage.Host

/-- Whether hyphens stand where they may: not at an end, nor both third and fourth. -/
def hasGoodHyphens (label : List Char) : Bool :=
  label.head? != some '-' && label.getLast? != some '-' &&
    (label.drop 2).take 2 != ['-', '-']

/-- Whether the first character is a mark that would attach to something before it. -/
def startsWithMark (label : List Char) : Bool :=
  label.head?.any fun c ↦
    0x80 ≤ c.toNat && (Unicode.inCategories ["Mc", "Me", "Mn"]).has c.toNat

/-- Characters that may not stand in a label though they can be seen. -/
def barred : Unicode.Ranges := [
  (0x640, 0x640), (0x7FA, 0x7FA), (0x302E, 0x302F), (0x3031, 0x3035), (0x303B, 0x303B)]

def isFrom (scripts : List String) (c : Char) : Bool :=
  (Unicode.inScripts scripts).has c.toNat

def isArabicDigit (c : Char) : Bool :=
  '\u0660' ≤ c && c ≤ '\u0669'

def isExtendedDigit (c : Char) : Bool :=
  '\u06f0' ≤ c && c ≤ '\u06f9'

/-- Whether a character may stand in a label between its neighbours. A dot at half height stands
between two l's, the marks of Greek and Hebrew numerals beside letters of these scripts, a katakana
dot in a label of the same writing, and a joiner behind a mark that takes away a vowel; digits of
the two Arabic kinds are not mixed. -/
def fits (label : List Char) (before? after? : Option Char) (c : Char) : Bool :=
  if c.toNat < 0x80 then true
  else if c = '\u00b7' then before? == some 'l' && after? == some 'l'
  else if c = '\u0375' then after?.any (isFrom ["Greek"])
  else if c = '\u05f3' || c = '\u05f4' then before?.any (isFrom ["Hebrew"])
  else if c = '\u30fb' then label.any (isFrom ["Han", "Hiragana", "Katakana"])
  else if isArabicDigit c then !label.any isExtendedDigit
  else if isExtendedDigit c then !label.any isArabicDigit
  else if joiners.has c.toNat then
    before?.any fun before ↦ ((Unicode.property? "grapheme_link").getD []).has before.toNat
  else !barred.has c.toNat

/-- Whether all characters of a label from here on may stand where they do. -/
def allFit (label : List Char) (before? : Option Char) : List Char → Bool
  | [] => true
  | c :: rest => fits label before? rest.head? c && allFit label (some c) rest

/-- Whether the characters of a label stand where they may. -/
def isOrdered (label : List Char) : Bool :=
  !label.isEmpty && hasGoodHyphens label && !startsWithMark label && allFit label none label

end Brokerage.Host
