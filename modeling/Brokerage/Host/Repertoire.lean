import Brokerage.Unicode.Lookup

/-!
Characters of names of hosts beyond ASCII. Whatever is assigned and can be seen may stand in a name,
with some exceptions: signs that are made of others which may not, such as a fraction with its
bar. Some characters are left out of a name and some stand for the dot or the hyphen; letters that
differ by case are one letter.
-/

set_option autoImplicit false

namespace Brokerage.Host

/-- Characters that can be seen and yet may not stand in a name. -/
def excluded : Unicode.Ranges := Unicode.Ranges.ofList [
  (0xA8, 0xA8), (0xAF, 0xAF), (0xB4, 0xB4), (0xB8, 0xB8), (0x2D8, 0x2DD), (0x37A, 0x37A),
  (0x37E, 0x37E), (0x384, 0x385), (0x1FBD, 0x1FBD), (0x1FBF, 0x1FC1), (0x1FCD, 0x1FCF),
  (0x1FDD, 0x1FDF), (0x1FED, 0x1FEF), (0x1FFD, 0x1FFE), (0x2017, 0x2017), (0x2024, 0x2026),
  (0x203C, 0x203C), (0x203E, 0x203E), (0x2047, 0x2049), (0x207A, 0x207A), (0x207C, 0x207E),
  (0x208A, 0x208A), (0x208C, 0x208E), (0x2100, 0x2101), (0x2105, 0x2106), (0x2474, 0x24B5),
  (0x2A74, 0x2A76), (0x2FF0, 0x2FFF), (0x309B, 0x309C), (0x31EF, 0x31EF), (0x3200, 0x321E),
  (0x3220, 0x3243), (0x33C2, 0x33C2), (0x33C7, 0x33C7), (0x33D8, 0x33D8), (0xFB29, 0xFB29),
  (0xFC5E, 0xFC63), (0xFDFA, 0xFDFB), (0xFE10, 0xFE10), (0xFE12, 0xFE16), (0xFE19, 0xFE19),
  (0xFE30, 0xFE30), (0xFE33, 0xFE38), (0xFE47, 0xFE50), (0xFE52, 0xFE52), (0xFE54, 0xFE57),
  (0xFE59, 0xFE5C), (0xFE5F, 0xFE62), (0xFE64, 0xFE66), (0xFE68, 0xFE6B), (0xFE70, 0xFE70),
  (0xFE72, 0xFE72), (0xFE74, 0xFE74), (0xFE76, 0xFE76), (0xFE78, 0xFE78), (0xFE7A, 0xFE7A),
  (0xFE7C, 0xFE7C), (0xFE7E, 0xFE7E), (0xFFE3, 0xFFE3), (0xFFFC, 0xFFFD), (0x1F100, 0x1F10A),
  (0x1F110, 0x1F129)]

/-- Characters that are left out of a name. -/
def ignored : Unicode.Ranges := [
  (0xAD, 0xAD), (0x34F, 0x34F), (0x115F, 0x1160), (0x17B4, 0x17B5), (0x180B, 0x180F),
  (0x200B, 0x200B), (0x2060, 0x2064), (0x206A, 0x206F), (0x3164, 0x3164), (0xFE00, 0xFE0F),
  (0xFEFF, 0xFEFF), (0xFFA0, 0xFFA0), (0x1BCA0, 0x1BCA3), (0x1D173, 0x1D17A), (0xE0100, 0xE01EF)]

/-- Characters that join others or keep them apart. -/
def joiners : Unicode.Ranges := [(0x200C, 0x200D)]

/-- What cannot be seen, or means nothing that is agreed upon. -/
def invisible : Unicode.Ranges :=
  Unicode.inCategories ["Cc", "Cf", "Cn", "Co", "Cs", "Zl", "Zp", "Zs"]

/-- Whether a character beyond ASCII may stand in a name. -/
def isVisible (c : Char) : Bool :=
  joiners.has c.toNat || !(excluded.has c.toNat || invisible.has c.toNat)

def isPlain (c : Char) : Bool :=
  c.isLower || c.isDigit || c = '-'

/-- What a character is in a name: nothing, a dot or itself, as a small letter in ASCII. There are
characters that may not stand in a name. -/
def mapped? (c : Char) : Option (List Char) :=
  let code := c.toNat
  if code < 0x80 then
    if isPlain c.toLower || c = '.' then some [c.toLower] else none
  else if 0xFF01 ≤ code && code ≤ 0xFF5E then
    let plain := (Char.ofNat (code - 0xFEE0)).toLower
    if isPlain plain || plain = '.' then some [plain] else none
  else if code = 0x3002 || code = 0xFF61 then some ['.']
  else if code = 0xFE63 then some ['-']
  else if code = 0x387 then some ['\u00b7']
  else if code = 0xFF65 then some ['\u30fb']
  else if ignored.has code then some []
  else if isVisible c then some [c]
  else none

/-- Whether a character stands in a name as it is, and for no other. -/
def isSettled (c : Char) : Bool :=
  mapped? c == some [c] && c != '.' &&
    !(Unicode.property "Changes_When_Casefolded").has c.toNat

end Brokerage.Host
