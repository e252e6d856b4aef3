import Brokerage.Unicode.Category
import Brokerage.Unicode.Property
import Brokerage.Unicode.Script

/-!
Properties by which texts are cut into characters as they are read, words and sentences. Their
values follow from other properties and from short lists of exceptions.
-/

set_option autoImplicit false

namespace Brokerage.Unicode

/-- What counts of a name: case, spaces, underscores, hyphens and a leading "is" do not. -/
def looseName (name : String) : String :=
  let kept (c : Char) : Bool := c.toNat < 0x80 && c != ' ' && c != '_' && c != '-'
  match name.toList.map Char.toLower with
  | 'i' :: 's' :: rest =>
    match rest.filter kept with
    | ['c'] => "isc"
    | letters => String.ofList letters
  | letters => String.ofList (letters.filter kept)

/-- The set of a loose name in a list of sets. -/
def findSet? (sets : List NamedSet) (name : String) : Option Ranges :=
  (sets.find? fun set ↦ set.names.any fun own ↦ looseName own == name).map NamedSet.ranges

/-- The code points in any of the categories with the given two-letter names. -/
def inCategories (names : List String) : Ranges :=
  Ranges.ofList (names.flatMap fun name ↦ (findSet? categories (looseName name)).getD [])

/-- The set of a property that there is. -/
def property (name : String) : Ranges :=
  (findSet? properties (looseName name)).getD []

/-- The code points in any of the scripts with the given names. -/
def inScripts (names : List String) : Ranges :=
  Ranges.ofList (names.flatMap fun name ↦ (findSet? scripts (looseName name)).getD [])

/-- What a set is made of. -/
inductive Recipe where
  | ranges (ranges : Ranges)
  | codes (codes : List Nat)
  | categories (names : List String)
  | property (name : String)
  | scripts (names : List String)
  | all (parts : List Recipe)
  | both (first second : Recipe)
  | without (whole rest : Recipe)

mutual

/-- The set that is made. -/
def Recipe.set : Recipe → Ranges
  | .ranges given => given
  | .codes given => Ranges.ofList (given.map fun code ↦ (code, code))
  | .categories names => inCategories names
  | .property name => Unicode.property name
  | .scripts names => inScripts names
  | .all parts => Ranges.ofList (Recipe.sets parts)
  | .both first second => first.set.inter second.set
  | .without whole rest => whole.set.difference rest.set

def Recipe.sets : List Recipe → Ranges
  | [] => []
  | part :: rest => part.set ++ Recipe.sets rest

end

namespace Segmentation

/-- A value of a property: its names and its code points. -/
abbrev Value := List String × Recipe

def joiner : Recipe := .codes [0x200D]

def carriageReturn : Value := (["CR"], .codes [0xD])

def lineFeed : Value := (["LF"], .codes [0xA])

def flagLetters : Value := (["RI", "Regional_Indicator"], .property "Regional_Indicator")

def joinerValue : Value := (["ZWJ"], joiner)

/-- Code points that attach to the one before. -/
def extenders : Recipe :=
  .without (.all [.property "Grapheme_Extend", .property "Emoji_Modifier"]) joiner

/-- Code points that attach to the one before, or follow it and take space. -/
def marks : Recipe := .all [extenders, .categories ["Mc"]]

def arabicSeparators : Recipe := .ranges [(0x66B, 0x66C)]

def digits : Recipe := .all [.categories ["Nd"], arabicSeparators]

/-- The syllables without a final consonant, one in twenty-eight. -/
def openSyllables : Recipe := .codes ((List.range 399).map fun n ↦ 0xAC00 + 28 * n)

/-- Spacing marks that begin a unit of their own. -/
def apartMarks : Recipe := .ranges [
  (0x102B, 0x102C), (0x1038, 0x1038), (0x1062, 0x1064), (0x1067, 0x106D), (0x1083, 0x1083),
  (0x1087, 0x108C), (0x108F, 0x108F), (0x109A, 0x109C), (0x1A61, 0x1A61), (0x1A63, 0x1A64),
  (0xAA7B, 0xAA7B), (0xAA7D, 0xAA7D), (0x11720, 0x11721)]

/-- Marks that are written around the numbers behind them. -/
def numberMarks : Recipe := .property "Prepended_Concatenation_Mark"

/-- What belongs to the character behind it. -/
def leading : Recipe := .all [numberMarks, .ranges [
  (0xD4E, 0xD4E), (0x111C2, 0x111C3), (0x113D1, 0x113D1), (0x1193F, 0x1193F), (0x11941, 0x11941),
  (0x11A3A, 0x11A3A), (0x11A84, 0x11A89), (0x11D46, 0x11D46), (0x11F02, 0x11F02)]]

/-- Controls of every kind, and what is not assigned but ignored already. -/
def controls : Recipe :=
  .without
    (.all [.categories ["Cc", "Cf", "Zl", "Zp"],
      .both (.categories ["Cn"]) (.property "Default_Ignorable_Code_Point")])
    (.all [.codes [0xA, 0xD, 0x200C, 0x200D], extenders, numberMarks])

/-- The values by which characters as they are read are told. -/
def graphemeValues : List Value := [
  carriageReturn, lineFeed, flagLetters, joinerValue,
  (["CN", "Control"], controls),
  (["EX", "Extend"], extenders),
  (["L"], .ranges [(0x1100, 0x115F), (0xA960, 0xA97C)]),
  (["LV"], openSyllables),
  (["LVT"], .without (.ranges [(0xAC00, 0xD7A3)]) openSyllables),
  (["PP", "Prepend"], leading),
  (["SM", "SpacingMark"],
    .all [.without (.categories ["Mc"]) (.all [extenders, apartMarks]), .codes [0xE33, 0xEB3]]),
  (["T"], .ranges [(0x11A8, 0x11FF), (0xD7CB, 0xD7FB)]),
  (["V"],
    .ranges [(0x1160, 0x11A7), (0xD7B0, 0xD7C6), (0x16D63, 0x16D63), (0x16D67, 0x16D6A)])]

/-! ### Words -/

def hebrewLetters : Recipe := .both (.scripts ["Hebrew"]) (.categories ["Lo"])

def katakana : Recipe :=
  .all [.scripts ["Katakana"],
    .ranges [(0x3031, 0x3035), (0x309B, 0x309C), (0x30A0, 0x30A0), (0x30FC, 0x30FC),
      (0xFF70, 0xFF70)]]

/-- Letters of scripts that are not written word by word. -/
def unspaced : Recipe :=
  .scripts ["Ahom", "Hiragana", "Khmer", "Lao", "Myanmar", "New_Tai_Lue", "Tai_Le", "Tai_Tham",
    "Tai_Viet", "Thai"]

/-- What counts as a letter without being alphabetic. -/
def letterLike : Recipe := .ranges [
  (0x2C2, 0x2C5), (0x2D2, 0x2D7), (0x2DE, 0x2DF), (0x2E5, 0x2EB), (0x2ED, 0x2ED), (0x2EF, 0x2FF),
  (0x55A, 0x55C), (0x55E, 0x55E), (0x58A, 0x58A), (0x5F3, 0x5F3), (0xA708, 0xA716),
  (0xA720, 0xA721), (0xA789, 0xA78A), (0xAB5B, 0xAB5B)]

/-- Letters of the scripts that are written word by word. -/
def wordLetters : Recipe :=
  .all [letterLike,
    .without (.property "Alphabetic")
      (.all [.property "Ideographic", katakana, unspaced, marks, hebrewLetters])]

/-- The values by which words are told. -/
def wordValues : List Value := [
  carriageReturn, lineFeed, flagLetters, joinerValue,
  (["LE", "ALetter"], wordLetters),
  (["DQ", "Double_Quote"], .codes [0x22]),
  (["Extend"], marks),
  (["EX", "ExtendNumLet"], .all [.categories ["Pc"], .codes [0x202F]]),
  (["FO", "Format"], .without (.categories ["Cf"]) (.all [marks, .codes [0x200B, 0x200D]])),
  (["HL", "Hebrew_Letter"], hebrewLetters),
  (["KA", "Katakana"], katakana),
  (["ML", "MidLetter"],
    .codes [0x3A, 0xB7, 0x387, 0x55F, 0x5F4, 0x2027, 0xFE13, 0xFE55, 0xFF1A]),
  (["MN", "MidNum"],
    .codes [0x2C, 0x3B, 0x37E, 0x589, 0x60C, 0x60D, 0x66C, 0x7F8, 0x2044, 0xFE10, 0xFE14, 0xFE50,
      0xFE54, 0xFF0C, 0xFF1B]),
  (["MB", "MidNumLet"], .codes [0x2E, 0x2018, 0x2019, 0x2024, 0xFE52, 0xFF07, 0xFF0E]),
  (["NL", "Newline"], .codes [0xB, 0xC, 0x85, 0x2028, 0x2029]),
  (["NU", "Numeric"], .without digits (.codes [0x66C])),
  (["SQ", "Single_Quote"], .codes [0x27]),
  (["WSegSpace"],
    .ranges [(0x20, 0x20), (0x1680, 0x1680), (0x2000, 0x2006), (0x2008, 0x200A),
      (0x205F, 0x205F), (0x3000, 0x3000)])]

/-! ### Sentences -/

/-- Marks and the joiner, which go with what is before them; colours of skin do not. -/
def sentenceMarks : Recipe := .all [.property "Grapheme_Extend", .categories ["Mc"], joiner]

def separators : Recipe := .codes [0x85, 0x2028, 0x2029]

/-- Small letters, but for those that have no capital outside headings. -/
def small : Recipe :=
  .without (.property "Lowercase")
    (.all [.property "Grapheme_Extend", .ranges [(0x10D0, 0x10FA), (0x10FD, 0x10FF)]])

def capital : Recipe :=
  .without (.all [.property "Uppercase", .categories ["Lt"]])
    (.ranges [(0x1C90, 0x1CBA), (0x1CBD, 0x1CBF)])

def fullStops : Recipe := .codes [0x2E, 0x2024, 0xFE52, 0xFF0E]

/-- The values by which sentences are told. -/
def sentenceValues : List Value := [
  carriageReturn, lineFeed,
  (["AT", "ATerm"], fullStops),
  (["CL", "Close"],
    .all [.categories ["Pe", "Pf", "Pi", "Ps"],
      .ranges [(0x22, 0x22), (0x27, 0x27), (0x275B, 0x2760), (0x2E00, 0x2E01),
        (0x2E06, 0x2E08), (0x2E0B, 0x2E0B), (0x1F676, 0x1F678)]]),
  (["EX", "Extend"], sentenceMarks),
  (["FO", "Format"], .without (.categories ["Cf"]) sentenceMarks),
  (["LO", "Lower"], small),
  (["NU", "Numeric"], digits),
  (["LE", "OLetter"],
    .all [.codes [0x5F3],
      .without (.property "Alphabetic") (.all [small, capital, sentenceMarks])]),
  (["SC", "SContinue"],
    .codes [0x2C, 0x2D, 0x3A, 0x55D, 0x60C, 0x60D, 0x7F8, 0x1802, 0x1808, 0x2013, 0x2014, 0x3001,
      0xFE10, 0xFE11, 0xFE13, 0xFE31, 0xFE32, 0xFE50, 0xFE51, 0xFE55, 0xFE58, 0xFE63, 0xFF0C,
      0xFF0D, 0xFF1A, 0xFF64]),
  (["ST", "STerm"], .without (.property "Sentence_Terminal") fullStops),
  (["SE", "Sep"], separators),
  (["SP", "Sp"], .without (.property "White_Space") (.all [.codes [0xA, 0xD], separators])),
  (["UP", "Upper"], capital)]

end Segmentation

/-- The set of a loose name among values. -/
def valueSet? (values : List Segmentation.Value) (name : String) : Option Ranges :=
  (values.find? fun value ↦ value.1.any fun own ↦ looseName own == name).map fun value ↦
    value.2.set

end Brokerage.Unicode
