import Brokerage.Unicode.Age
import Brokerage.Unicode.ScriptExtension
import Brokerage.Unicode.Segmentation

/-!
Sets of code points by name. Names are compared loosely. A bare name is looked for among the
properties, then the categories, then the scripts.
-/

set_option autoImplicit false

namespace Brokerage.Unicode

/-- The categories that go together under a common name. -/
def categoryGroups : List (List String × List String) := [
  (["C", "Other"], ["Cc", "Cf", "Cn", "Co", "Cs"]),
  (["L", "Letter"], ["Ll", "Lm", "Lo", "Lt", "Lu"]),
  (["LC", "Cased_Letter"], ["Ll", "Lt", "Lu"]),
  (["M", "Mark", "Combining_Mark"], ["Mc", "Me", "Mn"]),
  (["N", "Number"], ["Nd", "Nl", "No"]),
  (["P", "Punctuation", "Punct"], ["Pc", "Pd", "Pe", "Pf", "Pi", "Po", "Ps"]),
  (["S", "Symbol"], ["Sc", "Sk", "Sm", "So"]),
  (["Z", "Separator"], ["Zl", "Zp", "Zs"])]

/-- Properties of few code points, most of them exceptions to other properties. -/
def smallProperties : List NamedSet := [
  ⟨["Gr_Link", "Grapheme_Link"],
    "94d 7f 7f 7f 7f 7f 7f 7f 6d+1 10 7c 6f 7f c9 b4+1 6d9+1 1e 9d 28d e3 65+1 46+1 118b 7a86 25
     97 8e 6c 135 f6 5e51 606 29 e 39 79+1 8b 74 b4 62 80+2 71 7f fc 7f 76 74 10d 103+1 a1 53 12
     51 1a5 104+1 51 1a9+1 41ec"⟩,
  ⟨["IDSU", "IDS_Unary_Operator"], "2ffe+1"⟩,
  ⟨["ID_Compat_Math_Continue"],
    "b2+1 5 1fb6 3+a 1+e 173 4 16 1b4a2 19 1f 19 1f 19 1f 19 1f 19"⟩,
  ⟨["ID_Compat_Math_Start"], "2202 4 16 1b4a2 19 1f 19 1f 19 1f 19 1f 19"⟩,
  ⟨["MCM", "Modifier_Combining_Mark"], "654+1 2 83 6 3+1 1e1+1 1+2 3 1f"⟩,
  ⟨["OIDC", "Other_ID_Continue"], "b7 2cf fe1+8 670 631+1 10ed ce69"⟩,
  ⟨["OIDS", "Other_ID_Start"], "1885+1 891 15 f6c+1"⟩]

/-- What a property holds beyond some categories, by the names of that rest. -/
def remainders : List (List String × String × List String) := [
  (["OAlpha", "Other_Alphabetic"], "Alphabetic", ["Ll", "Lm", "Lo", "Lt", "Lu", "Nl"]),
  (["ODI", "Other_Default_Ignorable_Code_Point"], "Default_Ignorable_Code_Point", ["Cf"]),
  (["OGr_Ext", "Other_Grapheme_Extend"], "Grapheme_Extend", ["Me", "Mn"]),
  (["OLower", "Other_Lowercase"], "Lowercase", ["Ll"]),
  (["OMath", "Other_Math"], "Math", ["Sm"]),
  (["OUpper", "Other_Uppercase"], "Uppercase", ["Lu"])]

/-- The rest of a property beyond categories. Variation selectors are ignored by a rule of their
own. -/
def remainder? (name : String) : Option Ranges :=
  (remainders.find? fun entry ↦ entry.1.any fun own ↦ looseName own == name).map
    fun (_, whole, categories) ↦
      let rest := (property whole).difference (inCategories categories)
      if whole = "Default_Ignorable_Code_Point" then
        rest.difference (property "Variation_Selector")
      else rest

def property? (name : String) : Option Ranges :=
  (findSet? properties name).or ((findSet? smallProperties name).or (remainder? name))

def category? (name : String) : Option Ranges :=
  if name = "any" then some Ranges.full
  else if name = "assigned" then some (inCategories ["Cn"]).complement
  else if name = "ascii" then some [(0, 0x7F)]
  else
    match categoryGroups.find? fun group ↦ group.1.any fun own ↦ looseName own == name with
    | some (_, members) => some (inCategories members)
    | none => findSet? categories name

def script? (name : String) : Option Ranges :=
  findSet? scripts name

def extendedScript? (name : String) : Option Ranges :=
  (findSet? extendedScripts name).or (script? name)

/-- The code points that are no younger than a version. -/
def upToAge? (name : String) : Option Ranges :=
  (ages.findIdx? fun age ↦ age.names.any fun own ↦ looseName own == name).map fun place ↦
    Ranges.ofList ((ages.take (place + 1)).flatMap NamedSet.ranges)

/-- Short names of categories that are also short names of properties without a set. -/
def categoryFirst : List String := ["cf", "lc", "sc"]

/-- The set of a bare name. -/
def named? (name : String) : Option Ranges :=
  let loose := looseName name
  let property := if categoryFirst.contains loose then none else property? loose
  property.or ((category? loose).or (script? loose))

/-- The set of the code points that have a value for a property. -/
def valued? (property value : String) : Option Ranges :=
  let loose := looseName value
  let named := looseName property
  if named = "gc" || named = "generalcategory" then category? loose
  else if named = "sc" || named = "script" then script? loose
  else if named = "scx" || named = "scriptextensions" then extendedScript? loose
  else if named = "age" then upToAge? loose
  else if named = "gcb" || named = "graphemeclusterbreak" then
    valueSet? Segmentation.graphemeValues loose
  else if named = "wb" || named = "wordbreak" then valueSet? Segmentation.wordValues loose
  else if named = "sb" || named = "sentencebreak" then valueSet? Segmentation.sentenceValues loose
  else none

/-! ### Sets with a letter of their own in patterns -/

def alphabetic : Ranges := property "Alphabetic"

def numbers : Ranges := inCategories ["Nd", "Nl", "No"]

def digits : Ranges := inCategories ["Nd"]

def spaces : Ranges := property "White_Space"

/-- Letters, marks, digits and what joins them. -/
def wordParts : Ranges :=
  Ranges.ofList (alphabetic ++ inCategories ["Mc", "Me", "Mn", "Nd", "Pc"] ++
    property "Join_Control")

end Brokerage.Unicode
