import Brokerage.Proofs.Json.Reading

/-!
What a text says. A tree means a value if its literals do and it is built alike: a literal with a
fraction or an exponent means the real nearest to it, and any other one an integer of whatever size.
What a tree means is also what the reader makes of it where every number is an integer of 64 bits;
in other numbers the reader may be off, as it rounds more than once.
-/

set_option autoImplicit false

namespace Brokerage.Json

open Text (natural)

namespace Numeral

/-- The digits of a literal on both sides of the point, as one number. -/
def coefficient (n : Numeral) : Nat :=
  natural (n.whole ++ n.fraction.getD [])

/-- The power of ten that the exponent of a literal says. -/
def shift : Option (Bool × List Char) → Int
  | none => 0
  | some (down, digits) => if down then -natural digits else natural digits

/-- The power of ten that goes with the coefficient. -/
def power (n : Numeral) : Int :=
  shift n.exponent - (n.fraction.getD []).length

/-- The real nearest to a literal. -/
def nearest (n : Numeral) : Double :=
  Double.nearest n.negative n.coefficient n.power

end Numeral

namespace Tree

mutual

/-- A tree means a value. Minus zero is not an integer, and a real that is not finite goes by
null. -/
inductive Means : Tree → Json → Prop
  | null : Means .null .null
  | bool (b : Bool) : Means (.bool b) (.bool b)
  | integer {n : Numeral} (hfraction : n.fraction = none) (hexponent : n.exponent = none)
    (hzero : n.negative = true → natural n.whole ≠ 0) : Means (.numeral n) (.integer n.integer)
  | real {n : Numeral} (hmarked : n.fraction ≠ none ∨ n.exponent ≠ none)
    (hfinite : n.nearest.isFinite = true) : Means (.numeral n) (.real n.nearest)
  | unbounded {x : Double} (h : x.isFinite = false) : Means .null (.real x)
  | string {pieces : List Piece} {s : String} (h : content? pieces = some s) :
    Means (.string pieces) (.string s)
  | list {trees : List Tree} {items : List Json} (h : MeansItems trees items) :
    Means (.list trees) (.list items)
  | object {trees : List (List Piece × Tree)} {members : Members} (h : MeansMembers trees members) :
    Means (.object trees) (.object members)

inductive MeansItems : List Tree → List Json → Prop
  | nil : MeansItems [] []
  | cons {tree : Tree} {item : Json} {trees : List Tree} {items : List Json}
    (hitem : Means tree item) (hitems : MeansItems trees items) :
    MeansItems (tree :: trees) (item :: items)

inductive MeansMembers : List (List Piece × Tree) → Members → Prop
  | nil : MeansMembers [] []
  | cons {pieces : List Piece} {key : String} {tree : Tree} {value : Json}
    {trees : List (List Piece × Tree)} {members : Members} (hkey : content? pieces = some key)
    (hvalue : Means tree value) (hmembers : MeansMembers trees members) :
    MeansMembers ((pieces, tree) :: trees) ((key, value) :: members)

end

/-! ### Depth -/

mutual

theorem Means.depth_eq {tree : Tree} {value : Json} (h : Means tree value) :
    tree.depth = value.depth := by
  cases h with
  | list h => exact congrArg (· + 1) h.depth_eq
  | object h => exact congrArg (· + 1) h.depth_eq
  | _ => rfl

theorem MeansItems.depth_eq {trees : List Tree} {items : List Json} (h : MeansItems trees items) :
    depthItems trees = Json.depthItems items := by
  cases h with
  | nil => rfl
  | cons hitem hitems => rw [depthItems, Json.depthItems, hitem.depth_eq, hitems.depth_eq]

theorem MeansMembers.depth_eq {trees : List (List Piece × Tree)} {members : Members}
    (h : MeansMembers trees members) : depthMembers trees = Json.depthMembers members := by
  cases h with
  | nil => rfl
  | cons hkey hvalue hmembers =>
    rw [depthMembers, Json.depthMembers, hvalue.depth_eq, hmembers.depth_eq]

end

end Tree

/-! ### What the reader makes of it -/

theorem Numeral.whole_of_exact {n : Numeral} (hfraction : n.fraction = none)
    (hexponent : n.exponent = none) (hzero : n.negative = true → natural n.whole ≠ 0)
    (h : (Json.integer n.integer).Exact) : n.Whole := by
  obtain ⟨hlow, hhigh⟩ := h
  unfold Numeral.integer at hlow hhigh
  refine ⟨hfraction, hexponent, fun hsign ↦ ?_, fun hsign ↦ ?_⟩
  · rw [hsign, if_neg Bool.false_ne_true] at hhigh
    exact Int.ofNat_lt.1 hhigh
  · rw [hsign, if_pos rfl] at hlow
    exact ⟨Nat.pos_of_ne_zero (hzero hsign), Int.ofNat_le.1 (Int.neg_le_neg_iff.1 hlow)⟩

theorem insert_of_sorted {before : Members} {key : String} {value : Json} {rest : Members}
    (h : Members.Sorted (before ++ (key, value) :: rest)) :
    before.insert key value = before ++ [(key, value)] := by
  induction before with
  | nil => rfl
  | cons entry before ih =>
    obtain ⟨k, v⟩ := entry
    obtain ⟨hfirst, hbefore⟩ := List.pairwise_cons.1 h
    have hlt : k < key := hfirst (key, value) (by simp)
    rw [Members.insert, if_neg (String.lt_asymm hlt), if_neg (Ne.symm (String.ne_of_lt hlt)),
      ih hbefore]
    rfl

namespace Tree

mutual

theorem Means.value?_eq {tree : Tree} {value : Json} (h : Means tree value)
    (hexact : value.Exact) : tree.value? = some value := by
  cases h with
  | null | bool => rfl
  | integer hfraction hexponent hzero =>
    exact Numeral.value?_of_whole (Numeral.whole_of_exact hfraction hexponent hzero hexact)
  | real | unbounded => exact hexact.elim
  | string h => rw [value?, h, Option.map_some]
  | list h => rw [value?, h.value?_eq hexact, Option.map_some]
  | object h => rw [value?, h.value?_eq [] hexact.1 hexact.2, Option.map_some, List.nil_append]

theorem MeansItems.value?_eq {trees : List Tree} {items : List Json} (h : MeansItems trees items)
    (hexact : ExactItems items) : valueItems? trees = some items := by
  cases h with
  | nil => rfl
  | cons hitem hitems =>
    rw [valueItems?, hitem.value?_eq hexact.1, hitems.value?_eq hexact.2]

/-- Members that come in order are added behind those before them. -/
theorem MeansMembers.value?_eq {trees : List (List Piece × Tree)} {members : Members}
    (h : MeansMembers trees members) (before : Members)
    (hsorted : Members.Sorted (before ++ members)) (hexact : ExactMembers members) :
    valueMembers? before trees = some (before ++ members) := by
  cases h with
  | nil => rw [valueMembers?, List.append_nil]
  | cons hkey hvalue hmembers =>
    have hmore := hmembers.value?_eq (before ++ [_]) (by simpa using hsorted) hexact.2
    simp only [valueMembers?, hkey, hvalue.value?_eq hexact.1, insert_of_sorted hsorted]
    simpa using hmore

end

end Tree

/-- A text says what a value is. -/
def Says (text : String) (value : Json) : Prop :=
  ∃ tree : Tree, tree.Spells text ∧ tree.Means value

/-- A text that says what an exact value is is read as that value and no other, unless the value
nests too deep. -/
theorem Says.parse_ok_iff {text : String} {value read : Json} (h : Says text value)
    (hexact : value.Exact) :
    parse text = .ok read ↔ read = value ∧ value.depth ≤ nestingLimit := by
  obtain ⟨tree, htree, hmeans⟩ := h
  have hvalue := hmeans.value?_eq hexact
  rw [Json.parse_ok_iff, ← hmeans.depth_eq]
  constructor
  · rintro ⟨other, hother, hshallow, hread⟩
    cases Tree.spells_unique htree hother
    exact ⟨Option.some.inj (hread.symm.trans hvalue), hshallow⟩
  · rintro ⟨rfl, hshallow⟩
    exact ⟨tree, htree, hshallow, hvalue⟩

end Brokerage.Json
