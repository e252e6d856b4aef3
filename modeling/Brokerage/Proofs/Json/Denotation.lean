import Brokerage.Json.Members
import Brokerage.Proofs.Json.Grammar

/-!
What a tree of the grammar stands for. A number literal may denote too much for a real, and a
surrogate in a string may be unpaired; a tree has a value just if none of its literals is of
that kind.
-/

set_option autoImplicit false

namespace Brokerage.Json

open Text (natural)

/-! ### Number literals -/

theorem le_foldl_digits (n : Nat) (digits : List Char) :
    n ≤ digits.foldl (fun n c ↦ 10 * n + Text.digitValue c) n := by
  induction digits generalizing n with
  | nil => exact Nat.le_refl n
  | cons d digits ih => exact Nat.le_trans (by omega) (ih (10 * n + Text.digitValue d))

namespace Numeral

/-- The real with the given coefficient and exponent, unless it is too large. -/
def real? (negative : Bool) (coefficient : Nat) (exponent : Int) : Option Json :=
  (Double.ofDecimal? coefficient exponent).map fun x ↦ .real (signed negative x)

/-- The real with the given coefficient, moved by the exponent of its literal. An exponent past
the limit makes zero of everything that it makes small. -/
def scaled? (negative : Bool) (coefficient : Nat) (start : Int) :
    Option (Bool × List Char) → Option Json
  | none => real? negative coefficient start
  | some (down, digits) =>
    if exponentLimit < natural digits then
      if coefficient != 0 && !down then none else some (.real (signed negative .zero))
    else
      real? negative coefficient (if down then start - natural digits else start + natural digits)

/-- The number from the integer digits on, `surplus` of which did not fit the coefficient. -/
def finished? (negative : Bool) (coefficient surplus : Nat) (fraction : Option (List Char))
    (exponent : Option (Bool × List Char)) : Option Json :=
  match fraction, exponent with
  | none, none =>
    if surplus = 0 then some (integerOf negative coefficient)
    else real? negative coefficient surplus
  | none, some exponent => scaled? negative coefficient surplus (some exponent)
  | some digits, exponent =>
    let (longer, left) := absorb coefficient digits
    scaled? negative longer (surplus - (digits.length - left.length : Nat)) exponent

/-- The number that a literal denotes, unless it is too large for a real. -/
def value? (n : Numeral) : Option Json :=
  finished? n.negative (absorb 0 n.whole).1 (absorb 0 n.whole).2.length n.fraction n.exponent

theorem kind_of_real? {negative : Bool} {coefficient : Nat} {exponent : Int} {value : Json}
    (h : real? negative coefficient exponent = some value) : value.kind = .real := by
  obtain ⟨x, -, rfl⟩ := Option.map_eq_some_iff.1 h
  rfl

theorem kind_of_scaled? {negative : Bool} {coefficient : Nat} {start : Int}
    {exponent : Option (Bool × List Char)} {value : Json}
    (h : scaled? negative coefficient start exponent = some value) : value.kind = .real := by
  unfold scaled? at h
  split at h
  next => exact kind_of_real? h
  next =>
    split at h
    next =>
      split at h
      next => cases h
      next =>
        cases h
        rfl
    next => exact kind_of_real? h

theorem kind_of_integerOf (negative : Bool) (coefficient : Nat) :
    (integerOf negative coefficient).kind = .integer ∨
      (integerOf negative coefficient).kind = .real := by
  unfold integerOf
  split
  next => exact .inl rfl
  next =>
    split
    next => exact .inr rfl
    next => exact .inl rfl

theorem kind_of_value? {n : Numeral} {value : Json} (h : n.value? = some value) :
    value.kind = .integer ∨ value.kind = .real := by
  obtain ⟨negative, whole, fraction, exponent⟩ := n
  cases fraction with
  | some digits =>
    simp only [value?, finished?] at h
    exact .inr (kind_of_scaled? h)
  | none =>
    cases exponent with
    | some exponent =>
      simp only [value?, finished?] at h
      exact .inr (kind_of_scaled? h)
    | none =>
      simp only [value?, finished?] at h
      split at h
      next =>
        cases h
        exact kind_of_integerOf _ _
      next => exact .inr (kind_of_real? h)

/-- A literal denotes more than a real can be. -/
def Overflows (n : Numeral) : Prop :=
  n.value? = none

/-- The literal of an integer that fits 64 bits, signed or unsigned, and is not minus zero. -/
structure Whole (n : Numeral) : Prop where
  fraction : n.fraction = none
  exponent : n.exponent = none
  positive : n.negative = false → natural n.whole < Nat.pow 2 64
  negative : n.negative = true → 0 < natural n.whole ∧ natural n.whole ≤ Nat.pow 2 63

end Numeral

/-! ### String literals -/

theorem not_isLowSurrogate_of_isHighSurrogate {u : Nat} (h : isHighSurrogate u = true) :
    isLowSurrogate u = false := by
  simp only [isHighSurrogate, isLowSurrogate, Bool.and_eq_true, decide_eq_true_eq,
    Bool.and_eq_false_iff, decide_eq_false_iff_not] at h ⊢
  omega

/-- The characters of a string, unless a surrogate is unpaired in it. -/
def characters? : List Piece → Option (List Char)
  | [] => some []
  | .char c :: rest => (characters? rest).map (c :: ·)
  | .unit u :: rest =>
    if isLowSurrogate u then none
    else if isHighSurrogate u then
      match rest with
      | .unit low :: after =>
        if isLowSurrogate low then (characters? after).map (joinSurrogates u low :: ·) else none
      | _ => none
    else (characters? rest).map (Char.ofNat u :: ·)

theorem characters?_unit {u : Nat} (hlow : isLowSurrogate u = false)
    (hhigh : isHighSurrogate u = false) (pieces : List Piece) :
    characters? (.unit u :: pieces) = (characters? pieces).map (Char.ofNat u :: ·) := by
  rw [characters?.eq_def]
  simp [hlow, hhigh]

theorem characters?_pair {u low : Nat} (hhigh : isHighSurrogate u = true)
    (hlow : isLowSurrogate low = true) (pieces : List Piece) :
    characters? (.unit u :: .unit low :: pieces)
      = (characters? pieces).map (joinSurrogates u low :: ·) := by
  rw [characters?.eq_def]
  simp [not_isLowSurrogate_of_isHighSurrogate hhigh, hhigh, hlow]

def content? (pieces : List Piece) : Option String :=
  (characters? pieces).map String.ofList

/-- Some surrogate of a string does not have its other half beside it. -/
def Unpaired (pieces : List Piece) : Prop :=
  ∃ before u after, pieces = before ++ .unit u :: after ∧
    (isHighSurrogate u = true ∧
        (∀ low, isLowSurrogate low = true → after.head? ≠ some (.unit low)) ∨
      isLowSurrogate u = true ∧
        ∀ high, isHighSurrogate high = true → before.getLast? ≠ some (.unit high))

/-! ### Values -/

namespace Tree

mutual

/-- The value that a tree stands for, if each of its literals stands for something. -/
def value? : Tree → Option Json
  | .null => some .null
  | .bool b => some (.bool b)
  | .numeral n => n.value?
  | .string pieces => (content? pieces).map .string
  | .list items => (valueItems? items).map .list
  | .object members => (valueMembers? [] members).map .object

def valueItems? : List Tree → Option (List Json)
  | [] => some []
  | item :: rest =>
    match item.value?, valueItems? rest with
    | some value, some others => some (value :: others)
    | _, _ => none

/-- The members of an object, added to those before them. -/
def valueMembers? : (before : Members) → List (List Piece × Tree) → Option Members
  | before, [] => some before
  | before, (key, item) :: rest =>
    match content? key, item.value? with
    | some name, some value => valueMembers? (before.insert name value) rest
    | _, _ => none

end

mutual

/-- The number literals of a tree. -/
def numerals : Tree → List Numeral
  | .numeral n => [n]
  | .list items => numeralsOfItems items
  | .object members => numeralsOfMembers members
  | .null | .bool _ | .string _ => []

def numeralsOfItems : List Tree → List Numeral
  | [] => []
  | item :: rest => item.numerals ++ numeralsOfItems rest

def numeralsOfMembers : List (List Piece × Tree) → List Numeral
  | [] => []
  | (_, value) :: rest => value.numerals ++ numeralsOfMembers rest

end

mutual

/-- The string literals of a tree, keys included. -/
def quotations : Tree → List (List Piece)
  | .string pieces => [pieces]
  | .list items => quotationsOfItems items
  | .object members => quotationsOfMembers members
  | .null | .bool _ | .numeral _ => []

def quotationsOfItems : List Tree → List (List Piece)
  | [] => []
  | item :: rest => item.quotations ++ quotationsOfItems rest

def quotationsOfMembers : List (List Piece × Tree) → List (List Piece)
  | [] => []
  | (key, value) :: rest => key :: value.quotations ++ quotationsOfMembers rest

end

end Tree

/-! ### Trees without a value -/

/-- The last piece is the same behind one more piece, unless there was none. -/
theorem getLast?_cons_of_some {piece last : Piece} {before : List Piece}
    (h : before.getLast? = some last) : (piece :: before).getLast? = some last := by
  rw [List.getLast?_cons, h]
  rfl

theorem unpaired_cons_iff {piece : Piece} {pieces : List Piece}
    (h : ∀ u, piece = .unit u → isLowSurrogate u = false ∧ isHighSurrogate u = false) :
    Unpaired (piece :: pieces) ↔ Unpaired pieces := by
  constructor
  · rintro ⟨before, u, after, heq, hside⟩
    cases before with
    | nil =>
      cases heq
      obtain ⟨hlow, hhigh⟩ := h u rfl
      simp [hlow, hhigh] at hside
    | cons p before =>
      cases heq
      refine ⟨before, u, after, rfl, hside.imp_right fun ⟨hlow, hbefore⟩ ↦ ⟨hlow, ?_⟩⟩
      exact fun high hhigh hlast ↦ hbefore high hhigh (getLast?_cons_of_some hlast)
  · rintro ⟨before, u, after, rfl, hside⟩
    refine ⟨piece :: before, u, after, rfl, hside.imp_right fun ⟨hlow, hbefore⟩ ↦ ⟨hlow, ?_⟩⟩
    intro high hhigh hlast
    cases hb : before.getLast? with
    | none =>
      rw [List.getLast?_eq_none_iff.1 hb] at hlast
      cases hlast
      simp [hhigh] at h
    | some last =>
      rw [getLast?_cons_of_some hb] at hlast
      exact hbefore high hhigh (hb.trans hlast)

theorem unpaired_pair_iff {high low : Nat} {pieces : List Piece}
    (hhigh : isHighSurrogate high = true) (hlow : isLowSurrogate low = true) :
    Unpaired (.unit high :: .unit low :: pieces) ↔ Unpaired pieces := by
  have hnothigh : ∀ {u : Nat}, isHighSurrogate u = true → u ≠ low := by
    rintro u hu rfl
    rw [not_isLowSurrogate_of_isHighSurrogate hu] at hlow
    cases hlow
  constructor
  · rintro ⟨before, u, after, heq, hside⟩
    -- the unpaired one would be the high one, the low one or one behind the pair
    cases before with
    | nil =>
      cases heq
      rcases hside with ⟨-, hafter⟩ | ⟨hu, -⟩
      · exact absurd rfl (hafter low hlow)
      · rw [not_isLowSurrogate_of_isHighSurrogate hhigh] at hu
        cases hu
    | cons p before =>
      cases before with
      | nil =>
        cases heq
        rcases hside with ⟨hu, -⟩ | ⟨-, hbefore⟩
        · exact absurd rfl (hnothigh hu)
        · exact absurd rfl (hbefore high hhigh)
      | cons q before =>
        cases heq
        refine ⟨before, u, after, rfl, hside.imp_right fun ⟨hu, hbefore⟩ ↦ ⟨hu, ?_⟩⟩
        exact fun other hother hlast ↦
          hbefore other hother (getLast?_cons_of_some (getLast?_cons_of_some hlast))
  · rintro ⟨before, u, after, rfl, hside⟩
    refine ⟨.unit high :: .unit low :: before, u, after, rfl,
      hside.imp_right fun ⟨hu, hbefore⟩ ↦ ⟨hu, ?_⟩⟩
    intro other hother hlast
    cases hb : before.getLast? with
    | none =>
      rw [List.getLast?_eq_none_iff.1 hb] at hlast
      cases hlast
      exact hnothigh hother rfl
    | some last =>
      rw [getLast?_cons_of_some (getLast?_cons_of_some hb)] at hlast
      exact hbefore other hother (hb.trans hlast)

/-- A string has no characters just if some surrogate in it is unpaired. -/
theorem characters?_eq_none_iff {pieces : List Piece} :
    characters? pieces = none ↔ Unpaired pieces := by
  fun_induction characters? pieces with
  | case1 => simp [Unpaired]
  | case2 c pieces ih =>
    rw [Option.map_eq_none_iff, ih]
    exact (unpaired_cons_iff (by simp)).symm
  | case3 u pieces hlow =>
    exact iff_of_true rfl ⟨[], u, pieces, rfl, .inr ⟨hlow, by simp⟩⟩
  | case4 u hlow hhigh low pieces hpair ih =>
    rw [Option.map_eq_none_iff, ih]
    exact (unpaired_pair_iff hhigh hpair).symm
  | case5 u hlow hhigh low pieces hpair =>
    refine iff_of_true rfl ⟨[], u, _, rfl, .inl ⟨hhigh, ?_⟩⟩
    rintro other hother ⟨⟩
    exact hpair hother
  | case6 u pieces hlow hhigh hnone =>
    refine iff_of_true rfl ⟨[], u, pieces, rfl, .inl ⟨hhigh, fun low _ hhead ↦ ?_⟩⟩
    obtain ⟨after, rfl⟩ := List.head?_eq_some_iff.1 hhead
    exact hnone low after rfl
  | case7 u pieces hlow hhigh ih =>
    rw [Option.map_eq_none_iff, ih]
    refine (unpaired_cons_iff ?_).symm
    rintro _ ⟨⟩
    simp [hlow, hhigh]

theorem content?_eq_none_iff {pieces : List Piece} : content? pieces = none ↔ Unpaired pieces := by
  rw [content?, Option.map_eq_none_iff, characters?_eq_none_iff]

namespace Tree

/-- Some literal among these denotes nothing. -/
def AnyEmpty (numerals : List Numeral) (quotations : List (List Piece)) : Prop :=
  (∃ n ∈ numerals, n.Overflows) ∨ ∃ pieces ∈ quotations, Unpaired pieces

theorem anyEmpty_append_iff {numerals others : List Numeral} {quotations more : List (List Piece)} :
    AnyEmpty (numerals ++ others) (quotations ++ more) ↔
      AnyEmpty numerals quotations ∨ AnyEmpty others more := by
  simp only [AnyEmpty, List.mem_append, or_and_right, exists_or]
  exact or_or_or_comm

theorem anyEmpty_quotation_cons_iff {numerals : List Numeral} {key : List Piece}
    {quotations : List (List Piece)} :
    AnyEmpty numerals (key :: quotations) ↔ content? key = none ∨ AnyEmpty numerals quotations := by
  simp only [AnyEmpty, ← content?_eq_none_iff, List.mem_cons, exists_eq_or_imp]
  exact or_left_comm

mutual

theorem value?_eq_none_iff (tree : Tree) :
    tree.value? = none ↔ AnyEmpty tree.numerals tree.quotations := by
  cases tree with
  | null | bool => simp [value?, numerals, quotations, AnyEmpty]
  | numeral n => simp [value?, numerals, quotations, AnyEmpty, Numeral.Overflows]
  | string pieces => simp [value?, numerals, quotations, AnyEmpty, content?_eq_none_iff]
  | list items =>
    rw [value?, Option.map_eq_none_iff, numerals, quotations]
    exact valueItems?_eq_none_iff items
  | object members =>
    rw [value?, Option.map_eq_none_iff, numerals, quotations]
    exact valueMembers?_eq_none_iff [] members

theorem valueItems?_eq_none_iff (items : List Tree) :
    valueItems? items = none ↔ AnyEmpty (numeralsOfItems items) (quotationsOfItems items) := by
  cases items with
  | nil => simp [valueItems?, numeralsOfItems, quotationsOfItems, AnyEmpty]
  | cons item rest =>
    rw [numeralsOfItems, quotationsOfItems, anyEmpty_append_iff, ← value?_eq_none_iff item,
      ← valueItems?_eq_none_iff rest, valueItems?]
    cases item.value? <;> cases valueItems? rest <;> simp

theorem valueMembers?_eq_none_iff (before : Members) (members : List (List Piece × Tree)) :
    valueMembers? before members = none ↔
      AnyEmpty (numeralsOfMembers members) (quotationsOfMembers members) := by
  cases members with
  | nil => simp [valueMembers?, numeralsOfMembers, quotationsOfMembers, AnyEmpty]
  | cons member rest =>
    obtain ⟨key, item⟩ := member
    rw [numeralsOfMembers, quotationsOfMembers, List.cons_append, anyEmpty_quotation_cons_iff,
      anyEmpty_append_iff, ← value?_eq_none_iff item, valueMembers?]
    cases content? key with
    | none => simp
    | some name =>
      cases item.value? with
      | none => simp
      | some value => simpa using valueMembers?_eq_none_iff (before.insert name value) rest

end

theorem valueMembers?_ne_nil {before all : Members} {members : List (List Piece × Tree)}
    (h : valueMembers? before members = some all) (hbefore : before ≠ []) : all ≠ [] := by
  induction members generalizing before with
  | nil =>
    cases h
    exact hbefore
  | cons member rest ih =>
    rw [valueMembers?] at h
    split at h
    next => exact ih h (Members.insert_ne_nil _ _ _)
    next => cases h

/-- An object has no members just if its tree has none. -/
theorem eq_nil_of_valueMembers? {members : List (List Piece × Tree)}
    (h : valueMembers? [] members = some []) : members = [] := by
  cases members with
  | nil => rfl
  | cons member rest =>
    rw [valueMembers?] at h
    split at h
    next => exact absurd rfl (valueMembers?_ne_nil h (Members.insert_ne_nil _ _ _))
    next => cases h

/-- However the members of an object stand in its text, they are read into a sorted map. -/
theorem sorted_of_valueMembers? {before all : Members} {members : List (List Piece × Tree)}
    (h : valueMembers? before members = some all) (hbefore : before.Sorted) : all.Sorted := by
  induction members generalizing before with
  | nil =>
    cases h
    exact hbefore
  | cons member rest ih =>
    rw [valueMembers?] at h
    split at h
    next => exact ih h (Members.sorted_insert hbefore _ _)
    next => cases h

/-- The keys of an object are what the keys in its text stand for. -/
theorem contains_of_valueMembers? {before all : Members} {members : List (List Piece × Tree)}
    (h : valueMembers? before members = some all) (name : String) :
    all.contains name = true ↔
      before.contains name = true ∨ ∃ member ∈ members, content? member.1 = some name := by
  induction members generalizing before with
  | nil =>
    cases h
    simp
  | cons member rest ih =>
    obtain ⟨key, item⟩ := member
    rw [valueMembers?] at h
    split at h
    next found value hkey _ =>
      have hfirst : content? key = some name ↔ name = found := by
        rw [hkey, Option.some.injEq, eq_comm]
      simp only [ih h, Members.contains_insert, List.mem_cons, exists_eq_or_imp, hfirst]
      exact or_assoc.trans or_left_comm
    next => cases h

/-- A value that is null or an object comes from a tree that is. -/
theorem eq_null_or_object_of_kind {tree : Tree} {value : Json} (h : tree.value? = some value)
    (hkind : value.kind = .null ∨ value.kind = .object) :
    tree = .null ∨ ∃ members, tree = .object members := by
  cases tree with
  | null => exact .inl rfl
  | object members => exact .inr ⟨members, rfl⟩
  | bool b =>
    cases h
    simp [kind] at hkind
  | numeral n =>
    rcases Numeral.kind_of_value? h with hn | hn <;> simp [hn] at hkind
  | string pieces =>
    obtain ⟨content, -, rfl⟩ := Option.map_eq_some_iff.1 h
    simp [kind] at hkind
  | list items =>
    obtain ⟨values, -, rfl⟩ := Option.map_eq_some_iff.1 h
    simp [kind] at hkind

end Tree

/-! ### Depth -/

theorem depthItems_le_iff {items : List Json} {depth : Nat} :
    depthItems items ≤ depth ↔ ∀ item ∈ items, item.depth ≤ depth := by
  induction items with
  | nil => simp [depthItems]
  | cons item rest ih => rw [depthItems, Nat.max_le, ih, List.forall_mem_cons]

theorem depthMembers_le_iff {members : Members} {depth : Nat} :
    depthMembers members ≤ depth ↔ ∀ entry ∈ members, entry.2.depth ≤ depth := by
  induction members with
  | nil => simp [depthMembers]
  | cons entry rest ih => rw [depthMembers, Nat.max_le, ih, List.forall_mem_cons]

theorem depthMembers_insert_le {members : Members} {key : String} {value : Json} {depth : Nat}
    (h : depthMembers members ≤ depth) (hvalue : value.depth ≤ depth) :
    depthMembers (members.insert key value) ≤ depth := by
  rw [depthMembers_le_iff] at h ⊢
  intro entry hentry
  rcases Members.eq_or_mem_of_mem_insert hentry with rfl | hmem
  · exact hvalue
  · exact h entry hmem

namespace Tree

mutual

/-- A value nests no deeper than its tree; members that are replaced may have nested deeper. -/
theorem depth_le_of_value? {tree : Tree} {value : Json} (h : tree.value? = some value) :
    value.depth ≤ tree.depth := by
  cases tree with
  | null | bool =>
    cases h
    exact Nat.le_refl 0
  | numeral n =>
    have hkind := Numeral.kind_of_value? h
    cases value <;> simp [kind] at hkind <;> exact Nat.le_refl 0
  | string pieces =>
    obtain ⟨content, -, rfl⟩ := Option.map_eq_some_iff.1 h
    exact Nat.le_refl 0
  | list items =>
    obtain ⟨values, hvalues, rfl⟩ := Option.map_eq_some_iff.1 h
    exact Nat.succ_le_succ (depthItems_le_of_valueItems? hvalues)
  | object members =>
    obtain ⟨all, hall, rfl⟩ := Option.map_eq_some_iff.1 h
    exact Nat.succ_le_succ (depthMembers_le_of_valueMembers? hall (Nat.zero_le _) (Nat.le_refl _))

theorem depthItems_le_of_valueItems? {items : List Tree} {values : List Json}
    (h : valueItems? items = some values) : Json.depthItems values ≤ depthItems items := by
  cases items with
  | nil =>
    cases h
    exact Nat.le_refl 0
  | cons item rest =>
    rw [valueItems?] at h
    split at h
    next value others hvalue hothers =>
      cases h
      have hvalue := depth_le_of_value? hvalue
      have hothers := depthItems_le_of_valueItems? hothers
      rw [Json.depthItems, depthItems]
      omega
    next => cases h

theorem depthMembers_le_of_valueMembers? {before all : Members}
    {members : List (List Piece × Tree)} {depth : Nat} (h : valueMembers? before members = some all)
    (hbefore : Json.depthMembers before ≤ depth) (hmembers : depthMembers members ≤ depth) :
    Json.depthMembers all ≤ depth := by
  cases members with
  | nil =>
    cases h
    exact hbefore
  | cons member rest =>
    obtain ⟨key, item⟩ := member
    rw [valueMembers?] at h
    rw [depthMembers, Nat.max_le] at hmembers
    split at h
    next name value hname hvalue =>
      have hvalue := Nat.le_trans (depth_le_of_value? hvalue) hmembers.1
      exact depthMembers_le_of_valueMembers? h (depthMembers_insert_le hbefore hvalue) hmembers.2
    next => cases h

end

end Tree

/-! ### Exact values -/

mutual

/-- A value whose numbers are integers of 64 bits and whose objects are sorted. -/
def Exact : Json → Prop
  | .null | .bool _ | .string _ => True
  | .integer i => -(Nat.pow 2 63 : Nat) ≤ i ∧ i < (Nat.pow 2 64 : Nat)
  | .real _ => False
  | .list items => ExactItems items
  | .object members => Members.Sorted members ∧ ExactMembers members

def ExactItems : List Json → Prop
  | [] => True
  | item :: rest => item.Exact ∧ ExactItems rest

def ExactMembers : List (String × Json) → Prop
  | [] => True
  | (_, value) :: rest => value.Exact ∧ ExactMembers rest

end

theorem exactItems_iff {items : List Json} : ExactItems items ↔ ∀ item ∈ items, item.Exact := by
  induction items with
  | nil => simp [ExactItems]
  | cons item rest ih => simp [ExactItems, ih]

theorem exactMembers_iff {members : Members} :
    ExactMembers members ↔ ∀ entry ∈ members, entry.2.Exact := by
  induction members with
  | nil => simp [ExactMembers]
  | cons entry rest ih => simp [ExactMembers, ih]

theorem exactMembers_insert {members : Members} {key : String} {value : Json}
    (h : ExactMembers members) (hvalue : value.Exact) :
    ExactMembers (members.insert key value) := by
  rw [exactMembers_iff] at h ⊢
  intro entry hentry
  rcases Members.eq_or_mem_of_mem_insert hentry with rfl | hmem
  · exact hvalue
  · exact h entry hmem

theorem absorb_eq {n : Nat} {digits : List Char}
    (h : digits.foldl (fun n c ↦ 10 * n + Text.digitValue c) n < coefficientLimit) :
    absorb n digits = (digits.foldl (fun n c ↦ 10 * n + Text.digitValue c) n, []) := by
  induction digits generalizing n with
  | nil => rfl
  | cons d digits ih =>
    have hle := le_foldl_digits (10 * n + Text.digitValue d) digits
    rw [List.foldl_cons] at h
    simp only [absorb, if_pos (Nat.lt_of_le_of_lt hle h)]
    exact ih h

/-- The integer that a whole literal denotes. -/
def Numeral.integer (n : Numeral) : Int :=
  if n.negative then -(natural n.whole : Int) else natural n.whole

theorem Numeral.value?_of_whole {n : Numeral} (h : n.Whole) :
    n.value? = some (.integer n.integer) := by
  obtain ⟨negative, whole, fraction, exponent⟩ := n
  obtain ⟨rfl, rfl, hpositive, hnegative⟩ := h
  have hlimit : natural whole < coefficientLimit := by
    cases negative with
    | false => exact hpositive rfl
    | true => exact Nat.lt_of_le_of_lt (hnegative rfl).2 (by decide)
  have habsorb : absorb 0 whole = (natural whole, []) := absorb_eq hlimit
  simp only [value?, finished?, habsorb, List.length_nil, if_true, integerOf, integer]
  cases negative with
  | false => simp
  | true =>
    obtain ⟨hzero, hmost⟩ := hnegative rfl
    simp only [Bool.not_true, Bool.false_eq_true, if_false, if_true]
    rw [if_neg]
    simp only [Bool.or_eq_true, decide_eq_true_eq, not_or, Nat.not_lt]
    exact ⟨Nat.ne_of_gt hzero, hmost⟩

theorem Numeral.exact_integer {n : Numeral} (h : n.Whole) : (Json.integer n.integer).Exact := by
  simp only [Exact, integer]
  cases hsign : n.negative with
  | false =>
    have hpositive := h.positive hsign
    simp only [Bool.false_eq_true, if_false]
    omega
  | true =>
    have hnegative := h.negative hsign
    simp only [if_true]
    omega

namespace Tree

/-- Every number literal is that of an integer of 64 bits, and none is minus zero. -/
def Whole (tree : Tree) : Prop :=
  ∀ n ∈ tree.numerals, n.Whole

mutual

theorem exact_of_value? {tree : Tree} {value : Json} (h : ∀ n ∈ tree.numerals, n.Whole)
    (hvalue : tree.value? = some value) : value.Exact := by
  cases tree with
  | null | bool =>
    cases hvalue
    trivial
  | numeral n =>
    have hn := h n (List.mem_singleton_self n)
    rw [value?, Numeral.value?_of_whole hn] at hvalue
    cases hvalue
    exact Numeral.exact_integer hn
  | string pieces =>
    obtain ⟨content, -, rfl⟩ := Option.map_eq_some_iff.1 hvalue
    trivial
  | list items =>
    obtain ⟨values, hvalues, rfl⟩ := Option.map_eq_some_iff.1 hvalue
    exact exactItems_of_valueItems? h hvalues
  | object members =>
    obtain ⟨all, hall, rfl⟩ := Option.map_eq_some_iff.1 hvalue
    exact exactMembers_of_valueMembers? h hall List.Pairwise.nil trivial

theorem exactItems_of_valueItems? {items : List Tree} {values : List Json}
    (h : ∀ n ∈ numeralsOfItems items, n.Whole) (hvalues : valueItems? items = some values) :
    ExactItems values := by
  cases items with
  | nil =>
    cases hvalues
    trivial
  | cons item rest =>
    rw [numeralsOfItems, List.forall_mem_append] at h
    rw [valueItems?] at hvalues
    split at hvalues
    next value others hvalue hothers =>
      cases hvalues
      exact ⟨exact_of_value? h.1 hvalue, exactItems_of_valueItems? h.2 hothers⟩
    next => cases hvalues

theorem exactMembers_of_valueMembers? {before all : Members} {members : List (List Piece × Tree)}
    (h : ∀ n ∈ numeralsOfMembers members, n.Whole)
    (hall : valueMembers? before members = some all) (hsorted : Members.Sorted before)
    (hbefore : ExactMembers before) : Members.Sorted all ∧ ExactMembers all := by
  cases members with
  | nil =>
    cases hall
    exact ⟨hsorted, hbefore⟩
  | cons member rest =>
    obtain ⟨key, item⟩ := member
    rw [numeralsOfMembers, List.forall_mem_append] at h
    rw [valueMembers?] at hall
    split at hall
    next name value hname hvalue =>
      exact exactMembers_of_valueMembers? h.2 hall (Members.sorted_insert hsorted name value)
        (exactMembers_insert hbefore (exact_of_value? h.1 hvalue))
    next => cases hall

end

end Tree

end Brokerage.Json
