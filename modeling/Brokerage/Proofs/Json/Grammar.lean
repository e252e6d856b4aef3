import Brokerage.Json.Numeral
import Brokerage.Json.Quotation

/-!
The grammar of JSON. A text is told apart into a tree that keeps its literals as they are written.
`Spelled tree s rest` says that `s` begins with a spelling of the tree and goes on with `rest`. A
literal takes as much of the text as it can, so that a text spells one tree at most.
-/

set_option autoImplicit false

namespace Brokerage.Json

open Text (naturalIn isHexDigit)

/-! ### Number literals -/

/-- All the digits at the front of a text, of which there is one at least. -/
structure DigitRun (digits s rest : List Char) : Prop where
  taken : s.takeWhile Char.isDigit = digits
  left : s.dropWhile Char.isDigit = rest
  nonempty : digits ≠ []

/-- A number literal: its sign, the digits before and behind the decimal point, and the digits of
its exponent, with whether it is negative. -/
structure Numeral where
  negative : Bool
  whole : List Char
  fraction : Option (List Char)
  exponent : Option (Bool × List Char)

namespace Numeral

inductive FractionSpelled : Option (List Char) → List Char → List Char → Prop
  | absent {s : List Char} (hpoint : s.head? ≠ some '.') : FractionSpelled none s s
  | present {digits s rest : List Char} (hdigits : DigitRun digits s rest) :
    FractionSpelled (some digits) ('.' :: s) rest

/-- The sign of an exponent, which may be left out. -/
inductive SignSpelled : (down : Bool) → List Char → List Char → Prop
  | unsigned (s : List Char) : SignSpelled false s s
  | plus (s : List Char) : SignSpelled false ('+' :: s) s
  | minus (s : List Char) : SignSpelled true ('-' :: s) s

inductive ExponentSpelled : Option (Bool × List Char) → List Char → List Char → Prop
  | absent {s : List Char} (hletter : ∀ c ∈ s.head?, isExponentLetter c = false) :
    ExponentSpelled none s s
  | present {letter : Char} {down : Bool} {digits s front rest : List Char}
    (hletter : isExponentLetter letter = true) (hsign : SignSpelled down s front)
    (hdigits : DigitRun digits front rest) :
    ExponentSpelled (some (down, digits)) (letter :: s) rest

/-- A literal without its sign. A leading zero stands alone. -/
inductive MagnitudeSpelled (whole : List Char) (fraction : Option (List Char))
    (exponent : Option (Bool × List Char)) : List Char → List Char → Prop
  | parts {s behindWhole behindFraction rest : List Char} (hwhole : DigitRun whole s behindWhole)
    (hzero : whole.head? = some '0' → whole = ['0'])
    (hfraction : FractionSpelled fraction behindWhole behindFraction)
    (hexponent : ExponentSpelled exponent behindFraction rest) :
    MagnitudeSpelled whole fraction exponent s rest

inductive Spelled : Numeral → List Char → List Char → Prop
  | positive {whole : List Char} {fraction : Option (List Char)}
    {exponent : Option (Bool × List Char)} {s rest : List Char}
    (h : MagnitudeSpelled whole fraction exponent s rest) :
    Spelled ⟨false, whole, fraction, exponent⟩ s rest
  | negative {whole : List Char} {fraction : Option (List Char)}
    {exponent : Option (Bool × List Char)} {s rest : List Char}
    (h : MagnitudeSpelled whole fraction exponent s rest) :
    Spelled ⟨true, whole, fraction, exponent⟩ ('-' :: s) rest

end Numeral

/-! ### String literals -/

/-- What stands in a string: a character, by itself or by a named escape, or the unit of sixteen
bits of an escape by number. -/
inductive Piece where
  | char (c : Char)
  | unit (u : Nat)

/-- The pieces of a string from behind its opening quote, to behind its closing one. -/
inductive Quoted : List Piece → List Char → List Char → Prop
  | close (rest : List Char) : Quoted [] ('"' :: rest) rest
  | plain {c : Char} {pieces : List Piece} {s rest : List Char} (hquote : c ≠ '"')
    (hslash : c ≠ '\\') (hcontrol : 0x20 ≤ c.toNat) (h : Quoted pieces s rest) :
    Quoted (.char c :: pieces) (c :: s) rest
  | named {letter c : Char} {pieces : List Piece} {s rest : List Char}
    (hnamed : namedEscape? letter = some c) (h : Quoted pieces s rest) :
    Quoted (.char c :: pieces) ('\\' :: letter :: s) rest
  | numbered {a b c d : Char} {pieces : List Piece} {s rest : List Char}
    (hhex : [a, b, c, d].all isHexDigit = true) (h : Quoted pieces s rest) :
    Quoted (.unit (naturalIn 16 [a, b, c, d]) :: pieces) ('\\' :: 'u' :: a :: b :: c :: d :: s)
      rest

/-! ### Values -/

/-- What a text says, before its numbers and escapes are looked at. -/
inductive Tree where
  | null
  | bool (b : Bool)
  | numeral (n : Numeral)
  | string (pieces : List Piece)
  | list (items : List Tree)
  | object (members : List (List Piece × Tree))

namespace Tree

mutual

/-- The number of arrays and objects around the innermost value. -/
def depth : Tree → Nat
  | .list items => depthItems items + 1
  | .object members => depthMembers members + 1
  | .null | .bool _ | .numeral _ | .string _ => 0

def depthItems : List Tree → Nat
  | [] => 0
  | item :: rest => max item.depth (depthItems rest)

def depthMembers : List (List Piece × Tree) → Nat
  | [] => 0
  | (_, value) :: rest => max value.depth (depthMembers rest)

end

end Tree

/-- What has to stand before an item or a member: nothing before the first one, and a comma before
each other. -/
inductive Leads : (first : Bool) → List Char → List Char → Prop
  | first (s : List Char) : Leads true s s
  | comma {s behind : List Char} (h : skipSpaces s = ',' :: behind) : Leads false s behind

mutual

inductive Spelled : Tree → List Char → List Char → Prop
  | null (rest : List Char) : Spelled .null ('n' :: 'u' :: 'l' :: 'l' :: rest) rest
  | true (rest : List Char) : Spelled (.bool true) ('t' :: 'r' :: 'u' :: 'e' :: rest) rest
  | false (rest : List Char) :
    Spelled (.bool false) ('f' :: 'a' :: 'l' :: 's' :: 'e' :: rest) rest
  | numeral {n : Numeral} {s rest : List Char} (h : n.Spelled s rest) :
    Spelled (.numeral n) s rest
  | string {pieces : List Piece} {s rest : List Char} (h : Quoted pieces s rest) :
    Spelled (.string pieces) ('"' :: s) rest
  | list {items : List Tree} {s rest : List Char} (h : ItemsSpelled true items s rest) :
    Spelled (.list items) ('[' :: s) rest
  | object {members : List (List Piece × Tree)} {s rest : List Char}
    (h : MembersSpelled true members s rest) : Spelled (.object members) ('{' :: s) rest

/-- The items of an array up to its end; `first` as long as none stands before. -/
inductive ItemsSpelled : (first : Bool) → List Tree → List Char → List Char → Prop
  | close {first : Bool} {s rest : List Char} (h : skipSpaces s = ']' :: rest) :
    ItemsSpelled first [] s rest
  | item {first : Bool} {item : Tree} {items : List Tree} {s front after rest : List Char}
    (hlead : Leads first s front) (hitem : Spelled item (skipSpaces front) after)
    (hitems : ItemsSpelled false items after rest) : ItemsSpelled first (item :: items) s rest

/-- The members of an object up to its end. -/
inductive MembersSpelled :
    (first : Bool) → List (List Piece × Tree) → List Char → List Char → Prop
  | close {first : Bool} {s rest : List Char} (h : skipSpaces s = '}' :: rest) :
    MembersSpelled first [] s rest
  | member {first : Bool} {key : List Piece} {value : Tree} {members : List (List Piece × Tree)}
    {s front quoted behindKey behindColon after rest : List Char} (hlead : Leads first s front)
    (hquote : skipSpaces front = '"' :: quoted) (hkey : Quoted key quoted behindKey)
    (hcolon : skipSpaces behindKey = ':' :: behindColon)
    (hvalue : Spelled value (skipSpaces behindColon) after)
    (hmembers : MembersSpelled false members after rest) :
    MembersSpelled first ((key, value) :: members) s rest

end

/-- A text spells a tree, and nothing but white space around it. -/
def Tree.Spells (tree : Tree) (text : String) : Prop :=
  ∃ rest, Spelled tree (skipSpaces text.toList) rest ∧ skipSpaces rest = []

/-! ### Fronts and lengths -/

theorem isSpace_head_skipSpaces (s : List Char) :
    ∀ c ∈ (skipSpaces s).head?, isSpace c = false := by
  induction s with
  | nil => simp [skipSpaces]
  | cons c rest ih =>
    rw [skipSpaces]
    split
    next => exact ih
    next hspace => simpa using hspace

theorem skipSpaces_cons {c : Char} (h : isSpace c = false) (rest : List Char) :
    skipSpaces (c :: rest) = c :: rest := by
  rw [skipSpaces, if_neg (by simp [h])]

@[simp] theorem skipSpaces_skipSpaces (s : List Char) :
    skipSpaces (skipSpaces s) = skipSpaces s := by
  have hhead := isSpace_head_skipSpaces s
  cases hs : skipSpaces s with
  | nil => rfl
  | cons c rest =>
    rw [hs] at hhead
    exact skipSpaces_cons (hhead c rfl) rest

theorem length_skipSpaces_le (s : List Char) : (skipSpaces s).length ≤ s.length := by
  induction s with
  | nil => exact Nat.le_refl 0
  | cons c rest ih =>
    rw [skipSpaces]
    split
    next => exact Nat.le_succ_of_le ih
    next => exact Nat.le_refl _

theorem length_lt_of_skipSpaces {c : Char} {s rest : List Char} (h : skipSpaces s = c :: rest) :
    rest.length < s.length := by
  have hs := length_skipSpaces_le s
  rw [h, List.length_cons] at hs
  exact hs

theorem DigitRun.of_isDigit {c : Char} (h : c.isDigit = true) (rest : List Char) :
    DigitRun ((c :: rest).takeWhile Char.isDigit) (c :: rest)
      ((c :: rest).dropWhile Char.isDigit) :=
  ⟨rfl, rfl, by simp [h]⟩

/-- What follows a run does not go on with a digit. -/
theorem DigitRun.isDigit_head {digits s rest : List Char} (h : DigitRun digits s rest) :
    ∀ c ∈ rest.head?, c.isDigit = false := by
  rw [← h.left]
  intro c hc
  have hnot := List.head?_dropWhile_not Char.isDigit s
  rw [hc] at hnot
  exact hnot

theorem DigitRun.of_zero {rest : List Char} (h : ∀ c ∈ rest.head?, c.isDigit = false) :
    DigitRun ['0'] ('0' :: rest) rest := by
  cases rest with
  | nil => exact ⟨rfl, rfl, by simp⟩
  | cons c tail =>
    have hc : c.isDigit = false := h c rfl
    exact ⟨by simp [hc], by simp [hc], by simp⟩

theorem DigitRun.exists_cons {digits s rest : List Char} (h : DigitRun digits s rest) :
    ∃ c tail, s = c :: tail ∧ c.isDigit = true ∧ digits.head? = some c := by
  obtain ⟨rfl, rfl, hnonempty⟩ := h
  cases s with
  | nil => exact absurd rfl hnonempty
  | cons c tail =>
    rw [List.takeWhile_cons] at hnonempty
    split at hnonempty
    next hc => exact ⟨c, tail, rfl, hc, by simp [hc]⟩
    next => exact absurd rfl hnonempty

theorem DigitRun.eq_append {digits s rest : List Char} (h : DigitRun digits s rest) :
    s = digits ++ rest := by
  rw [← h.taken, ← h.left, List.takeWhile_append_dropWhile]

theorem DigitRun.length_lt {digits s rest : List Char} (h : DigitRun digits s rest) :
    rest.length < s.length := by
  rw [h.eq_append, List.length_append]
  exact Nat.lt_add_of_pos_left (List.length_pos_iff.2 h.nonempty)

namespace Numeral

theorem FractionSpelled.length_le {fraction : Option (List Char)} {s rest : List Char}
    (h : FractionSpelled fraction s rest) : rest.length ≤ s.length := by
  cases h with
  | absent => exact Nat.le_refl _
  | present hdigits => exact Nat.le_succ_of_le (Nat.le_of_lt hdigits.length_lt)

theorem SignSpelled.length_le {down : Bool} {s rest : List Char} (h : SignSpelled down s rest) :
    rest.length ≤ s.length := by
  cases h <;> simp

theorem ExponentSpelled.length_le {exponent : Option (Bool × List Char)} {s rest : List Char}
    (h : ExponentSpelled exponent s rest) : rest.length ≤ s.length := by
  cases h with
  | absent => exact Nat.le_refl _
  | present hletter hsign hdigits =>
    exact Nat.le_succ_of_le (Nat.le_trans (Nat.le_of_lt hdigits.length_lt) hsign.length_le)

theorem MagnitudeSpelled.length_lt {whole : List Char} {fraction : Option (List Char)}
    {exponent : Option (Bool × List Char)} {s rest : List Char}
    (h : MagnitudeSpelled whole fraction exponent s rest) : rest.length < s.length := by
  cases h with
  | parts hwhole hzero hfraction hexponent =>
    exact Nat.lt_of_le_of_lt (Nat.le_trans hexponent.length_le hfraction.length_le) hwhole.length_lt

theorem Spelled.length_lt {n : Numeral} {s rest : List Char} (h : n.Spelled s rest) :
    rest.length < s.length := by
  cases h with
  | positive h => exact h.length_lt
  | negative h => exact Nat.lt_succ_of_lt h.length_lt

end Numeral

theorem Quoted.length_lt {pieces : List Piece} {s rest : List Char} (h : Quoted pieces s rest) :
    rest.length < s.length := by
  induction h with
  | close rest => exact Nat.lt_succ_self _
  | plain _ _ _ _ ih => exact Nat.lt_succ_of_lt ih
  | named _ _ ih => simp only [List.length_cons]; omega
  | numbered _ _ ih => simp only [List.length_cons]; omega

theorem Leads.length_le {first : Bool} {s front : List Char} (h : Leads first s front) :
    (skipSpaces front).length ≤ s.length := by
  cases h with
  | first => exact length_skipSpaces_le s
  | comma h =>
    exact Nat.le_of_lt (Nat.lt_of_le_of_lt (length_skipSpaces_le front) (length_lt_of_skipSpaces h))

mutual

theorem Spelled.length_lt {tree : Tree} {s rest : List Char} (h : Spelled tree s rest) :
    rest.length < s.length := by
  cases h with
  | null | true | false => simp only [List.length_cons]; omega
  | numeral h => exact h.length_lt
  | string h => exact Nat.lt_succ_of_lt h.length_lt
  | list h => exact Nat.lt_succ_of_lt h.length_lt
  | object h => exact Nat.lt_succ_of_lt h.length_lt

theorem ItemsSpelled.length_lt {first : Bool} {items : List Tree} {s rest : List Char}
    (h : ItemsSpelled first items s rest) : rest.length < s.length := by
  cases h with
  | close h => exact length_lt_of_skipSpaces h
  | item hlead hitem hitems =>
    exact Nat.lt_trans hitems.length_lt (Nat.lt_of_lt_of_le hitem.length_lt hlead.length_le)

theorem MembersSpelled.length_lt {first : Bool} {members : List (List Piece × Tree)}
    {s rest : List Char} (h : MembersSpelled first members s rest) : rest.length < s.length := by
  cases h with
  | close h => exact length_lt_of_skipSpaces h
  | member hlead hquote hkey hcolon hvalue hmembers =>
    have hfront := hlead.length_le
    have hquoted := hkey.length_lt
    have hbehindColon := length_lt_of_skipSpaces hcolon
    have hafter := Nat.lt_of_lt_of_le hvalue.length_lt (length_skipSpaces_le _)
    have hrest := hmembers.length_lt
    rw [hquote, List.length_cons] at hfront
    omega

end

/-! ### Unambiguity -/

theorem DigitRun.unique {digits others s rest last : List Char} (h : DigitRun digits s rest)
    (hother : DigitRun others s last) : digits = others ∧ rest = last :=
  ⟨h.taken.symm.trans hother.taken, h.left.symm.trans hother.left⟩

namespace Numeral

theorem FractionSpelled.unique {fraction other : Option (List Char)} {s rest last : List Char}
    (h : FractionSpelled fraction s rest) (hother : FractionSpelled other s last) :
    fraction = other ∧ rest = last := by
  cases h with
  | absent hpoint =>
    cases hother with
    | absent => exact ⟨rfl, rfl⟩
    | present => exact absurd rfl hpoint
  | present hdigits =>
    cases hother with
    | absent hpoint => exact absurd rfl hpoint
    | present hothers =>
      obtain ⟨rfl, rfl⟩ := hdigits.unique hothers
      exact ⟨rfl, rfl⟩

/-- Digits do not begin with a sign. -/
theorem SignSpelled.unique {down up : Bool} {digits others s front behind rest last : List Char}
    (h : SignSpelled down s front) (hdigits : DigitRun digits front rest)
    (hother : SignSpelled up s behind) (hothers : DigitRun others behind last) :
    down = up ∧ digits = others ∧ rest = last := by
  have hplus : ∀ {run t left : List Char}, ¬ DigitRun run ('+' :: t) left := fun hrun ↦ by
    obtain ⟨c, tail, heq, hc, -⟩ := hrun.exists_cons
    cases heq
    cases hc
  have hminus : ∀ {run t left : List Char}, ¬ DigitRun run ('-' :: t) left := fun hrun ↦ by
    obtain ⟨c, tail, heq, hc, -⟩ := hrun.exists_cons
    cases heq
    cases hc
  cases h with
  | unsigned =>
    cases hother with
    | unsigned => exact ⟨rfl, hdigits.unique hothers⟩
    | plus => exact absurd hdigits hplus
    | minus => exact absurd hdigits hminus
  | plus =>
    cases hother with
    | unsigned => exact absurd hothers hplus
    | plus => exact ⟨rfl, hdigits.unique hothers⟩
  | minus =>
    cases hother with
    | unsigned => exact absurd hothers hminus
    | minus => exact ⟨rfl, hdigits.unique hothers⟩

theorem ExponentSpelled.unique {exponent other : Option (Bool × List Char)}
    {s rest last : List Char} (h : ExponentSpelled exponent s rest)
    (hother : ExponentSpelled other s last) : exponent = other ∧ rest = last := by
  cases h with
  | absent hletter =>
    cases hother with
    | absent => exact ⟨rfl, rfl⟩
    | present hpresent => exact absurd (hletter _ rfl) (by simp [hpresent])
  | present hletter hsign hdigits =>
    cases hother with
    | absent habsent => exact absurd (habsent _ rfl) (by simp [hletter])
    | present _ hsigned hothers =>
      obtain ⟨rfl, rfl, rfl⟩ := hsign.unique hdigits hsigned hothers
      exact ⟨rfl, rfl⟩

theorem MagnitudeSpelled.unique {whole others : List Char} {fraction other : Option (List Char)}
    {exponent power : Option (Bool × List Char)} {s rest last : List Char}
    (h : MagnitudeSpelled whole fraction exponent s rest)
    (hother : MagnitudeSpelled others other power s last) :
    whole = others ∧ fraction = other ∧ exponent = power ∧ rest = last := by
  cases h with
  | parts hwhole _ hfraction hexponent =>
    cases hother with
    | parts hothers _ hother hpower =>
      obtain ⟨rfl, rfl⟩ := hwhole.unique hothers
      obtain ⟨rfl, rfl⟩ := hfraction.unique hother
      obtain ⟨rfl, rfl⟩ := hexponent.unique hpower
      exact ⟨rfl, rfl, rfl, rfl⟩

theorem MagnitudeSpelled.front {whole : List Char} {fraction : Option (List Char)}
    {exponent : Option (Bool × List Char)} {s rest : List Char}
    (h : MagnitudeSpelled whole fraction exponent s rest) :
    ∃ c tail, s = c :: tail ∧ c.isDigit = true := by
  cases h with
  | parts hwhole _ _ _ =>
    obtain ⟨c, tail, rfl, hc, -⟩ := hwhole.exists_cons
    exact ⟨c, tail, rfl, hc⟩

theorem Spelled.unique {n other : Numeral} {s rest last : List Char} (h : n.Spelled s rest)
    (hother : other.Spelled s last) : n = other ∧ rest = last := by
  have hminus : ∀ {whole fraction exponent t left},
      ¬ MagnitudeSpelled whole fraction exponent ('-' :: t) left := fun h ↦ by
    obtain ⟨c, tail, heq, hc⟩ := h.front
    cases heq
    cases hc
  cases h with
  | positive h =>
    cases hother with
    | positive hother =>
      obtain ⟨rfl, rfl, rfl, rfl⟩ := h.unique hother
      exact ⟨rfl, rfl⟩
    | negative => exact absurd h hminus
  | negative h =>
    cases hother with
    | positive hother => exact absurd hother hminus
    | negative hother =>
      obtain ⟨rfl, rfl, rfl, rfl⟩ := h.unique hother
      exact ⟨rfl, rfl⟩

/-- A number literal begins with a digit or with a minus sign. -/
theorem Spelled.front {n : Numeral} {s rest : List Char} (h : n.Spelled s rest) :
    ∃ c tail, s = c :: tail ∧ (c = '-' ∨ c.isDigit = true) := by
  cases h with
  | positive h =>
    obtain ⟨c, tail, rfl, hc⟩ := h.front
    exact ⟨c, tail, rfl, .inr hc⟩
  | negative h => exact ⟨'-', _, rfl, .inl rfl⟩

end Numeral

theorem Quoted.unique {pieces others : List Piece} {s rest last : List Char}
    (h : Quoted pieces s rest) (hother : Quoted others s last) : pieces = others ∧ rest = last := by
  induction h generalizing others with
  | close =>
    cases hother with
    | close => exact ⟨rfl, rfl⟩
    | plain hquote => exact absurd rfl hquote
  | plain hquote hslash hcontrol h ih =>
    cases hother with
    | close => exact absurd rfl hquote
    | plain _ _ _ hother =>
      obtain ⟨rfl, rfl⟩ := ih hother
      exact ⟨rfl, rfl⟩
    | named | numbered => exact absurd rfl hslash
  | named hnamed h ih =>
    cases hother with
    | plain _ hslash => exact absurd rfl hslash
    | named hother hrest =>
      obtain ⟨rfl, rfl⟩ := ih hrest
      cases hnamed.symm.trans hother
      exact ⟨rfl, rfl⟩
    | numbered => cases hnamed
  | numbered hhex h ih =>
    cases hother with
    | plain _ hslash => exact absurd rfl hslash
    | named hother => cases hother
    | numbered _ hother =>
      obtain ⟨rfl, rfl⟩ := ih hother
      exact ⟨rfl, rfl⟩

/-! A value does not begin with the end of an array, so that the end is told from an item. -/

theorem Spelled.front_ne {tree : Tree} {s rest : List Char} (h : Spelled tree s rest) :
    s.head? ≠ some ']' ∧ s.head? ≠ some '}' ∧ s.head? ≠ some ',' := by
  cases h with
  | numeral h =>
    obtain ⟨c, tail, rfl, rfl | hc⟩ := h.front
    · simp
    · simp only [List.head?_cons, ne_eq, Option.some.injEq]
      refine ⟨?_, ?_, ?_⟩ <;> rintro rfl <;> cases hc
  | _ => simp

theorem Spelled.exists_cons {tree : Tree} {s rest : List Char} (h : Spelled tree s rest) :
    ∃ c tail, s = c :: tail ∧ c ≠ ']' ∧ c ≠ '}' ∧ c ≠ ',' := by
  have hfront := h.front_ne
  cases s with
  | nil => exact absurd h.length_lt (Nat.not_lt_zero _)
  | cons c tail => exact ⟨c, tail, rfl, by simpa using hfront⟩

/-- A value begins with no white space. -/
theorem Spelled.skipSpaces_eq {tree : Tree} {s rest : List Char} (h : Spelled tree s rest) :
    skipSpaces s = s := by
  cases h with
  | numeral h =>
    obtain ⟨c, tail, rfl, rfl | hc⟩ := h.front
    · rfl
    · refine skipSpaces_cons ?_ tail
      simp only [isSpace, Bool.or_eq_false_iff, decide_eq_false_iff_not]
      refine ⟨⟨⟨?_, ?_⟩, ?_⟩, ?_⟩ <;> rintro rfl <;> cases hc
  | _ => rfl

theorem Leads.unique {first : Bool} {s front behind : List Char} (h : Leads first s front)
    (hother : Leads first s behind) : front = behind := by
  cases h with
  | first => cases hother; rfl
  | comma h =>
    cases hother with
    | comma hother =>
      rw [h] at hother
      exact (List.cons.inj hother).2

/-- Neither a value nor what leads to one stands where a bracket closes. -/
theorem Leads.not_closed {first : Bool} {s front last : List Char} {closing : Char}
    (h : Leads first s front) (hclosed : skipSpaces s = closing :: last) (hcomma : closing ≠ ',') :
    first = true ∧ skipSpaces front = closing :: last := by
  cases h with
  | first => exact ⟨rfl, hclosed⟩
  | comma h =>
    rw [h] at hclosed
    exact absurd (List.cons.inj hclosed).1.symm hcomma

mutual

theorem Spelled.unique {tree other : Tree} {s rest last : List Char} (h : Spelled tree s rest)
    (hother : Spelled other s last) : tree = other ∧ rest = last := by
  -- the first character tells the kinds apart; only a numeral has more than one to begin with
  cases h with
  | null =>
    cases hother with
    | null => exact ⟨rfl, rfl⟩
    | numeral hother => exact absurd hother.front (by simp)
  | true =>
    cases hother with
    | true => exact ⟨rfl, rfl⟩
    | numeral hother => exact absurd hother.front (by simp)
  | false =>
    cases hother with
    | false => exact ⟨rfl, rfl⟩
    | numeral hother => exact absurd hother.front (by simp)
  | numeral h =>
    cases hother with
    | numeral hother =>
      obtain ⟨rfl, rfl⟩ := h.unique hother
      exact ⟨rfl, rfl⟩
    | _ => exact absurd h.front (by simp)
  | string h =>
    cases hother with
    | string hother =>
      obtain ⟨rfl, rfl⟩ := h.unique hother
      exact ⟨rfl, rfl⟩
    | numeral hother => exact absurd hother.front (by simp)
  | list h =>
    cases hother with
    | list hother =>
      obtain ⟨rfl, rfl⟩ := h.unique hother
      exact ⟨rfl, rfl⟩
    | numeral hother => exact absurd hother.front (by simp)
  | object h =>
    cases hother with
    | object hother =>
      obtain ⟨rfl, rfl⟩ := h.unique hother
      exact ⟨rfl, rfl⟩
    | numeral hother => exact absurd hother.front (by simp)

theorem ItemsSpelled.unique {first : Bool} {items others : List Tree} {s rest last : List Char}
    (h : ItemsSpelled first items s rest) (hother : ItemsSpelled first others s last) :
    items = others ∧ rest = last := by
  cases h with
  | close h =>
    cases hother with
    | close hother =>
      rw [h] at hother
      exact ⟨rfl, (List.cons.inj hother).2⟩
    | item hlead hitem =>
      exact absurd (by rw [(hlead.not_closed h (by decide)).2]; rfl) hitem.front_ne.1
  | item hlead hitem hitems =>
    cases hother with
    | close h => exact absurd (by rw [(hlead.not_closed h (by decide)).2]; rfl) hitem.front_ne.1
    | item hleads hother hothers =>
      cases hlead.unique hleads
      obtain ⟨rfl, rfl⟩ := hitem.unique hother
      obtain ⟨rfl, rfl⟩ := hitems.unique hothers
      exact ⟨rfl, rfl⟩

theorem MembersSpelled.unique {first : Bool} {members others : List (List Piece × Tree)}
    {s rest last : List Char} (h : MembersSpelled first members s rest)
    (hother : MembersSpelled first others s last) : members = others ∧ rest = last := by
  cases h with
  | close h =>
    cases hother with
    | close hother =>
      rw [h] at hother
      exact ⟨rfl, (List.cons.inj hother).2⟩
    | member hlead hquote =>
      rw [(hlead.not_closed h (by decide)).2] at hquote
      cases hquote
  | member hlead hquote hkey hcolon hvalue hmembers =>
    cases hother with
    | close h =>
      rw [(hlead.not_closed h (by decide)).2] at hquote
      cases hquote
    | member hleads hquoted hother hcolons hvalues hothers =>
      cases hlead.unique hleads
      cases hquote.symm.trans hquoted
      obtain ⟨rfl, rfl⟩ := hkey.unique hother
      cases hcolon.symm.trans hcolons
      obtain ⟨rfl, rfl⟩ := hvalue.unique hvalues
      obtain ⟨rfl, rfl⟩ := hmembers.unique hothers
      exact ⟨rfl, rfl⟩

end

/-- A text spells one tree at most. -/
theorem Tree.spells_unique {tree other : Tree} {text : String} (h : tree.Spells text)
    (hother : other.Spells text) : tree = other := by
  obtain ⟨_, h, -⟩ := h
  obtain ⟨_, hother, -⟩ := hother
  exact (h.unique hother).1

end Brokerage.Json
