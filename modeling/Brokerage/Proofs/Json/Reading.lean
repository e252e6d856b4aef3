import Brokerage.Json.Parser
import Brokerage.Proofs.Json.Denotation
import Brokerage.Proofs.Json.Skipping

/-!
Reading a text as a value accepts those texts of the grammar whose literals denote something and
that do not nest too deep, and gives the value that their tree stands for.
-/

set_option autoImplicit false

namespace Brokerage.Json

open Text (digitValue natural naturalIn stopAt stopBefore)

/-! ### Number literals -/

section Numeral

open Numeral

theorem pastExponentLimit?_eq_none_iff {n : Nat} (hn : n ≤ exponentLimit) {s : List Char} :
    pastExponentLimit? n s = none ↔
      (s.takeWhile Char.isDigit).foldl (fun n c ↦ 10 * n + digitValue c) n ≤ exponentLimit := by
  induction s generalizing n with
  | nil => simpa [pastExponentLimit?] using hn
  | cons c rest ih =>
    rw [pastExponentLimit?, List.takeWhile_cons]
    cases hc : c.isDigit with
    | false => simpa using hn
    | true =>
      simp only [if_true, List.foldl_cons]
      split
      next hpast =>
        have hle := le_foldl_digits (10 * n + digitValue c) (rest.takeWhile Char.isDigit)
        simp only [reduceCtorEq, false_iff]
        omega
      next hpast => exact ih (Nat.le_of_not_lt hpast)

theorem realOf_ok_iff {negative : Bool} {coefficient : Nat} {exponent : Int} {s rest : List Char}
    {value : Json} :
    realOf negative coefficient exponent s = .ok (value, rest) ↔
      real? negative coefficient exponent = some value ∧ s = rest := by
  unfold realOf real?
  cases Double.ofDecimal? coefficient exponent with
  | none => simp [stopBefore]
  | some x => simp

theorem readExponentDigits_of_isDigit {negative down : Bool} {coefficient : Nat} {start : Int}
    {c : Char} {tail rest : List Char} {value : Json} (hc : c.isDigit = true) :
    readExponentDigits negative coefficient start down (c :: tail) = .ok (value, rest) ↔
      scaled? negative coefficient start (some (down, (c :: tail).takeWhile Char.isDigit))
          = some value ∧ (c :: tail).dropWhile Char.isDigit = rest := by
  have hlimit : pastExponentLimit? 0 (c :: tail) = none ↔
      natural ((c :: tail).takeWhile Char.isDigit) ≤ exponentLimit :=
    pastExponentLimit?_eq_none_iff (Nat.zero_le exponentLimit)
  simp only [readExponentDigits, hc, if_true, scaled?]
  cases hpast : pastExponentLimit? 0 (c :: tail) with
  | none =>
    rw [if_neg (Nat.not_lt.2 (hlimit.1 hpast))]
    exact realOf_ok_iff
  | some left =>
    rw [if_pos (Nat.lt_of_not_le fun hle ↦ by simp [hlimit.2 hle] at hpast)]
    cases hover : coefficient != 0 && !down with
    | true => simp [stopBefore]
    | false => simp

theorem readExponentDigits_ok_iff {negative down : Bool} {coefficient : Nat} {start : Int}
    {s rest : List Char} {value : Json} :
    readExponentDigits negative coefficient start down s = .ok (value, rest) ↔
      ∃ digits, DigitRun digits s rest ∧
        scaled? negative coefficient start (some (down, digits)) = some value := by
  constructor
  · intro h
    cases s with
    | nil => cases h
    | cons c tail =>
      cases hc : c.isDigit with
      | false => simp [readExponentDigits, hc, stopAt] at h
      | true =>
        obtain ⟨hvalue, rfl⟩ := (readExponentDigits_of_isDigit hc).1 h
        exact ⟨_, .of_isDigit hc tail, hvalue⟩
  · rintro ⟨digits, hrun, hvalue⟩
    obtain ⟨c, tail, rfl, hc, -⟩ := hrun.exists_cons
    exact (readExponentDigits_of_isDigit hc).2 ⟨hrun.taken ▸ hvalue, hrun.left⟩

theorem readExponent_ok_iff {negative : Bool} {coefficient : Nat} {start : Int}
    {s rest : List Char} {value : Json} :
    readExponent negative coefficient start s = .ok (value, rest) ↔
      ∃ down front digits, SignSpelled down s front ∧ DigitRun digits front rest ∧
        scaled? negative coefficient start (some (down, digits)) = some value := by
  constructor
  · intro h
    unfold readExponent at h
    split at h
    next front =>
      obtain ⟨digits, hdigits⟩ := readExponentDigits_ok_iff.1 h
      exact ⟨false, front, digits, .plus front, hdigits⟩
    next front =>
      obtain ⟨digits, hdigits⟩ := readExponentDigits_ok_iff.1 h
      exact ⟨true, front, digits, .minus front, hdigits⟩
    next =>
      obtain ⟨digits, hdigits⟩ := readExponentDigits_ok_iff.1 h
      exact ⟨false, s, digits, .unsigned s, hdigits⟩
  · rintro ⟨down, front, digits, hsign, hrun, hvalue⟩
    have hread := readExponentDigits_ok_iff.2 ⟨digits, hrun, hvalue⟩
    cases hsign with
    | unsigned =>
      obtain ⟨c, tail, rfl, hc, -⟩ := hrun.exists_cons
      have hplus : c ≠ '+' := ne_of_isDigit hc rfl
      have hminus : c ≠ '-' := ne_of_isDigit hc rfl
      simpa [readExponent, hplus, hminus] using hread
    | plus => exact hread
    | minus => exact hread

theorem readAfterDigits_ok_iff {negative : Bool} {coefficient : Nat} {start : Int}
    {s rest : List Char} {value : Json} :
    readAfterDigits negative coefficient start s = .ok (value, rest) ↔
      ∃ exponent, ExponentSpelled exponent s rest ∧
        scaled? negative coefficient start exponent = some value := by
  constructor
  · intro h
    unfold readAfterDigits at h
    split at h
    next c after =>
      split at h
      next hletter =>
        obtain ⟨down, front, digits, hsign, hrun, hvalue⟩ := readExponent_ok_iff.1 h
        exact ⟨_, .present hletter hsign hrun, hvalue⟩
      next hletter =>
        obtain ⟨hvalue, rfl⟩ := realOf_ok_iff.1 h
        exact ⟨none, .absent (by simpa using hletter), hvalue⟩
    next =>
      obtain ⟨hvalue, rfl⟩ := realOf_ok_iff.1 h
      exact ⟨none, .absent (by simp), hvalue⟩
  · rintro ⟨exponent, hexponent, hvalue⟩
    cases hexponent with
    | absent hletter =>
      have hreal : realOf negative coefficient start s = .ok (value, s) :=
        realOf_ok_iff.2 ⟨hvalue, rfl⟩
      cases s with
      | nil => exact hreal
      | cons c after => simpa [readAfterDigits, hletter c rfl] using hreal
    | present hletter hsign hrun =>
      simp only [readAfterDigits, hletter, if_true]
      exact readExponent_ok_iff.2 ⟨_, _, _, hsign, hrun, hvalue⟩

theorem readFraction_ok_iff {negative : Bool} {coefficient surplus : Nat} {s rest : List Char}
    {value : Json} :
    readFraction negative coefficient surplus s = .ok (value, rest) ↔
      ∃ digits behind exponent, DigitRun digits s behind ∧ ExponentSpelled exponent behind rest ∧
        finished? negative coefficient surplus (some digits) exponent = some value := by
  constructor
  · intro h
    cases s with
    | nil => cases h
    | cons c tail =>
      cases hc : c.isDigit with
      | false => simp [readFraction, hc, stopAt] at h
      | true =>
        simp only [readFraction, hc, List.takeWhile_cons_of_pos, List.isEmpty_cons,
          Bool.false_eq_true, if_false] at h
        obtain ⟨exponent, hexponent, hvalue⟩ := readAfterDigits_ok_iff.1 h
        refine ⟨_, _, exponent, .of_isDigit hc tail, hexponent, ?_⟩
        simpa [finished?, hc] using hvalue
  · rintro ⟨digits, behind, exponent, hrun, hexponent, hvalue⟩
    have hread := readAfterDigits_ok_iff.2 ⟨exponent, hexponent, hvalue⟩
    unfold readFraction
    simp only [hrun.taken, hrun.left, List.isEmpty_iff, hrun.nonempty, if_false]
    exact hread

theorem endInteger_ok_iff {negative : Bool} {coefficient surplus : Nat} {s rest : List Char}
    {value : Json} :
    endInteger negative coefficient surplus s = .ok (value, rest) ↔
      finished? negative coefficient surplus none none = some value ∧ s = rest := by
  unfold endInteger finished?
  split
  next => simp
  next => exact realOf_ok_iff

theorem readAfterInteger_ok_iff {negative : Bool} {coefficient surplus : Nat} {s rest : List Char}
    {value : Json} :
    readAfterInteger negative coefficient surplus s = .ok (value, rest) ↔
      ∃ fraction behind exponent, FractionSpelled fraction s behind ∧
        ExponentSpelled exponent behind rest ∧
        finished? negative coefficient surplus fraction exponent = some value := by
  constructor
  · intro h
    unfold readAfterInteger at h
    split at h
    next c tail =>
      split at h
      next hpoint =>
        subst hpoint
        obtain ⟨digits, behind, exponent, hrun, hexponent, hvalue⟩ := readFraction_ok_iff.1 h
        exact ⟨some digits, behind, exponent, .present hrun, hexponent, hvalue⟩
      next hpoint =>
        have hfraction : FractionSpelled none (c :: tail) (c :: tail) :=
          .absent (by simpa using hpoint)
        split at h
        next hletter =>
          obtain ⟨down, front, digits, hsign, hrun, hvalue⟩ := readExponent_ok_iff.1 h
          exact ⟨none, _, _, hfraction, .present hletter hsign hrun, hvalue⟩
        next hletter =>
          obtain ⟨hvalue, rfl⟩ := endInteger_ok_iff.1 h
          exact ⟨none, _, none, hfraction, .absent (by simpa using hletter), hvalue⟩
    next =>
      obtain ⟨hvalue, rfl⟩ := endInteger_ok_iff.1 h
      exact ⟨none, [], none, .absent (by simp), .absent (by simp), hvalue⟩
  · rintro ⟨fraction, behind, exponent, hfraction, hexponent, hvalue⟩
    cases hfraction with
    | present hrun =>
      simp only [readAfterInteger, if_true]
      exact readFraction_ok_iff.2 ⟨_, behind, exponent, hrun, hexponent, hvalue⟩
    | absent hpoint =>
      cases hexponent with
      | present hletter hsign hrun =>
        have hread := readExponent_ok_iff.2 ⟨_, _, _, hsign, hrun, hvalue⟩
        simp only [readAfterInteger, hletter, if_true]
        rw [if_neg (by simpa using hpoint)]
        exact hread
      | absent hletter =>
        have hplain : endInteger negative coefficient surplus s = .ok (value, s) :=
          endInteger_ok_iff.2 ⟨hvalue, rfl⟩
        cases s with
        | nil => exact hplain
        | cons c tail =>
          simp only [readAfterInteger, hletter c rfl, Bool.false_eq_true, if_false]
          rw [if_neg (by simpa using hpoint)]
          exact hplain

theorem readNumeral_ok_iff {negative : Bool} {s rest : List Char} {value : Json} :
    readNumeral negative s = .ok (value, rest) ↔
      ∃ whole fraction exponent, MagnitudeSpelled whole fraction exponent s rest ∧
        Numeral.value? ⟨negative, whole, fraction, exponent⟩ = some value := by
  constructor
  · intro h
    unfold readNumeral at h
    split at h
    next => cases h
    next c tail =>
      split at h
      -- a zero at the beginning stands for the whole integer part
      next hzero =>
        subst hzero
        have hafter : (∀ d ∈ tail.head?, d.isDigit = false) ∧
            readAfterInteger negative 0 0 tail = .ok (value, rest) := by
          split at h
          next d after =>
            split at h
            next => cases h
            next hd => exact ⟨by simpa using hd, h⟩
          next => exact ⟨by simp, h⟩
        obtain ⟨fraction, behind, exponent, hfraction, hexponent, hvalue⟩ :=
          readAfterInteger_ok_iff.1 hafter.2
        exact ⟨['0'], fraction, exponent,
          .parts (.of_zero hafter.1) (fun _ ↦ rfl) hfraction hexponent, hvalue⟩
      next hzero =>
        split at h
        next hc =>
          obtain ⟨fraction, behind, exponent, hfraction, hexponent, hvalue⟩ :=
            readAfterInteger_ok_iff.1 h
          refine ⟨_, fraction, exponent, .parts (.of_isDigit hc tail) ?_ hfraction hexponent,
            hvalue⟩
          simp [hc, hzero]
        next => cases h
  · rintro ⟨whole, fraction, exponent, ⟨hrun, hzero, hfraction, hexponent⟩, hvalue⟩
    have hread := readAfterInteger_ok_iff.2 ⟨fraction, _, exponent, hfraction, hexponent, hvalue⟩
    obtain ⟨c, tail, rfl, hc, hhead⟩ := hrun.exists_cons
    simp only [readNumeral]
    split
    next hleading =>
      subst hleading
      obtain rfl := hzero hhead
      have hbehind := hrun.isDigit_head
      have htail := hrun.eq_append
      simp only [List.cons_append, List.nil_append, List.cons.injEq, true_and] at htail
      subst htail
      have hzeroed : absorb 0 ['0'] = (0, []) := rfl
      rw [hzeroed] at hread
      cases tail with
      | nil => exact hread
      | cons d after => simpa [hbehind d rfl] using hread
    next hleading =>
      rw [hrun.left, hrun.taken]
      simpa [hc] using hread

end Numeral

/-! ### String literals -/

theorem readLowSurrogate_ok_iff {high : Nat} {s rest : List Char} {c : Char} :
    readLowSurrogate high s = .ok (c, rest) ↔
      ∃ low behind, s = '\\' :: 'u' :: behind ∧ readHexUnit behind = .ok (low, rest) ∧
        isLowSurrogate low = true ∧ c = joinSurrogates high low := by
  constructor
  · intro h
    unfold readLowSurrogate at h
    split at h
    next => cases h
    next => cases h
    next behind =>
      split at h
      next => cases h
      next low after hunit =>
        split at h
        next hlow =>
          simp only [Except.ok.injEq, Prod.mk.injEq] at h
          obtain ⟨rfl, rfl⟩ := h
          exact ⟨low, behind, rfl, hunit, hlow, rfl⟩
        next => cases h
    next => cases h
    next => cases h
  · rintro ⟨low, behind, rfl, hunit, hlow, hc⟩
    simp [readLowSurrogate, hunit, hlow, hc]

/-- The pieces of an escape, and the character that they name. -/
theorem exists_pieces_of_readEscape {s after : List Char} {c : Char}
    (h : readEscape s = .ok (c, after)) :
    ∃ front : List Piece, ∀ pieces rest, Quoted pieces after rest →
      Quoted (front ++ pieces) ('\\' :: s) rest ∧
        characters? (front ++ pieces) = (characters? pieces).map (c :: ·) := by
  unfold readEscape at h
  split at h
  next => cases h
  next letter tail =>
    split at h
    next hletter =>
      subst hletter
      unfold readNumberedEscape at h
      split at h
      next => cases h
      next u behind hunit =>
        obtain ⟨x, y, z, w, rfl, hhex, rfl⟩ := readHexUnit_ok_iff.1 hunit
        split at h
        next => cases h
        next hlow =>
          have hlow : isLowSurrogate (naturalIn 16 [x, y, z, w]) = false := by simpa using hlow
          split at h
          next hhigh =>
            obtain ⟨low, behind, rfl, hunit, hpair, hc⟩ := readLowSurrogate_ok_iff.1 h
            obtain ⟨a, b, d, e, rfl, hdigits, rfl⟩ := readHexUnit_ok_iff.1 hunit
            refine ⟨[.unit (naturalIn 16 [x, y, z, w]), .unit (naturalIn 16 [a, b, d, e])],
              fun pieces rest hquoted ↦ ⟨.numbered hhex (.numbered hdigits hquoted), ?_⟩⟩
            rw [hc]
            exact characters?_pair hhigh hpair pieces
          next hhigh =>
            cases h
            have hhigh : isHighSurrogate (naturalIn 16 [x, y, z, w]) = false := by
              simpa using hhigh
            exact ⟨[.unit (naturalIn 16 [x, y, z, w])], fun pieces rest hquoted ↦
              ⟨.numbered hhex hquoted, characters?_unit hlow hhigh pieces⟩⟩
    next hletter =>
      split at h
      next named hnamed =>
        cases h
        exact ⟨[.char c], fun pieces rest hquoted ↦ ⟨.named hnamed hquoted, rfl⟩⟩
      next => cases h

theorem quoted_of_readQuotation {steps : Nat} {before s rest : List Char} {content : String}
    (h : readQuotation steps before s = .ok (content, rest)) :
    ∃ pieces cs, Quoted pieces s rest ∧ characters? pieces = some cs ∧
      content = String.ofList (before.reverse ++ cs) := by
  induction steps generalizing before s with
  | zero => cases h
  | succ steps ih =>
    cases s with
    | nil => cases h
    | cons c tail =>
      rw [readQuotation] at h
      split at h
      next hquote =>
        subst hquote
        cases h
        exact ⟨[], [], .close _, rfl, by rw [List.append_nil]⟩
      next hquote =>
        split at h
        next hslash =>
          subst hslash
          split at h
          next => cases h
          next named after hescape =>
            obtain ⟨pieces, cs, hquoted, hcs, rfl⟩ := ih h
            obtain ⟨front, hfront⟩ := exists_pieces_of_readEscape hescape
            obtain ⟨hspelled, hcharacters⟩ := hfront pieces rest hquoted
            exact ⟨front ++ pieces, named :: cs, hspelled, by rw [hcharacters, hcs]; rfl, by simp⟩
        next hslash =>
          split at h
          next => cases h
          next hcontrol =>
            obtain ⟨pieces, cs, hquoted, hcs, rfl⟩ := ih h
            exact ⟨.char c :: pieces, c :: cs,
              .plain hquote hslash (Nat.le_of_not_lt hcontrol) hquoted,
              by rw [characters?, hcs]; rfl, by simp⟩

theorem readQuotation_escape {steps : Nat} {before s after : List Char} {c : Char}
    (h : readEscape s = .ok (c, after)) :
    readQuotation (steps + 1) before ('\\' :: s) = readQuotation steps (c :: before) after := by
  simp [readQuotation, h]

theorem readEscape_numbered {a b c d : Char} {s : List Char}
    (hhex : [a, b, c, d].all Text.isHexDigit = true)
    (hlow : isLowSurrogate (naturalIn 16 [a, b, c, d]) = false)
    (hhigh : isHighSurrogate (naturalIn 16 [a, b, c, d]) = false) :
    readEscape ('u' :: a :: b :: c :: d :: s)
      = .ok (Char.ofNat (naturalIn 16 [a, b, c, d]), s) := by
  have hunit : readHexUnit (a :: b :: c :: d :: s) = .ok (naturalIn 16 [a, b, c, d], s) :=
    readHexUnit_ok_iff.2 ⟨a, b, c, d, rfl, hhex, rfl⟩
  simp [readEscape, readNumberedEscape, hunit, hlow, hhigh]

theorem readEscape_pair {a b c d x y z w : Char} {s : List Char}
    (hhex : [a, b, c, d].all Text.isHexDigit = true)
    (hhigh : isHighSurrogate (naturalIn 16 [a, b, c, d]) = true)
    (hdigits : [x, y, z, w].all Text.isHexDigit = true)
    (hlow : isLowSurrogate (naturalIn 16 [x, y, z, w]) = true) :
    readEscape ('u' :: a :: b :: c :: d :: '\\' :: 'u' :: x :: y :: z :: w :: s)
      = .ok (joinSurrogates (naturalIn 16 [a, b, c, d]) (naturalIn 16 [x, y, z, w]), s) := by
  have hunit : readHexUnit (a :: b :: c :: d :: '\\' :: 'u' :: x :: y :: z :: w :: s)
      = .ok (naturalIn 16 [a, b, c, d], '\\' :: 'u' :: x :: y :: z :: w :: s) :=
    readHexUnit_ok_iff.2 ⟨a, b, c, d, rfl, hhex, rfl⟩
  have hpaired : readHexUnit (x :: y :: z :: w :: s) = .ok (naturalIn 16 [x, y, z, w], s) :=
    readHexUnit_ok_iff.2 ⟨x, y, z, w, rfl, hdigits, rfl⟩
  simp [readEscape, readNumberedEscape, hunit, not_isLowSurrogate_of_isHighSurrogate hhigh, hhigh,
    readLowSurrogate, hpaired, hlow]

theorem reverse_cons_append (c : Char) (before others : List Char) :
    (c :: before).reverse ++ others = before.reverse ++ c :: others := by
  simp

/-- A string is read to its end; two pieces that name one character are read in one step. -/
theorem readQuotation_of_quoted {pieces : List Piece} {steps : Nat} {before s rest cs : List Char}
    (h : Quoted pieces s rest) (hcs : characters? pieces = some cs)
    (hsteps : s.length ≤ steps + rest.length) :
    readQuotation steps before s = .ok (String.ofList (before.reverse ++ cs), rest) := by
  fun_induction characters? pieces generalizing s before cs steps with
  | case1 =>
    obtain ⟨steps, rfl⟩ := exists_step h.length_lt hsteps
    cases h
    cases hcs
    simp [readQuotation]
  | case2 c pieces ih =>
    obtain ⟨others, hothers, rfl⟩ := Option.map_eq_some_iff.1 hcs
    obtain ⟨steps, rfl⟩ := exists_step h.length_lt hsteps
    rw [← reverse_cons_append]
    cases h with
    | plain hquote hslash hcontrol h =>
      rw [List.length_cons] at hsteps
      rw [readQuotation, if_neg hquote, if_neg hslash, if_neg (Nat.not_lt.2 hcontrol)]
      exact ih h hothers (by omega)
    | @named letter _ _ s _ hnamed h =>
      simp only [List.length_cons] at hsteps
      have hescape : readEscape (letter :: s) = .ok (c, s) := by
        have hletter : letter ≠ 'u' := by
          rintro rfl
          cases hnamed
        simp [readEscape, hletter, hnamed]
      rw [readQuotation_escape hescape]
      exact ih h hothers (by omega)
  | case4 u hlow hhigh low pieces hpair ih =>
    obtain ⟨others, hothers, rfl⟩ := Option.map_eq_some_iff.1 hcs
    obtain ⟨steps, rfl⟩ := exists_step h.length_lt hsteps
    rw [← reverse_cons_append]
    cases h with
    | numbered hhex h =>
      cases h with
      | numbered hdigits h =>
        simp only [List.length_cons] at hsteps
        rw [readQuotation_escape (readEscape_pair hhex hhigh hdigits hpair)]
        exact ih h hothers (by omega)
  | case7 u pieces hlow hhigh ih =>
    obtain ⟨others, hothers, rfl⟩ := Option.map_eq_some_iff.1 hcs
    obtain ⟨steps, rfl⟩ := exists_step h.length_lt hsteps
    rw [← reverse_cons_append]
    cases h with
    | numbered hhex h =>
      simp only [List.length_cons] at hsteps
      rw [readQuotation_escape (readEscape_numbered hhex (by simpa using hlow)
        (by simpa using hhigh))]
      exact ih h hothers (by omega)
  | case3 | case5 | case6 => cases hcs

/-! ### Items and members -/

theorem nextItem_end_iff {first : Bool} {s rest : List Char} :
    nextItem first s = .ok (false, rest) ↔ skipSpaces s = ']' :: rest := by
  unfold nextItem
  split
  next hs => simp [hs, stopBefore]
  next c tail hs =>
    by_cases hc : c = ']'
    · simp [hs, hc]
    · rw [if_neg hc]
      simp only [hs, List.cons.injEq, hc, false_and, iff_false]
      split
      next => simp
      next =>
        split
        next =>
          split
          next => simp [stopBefore]
          next => split <;> simp [stopAt]
        next => simp [stopAt]

theorem leads_of_nextItem {first : Bool} {s front : List Char}
    (h : nextItem first s = .ok (true, front)) :
    ∃ behind, Leads first s behind ∧ skipSpaces behind = front := by
  unfold nextItem at h
  split at h
  next => cases h
  next c tail hs =>
    split at h
    next => cases h
    next =>
      split at h
      next hfirst =>
        cases h
        subst hfirst
        exact ⟨s, .first s, hs⟩
      next hfirst =>
        split at h
        next hcomma =>
          subst hcomma
          split at h
          next => cases h
          next hbehind =>
            split at h
            next => cases h
            next =>
              cases h
              obtain rfl : first = false := by simpa using hfirst
              exact ⟨tail, .comma hs, hbehind⟩
        next => cases h

theorem nextItem_of_leads {first : Bool} {item : Tree} {s front after : List Char}
    (h : Leads first s front) (hitem : Spelled item (skipSpaces front) after) :
    nextItem first s = .ok (true, skipSpaces front) := by
  obtain ⟨c, tail, hfront, hbracket, -, -⟩ := hitem.exists_cons
  cases h with
  | first => simp [nextItem, hfront, hbracket]
  | comma hs => simp [nextItem, hs, hfront, hbracket]

theorem nextKey_end_iff {first : Bool} {s rest : List Char} :
    nextKey first s = .ok (false, rest) ↔ skipSpaces s = '}' :: rest := by
  unfold nextKey
  split
  next hs => simp [hs, stopBefore]
  next c tail hs =>
    by_cases hc : c = '}'
    · simp [hs, hc]
    · rw [if_neg hc]
      simp only [hs, List.cons.injEq, hc, false_and, iff_false]
      split
      next => split <;> simp [stopAt]
      next =>
        split
        next =>
          split
          next => simp [stopBefore]
          next =>
            split
            next => simp
            next => split <;> simp [stopAt]
        next => simp [stopAt]

theorem leads_of_nextKey {first : Bool} {s quoted : List Char}
    (h : nextKey first s = .ok (true, quoted)) :
    ∃ front, Leads first s front ∧ skipSpaces front = '"' :: quoted := by
  unfold nextKey at h
  split at h
  next => cases h
  next c tail hs =>
    split at h
    next => cases h
    next =>
      split at h
      next hfirst =>
        split at h
        next hquote =>
          cases h
          subst hfirst hquote
          exact ⟨s, .first s, hs⟩
        next => cases h
      next hfirst =>
        split at h
        next hcomma =>
          subst hcomma
          split at h
          next => cases h
          next hbehind =>
            split at h
            next hquote =>
              cases h
              subst hquote
              obtain rfl : first = false := by simpa using hfirst
              exact ⟨tail, .comma hs, hbehind⟩
            next => split at h <;> cases h
        next => cases h

theorem nextKey_of_leads {first : Bool} {s front quoted : List Char} (h : Leads first s front)
    (hquote : skipSpaces front = '"' :: quoted) : nextKey first s = .ok (true, quoted) := by
  cases h with
  | first => simp [nextKey, hquote]
  | comma hs => simp [nextKey, hs, hquote]

theorem readConstant_ok_iff {expected s rest : List Char} {constant value : Json} :
    readConstant expected constant s = .ok (value, rest) ↔
      s = expected ++ rest ∧ value = constant := by
  unfold readConstant
  cases hword : readWord expected s with
  | error fault =>
    have hnot : s ≠ expected ++ rest := fun hs ↦ by simp [readWord_ok_iff.2 hs] at hword
    simp [hnot]
  | ok found =>
    obtain ⟨⟨⟩, after⟩ := found
    have hs := readWord_ok_iff.1 hword
    subst hs
    simp [eq_comm, and_comm]

/-! ### Values -/

/-- What the readers that read something with so many steps have read: the value of a tree that is
not too deep. -/
structure Reads (steps : Nat) : Prop where
  value {levels : Nat} {s rest : List Char} {value : Json}
    (h : readValue steps levels s = .ok (value, rest)) :
    ∃ tree, Spelled tree (skipSpaces s) rest ∧ tree.depth ≤ levels ∧ tree.value? = some value
  items {levels : Nat} {before : List Json} {s rest : List Char} {value : Json}
    (h : readItems steps levels before s = .ok (value, rest)) :
    ∃ items values, ItemsSpelled before.isEmpty items s rest ∧ Tree.depthItems items ≤ levels ∧
      Tree.valueItems? items = some values ∧ value = .list (before.reverse ++ values)
  members {levels : Nat} {first : Bool} {before : Members} {s rest : List Char} {value : Json}
    (h : readMembers steps levels first before s = .ok (value, rest)) :
    ∃ members all, MembersSpelled first members s rest ∧ Tree.depthMembers members ≤ levels ∧
      Tree.valueMembers? before members = some all ∧ value = .object all

section Step

variable {steps : Nat} (ih : Reads steps) {levels : Nat} {s rest : List Char} {value : Json}

include ih

/-- The first character of a value tells its kind, and each kind has a reader of its own. -/
theorem spelled_of_readValue (h : readValue (steps + 1) levels s = .ok (value, rest)) :
    ∃ tree, Spelled tree (skipSpaces s) rest ∧ tree.depth ≤ levels ∧ tree.value? = some value := by
  rw [readValue] at h
  split at h
  next => cases h
  next c tail hs =>
    rw [hs]
    split at h
    next hc =>
      obtain ⟨rfl, rfl⟩ := readConstant_ok_iff.1 h
      exact ⟨.null, hc ▸ .null rest, Nat.zero_le _, rfl⟩
    split at h
    next hc =>
      obtain ⟨rfl, rfl⟩ := readConstant_ok_iff.1 h
      exact ⟨.bool true, hc ▸ .true rest, Nat.zero_le _, rfl⟩
    split at h
    next hc =>
      obtain ⟨rfl, rfl⟩ := readConstant_ok_iff.1 h
      exact ⟨.bool false, hc ▸ .false rest, Nat.zero_le _, rfl⟩
    split at h
    next hc =>
      obtain ⟨whole, fraction, exponent, hmagnitude, hvalue⟩ := readNumeral_ok_iff.1 h
      subst hc
      exact ⟨_, .numeral (.negative hmagnitude), Nat.zero_le _, hvalue⟩
    split at h
    next =>
      obtain ⟨whole, fraction, exponent, hmagnitude, hvalue⟩ := readNumeral_ok_iff.1 h
      exact ⟨_, .numeral (.positive hmagnitude), Nat.zero_le _, hvalue⟩
    split at h
    next hc =>
      split at h
      next => cases h
      next content after hcontent =>
        cases h
        obtain ⟨pieces, cs, hquoted, hcs, rfl⟩ := quoted_of_readQuotation hcontent
        subst hc
        exact ⟨_, .string hquoted, Nat.zero_le _, by simp [Tree.value?, content?, hcs]⟩
    -- a list or an object takes a level, and is refused where none is left
    split at h
    next hc =>
      cases levels with
      | zero => cases h
      | succ inner =>
        obtain ⟨items, values, hitems, hdepth, hvalues, rfl⟩ := ih.items h
        subst hc
        exact ⟨_, .list hitems, Nat.succ_le_succ hdepth, by simp [Tree.value?, hvalues]⟩
    split at h
    next hc =>
      cases levels with
      | zero => cases h
      | succ inner =>
        obtain ⟨members, all, hmembers, hdepth, hall, rfl⟩ := ih.members h
        subst hc
        exact ⟨_, .object hmembers, Nat.succ_le_succ hdepth, by simp [Tree.value?, hall]⟩
    next => cases h

theorem spelled_of_readItems {before : List Json}
    (h : readItems (steps + 1) levels before s = .ok (value, rest)) :
    ∃ items values, ItemsSpelled before.isEmpty items s rest ∧ Tree.depthItems items ≤ levels ∧
      Tree.valueItems? items = some values ∧ value = .list (before.reverse ++ values) := by
  rw [readItems] at h
  split at h
  next => cases h
  next hend =>
    cases h
    exact ⟨[], [], .close (nextItem_end_iff.1 hend), Nat.zero_le _, rfl, by simp⟩
  next front hnext =>
    obtain ⟨behind, hlead, rfl⟩ := leads_of_nextItem hnext
    split at h
    next => cases h
    next item after hitem =>
      obtain ⟨tree, htree, hdepth, hvalue⟩ := ih.value hitem
      obtain ⟨items, values, hitems, hdepths, hvalues, rfl⟩ := ih.items h
      rw [skipSpaces_skipSpaces] at htree
      exact ⟨tree :: items, item :: values, .item hlead htree hitems,
        Nat.max_le.2 ⟨hdepth, hdepths⟩, by simp [Tree.valueItems?, hvalue, hvalues], by simp⟩

theorem spelled_of_readMembers {first : Bool} {before : Members}
    (h : readMembers (steps + 1) levels first before s = .ok (value, rest)) :
    ∃ members all, MembersSpelled first members s rest ∧ Tree.depthMembers members ≤ levels ∧
      Tree.valueMembers? before members = some all ∧ value = .object all := by
  rw [readMembers] at h
  split at h
  next => cases h
  next hend =>
    cases h
    exact ⟨[], before, .close (nextKey_end_iff.1 hend), Nat.zero_le _, rfl, rfl⟩
  next quoted hnext =>
    obtain ⟨front, hlead, hquote⟩ := leads_of_nextKey hnext
    split at h
    next => cases h
    next key behindKey hkey =>
      split at h
      next => cases h
      next behindColon hcolon =>
        split at h
        next => cases h
        next item after hitem =>
          obtain ⟨pieces, cs, hquoted, hcs, rfl⟩ := quoted_of_readQuotation hkey
          obtain ⟨tree, htree, hdepth, hvalue⟩ := ih.value hitem
          obtain ⟨members, all, hmembers, hdepths, hall, rfl⟩ := ih.members h
          refine ⟨(pieces, tree) :: members, all,
            .member hlead hquote hquoted (readColon_ok_iff.1 hcolon) htree hmembers,
            Nat.max_le.2 ⟨hdepth, hdepths⟩, ?_, rfl⟩
          simpa [Tree.valueMembers?, content?, hcs, hvalue] using hall

end Step

/-- What a reader has read if it has read something. -/
theorem reads (steps : Nat) : Reads steps := by
  induction steps with
  | zero => exact ⟨nofun, nofun, nofun⟩
  | succ steps ih =>
    exact ⟨spelled_of_readValue ih, spelled_of_readItems ih, spelled_of_readMembers ih⟩

theorem readValue_of_digit {steps levels : Nat} {c : Char} {s tail : List Char}
    (hs : skipSpaces s = c :: tail) (hc : c.isDigit = true) :
    readValue (steps + 1) levels s = readNumeral false (c :: tail) := by
  have hne : ∀ {d : Char}, d.isDigit = false → c ≠ d := ne_of_isDigit hc
  simp only [readValue, hs]
  rw [if_neg (hne rfl), if_neg (hne rfl), if_neg (hne rfl), if_neg (hne rfl), if_pos hc]

theorem readKey_of_quoted {steps : Nat} {key : List Piece} {name : String} {s rest : List Char}
    (h : Quoted key s rest) (hname : content? key = some name)
    (hsteps : s.length ≤ steps + rest.length) :
    readQuotation steps [] s = .ok (name, rest) := by
  obtain ⟨cs, hcs, rfl⟩ := Option.map_eq_some_iff.1 hname
  exact readQuotation_of_quoted h hcs hsteps

mutual

theorem readValue_of_spelled {steps levels : Nat} {tree : Tree} {s front rest : List Char}
    {value : Json} (h : Spelled tree front rest) (hs : skipSpaces s = front)
    (hvalue : tree.value? = some value) (hdepth : tree.depth ≤ levels)
    (hsteps : front.length ≤ steps + rest.length) :
    readValue steps levels s = .ok (value, rest) := by
  obtain ⟨steps, rfl⟩ := exists_step h.length_lt hsteps
  cases h with
  | null =>
    cases hvalue
    simp [readValue, hs, readConstant, readWord]
  | true =>
    cases hvalue
    simp [readValue, hs, readConstant, readWord]
  | false =>
    cases hvalue
    simp [readValue, hs, readConstant, readWord]
  | numeral h =>
    cases h with
    | positive h =>
      obtain ⟨c, tail, rfl, hc⟩ := h.front
      rw [readValue_of_digit hs hc]
      exact readNumeral_ok_iff.2 ⟨_, _, _, h, hvalue⟩
    | negative h =>
      simp only [readValue, hs, Char.reduceEq, if_true, if_false]
      exact readNumeral_ok_iff.2 ⟨_, _, _, h, hvalue⟩
  | string h =>
    obtain ⟨content, hcontent, rfl⟩ := Option.map_eq_some_iff.1 hvalue
    rw [List.length_cons] at hsteps
    have hread : readQuotation steps [] _ = .ok (content, rest) :=
      readKey_of_quoted h hcontent (by omega)
    simp [readValue, hs, hread]
  | list h =>
    obtain ⟨values, hvalues, rfl⟩ := Option.map_eq_some_iff.1 hvalue
    obtain ⟨inner, rfl⟩ : ∃ inner, levels = inner + 1 :=
      Nat.exists_eq_add_one.2 (Nat.lt_of_lt_of_le (Nat.succ_pos _) hdepth)
    simp only [readValue, hs, Char.reduceEq, if_true, if_false]
    rw [List.length_cons] at hsteps
    exact readItems_of_spelled h hvalues (Nat.le_of_succ_le_succ hdepth) (by omega)
  | object h =>
    obtain ⟨all, hall, rfl⟩ := Option.map_eq_some_iff.1 hvalue
    obtain ⟨inner, rfl⟩ : ∃ inner, levels = inner + 1 :=
      Nat.exists_eq_add_one.2 (Nat.lt_of_lt_of_le (Nat.succ_pos _) hdepth)
    simp only [readValue, hs, Char.reduceEq, if_true, if_false]
    rw [List.length_cons] at hsteps
    exact readMembers_of_spelled h hall (Nat.le_of_succ_le_succ hdepth) (by omega)

theorem readItems_of_spelled {steps levels : Nat} {before values : List Json} {items : List Tree}
    {s rest : List Char} (h : ItemsSpelled before.isEmpty items s rest)
    (hvalues : Tree.valueItems? items = some values) (hdepth : Tree.depthItems items ≤ levels)
    (hsteps : s.length ≤ steps + rest.length) :
    readItems steps levels before s = .ok (.list (before.reverse ++ values), rest) := by
  obtain ⟨steps, rfl⟩ := exists_step h.length_lt hsteps
  cases h with
  | close h =>
    cases hvalues
    simp [readItems, nextItem_end_iff.2 h]
  | @item _ item items _ front after _ hlead hitem hitems =>
    have hfront := hlead.length_le
    have hafter := hitem.length_lt
    have hrest := hitems.length_lt
    obtain ⟨hdepth, hdepths⟩ := Nat.max_le.1 hdepth
    unfold Tree.valueItems? at hvalues
    split at hvalues
    next value others hvalue hothers =>
      cases hvalues
      have hread : readValue steps levels (skipSpaces front) = .ok (value, after) :=
        readValue_of_spelled hitem (skipSpaces_skipSpaces front) hvalue hdepth (by omega)
      have hmore : readItems steps levels (value :: before) after
          = .ok (.list ((value :: before).reverse ++ others), rest) :=
        readItems_of_spelled hitems hothers hdepths (by omega)
      simp [readItems, nextItem_of_leads hlead hitem, hread, hmore]
    next => cases hvalues

theorem readMembers_of_spelled {steps levels : Nat} {first : Bool} {before all : Members}
    {members : List (List Piece × Tree)} {s rest : List Char}
    (h : MembersSpelled first members s rest) (hall : Tree.valueMembers? before members = some all)
    (hdepth : Tree.depthMembers members ≤ levels) (hsteps : s.length ≤ steps + rest.length) :
    readMembers steps levels first before s = .ok (.object all, rest) := by
  obtain ⟨steps, rfl⟩ := exists_step h.length_lt hsteps
  cases h with
  | close h =>
    cases hall
    simp [readMembers, nextKey_end_iff.2 h]
  | @member _ key item members _ front quoted behindKey behindColon after _ hlead hquote hkey
      hcolon hitem hmembers =>
    have hfront := hlead.length_le
    rw [hquote, List.length_cons] at hfront
    have hbehindKey := hkey.length_lt
    have hbehindColon := length_lt_of_skipSpaces hcolon
    have hspaces := length_skipSpaces_le behindColon
    have hafter := hitem.length_lt
    have hrest := hmembers.length_lt
    obtain ⟨hdepth, hdepths⟩ := Nat.max_le.1 hdepth
    unfold Tree.valueMembers? at hall
    split at hall
    next name value hname hvalue =>
      have hnamed : readQuotation steps [] quoted = .ok (name, behindKey) :=
        readKey_of_quoted hkey hname (by omega)
      have hread : readValue steps levels behindColon = .ok (value, after) :=
        readValue_of_spelled hitem rfl hvalue hdepth (by omega)
      have hmore : readMembers steps levels false (before.insert name value) after
          = .ok (.object all, rest) :=
        readMembers_of_spelled hmembers hall hdepths (by omega)
      simp [readMembers, nextKey_of_leads hlead hquote, hnamed, readColon_ok_iff.2 hcolon, hread,
        hmore]
    next => cases hall

end

/-- The texts that have a value are those that spell a tree that has one and does not nest too
deep. -/
theorem parse_ok_iff {text : String} {value : Json} :
    parse text = .ok value ↔
      ∃ tree : Tree, tree.Spells text ∧ tree.depth ≤ nestingLimit ∧ tree.value? = some value := by
  rw [parse, readAll_ok_iff]
  constructor
  · rintro ⟨rest, hread, hrest⟩
    obtain ⟨tree, htree, hdepth, hvalue⟩ := (reads _).value hread
    exact ⟨tree, ⟨rest, htree, hrest⟩, hdepth, hvalue⟩
  · rintro ⟨tree, ⟨rest, htree, hrest⟩, hdepth, hvalue⟩
    refine ⟨rest, readValue_of_spelled htree rfl hvalue hdepth ?_, hrest⟩
    have hspaces := length_skipSpaces_le text.toList
    rw [stepsFor]
    omega


end Brokerage.Json
