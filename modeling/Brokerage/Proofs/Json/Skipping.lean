import Brokerage.Json.Skip
import Brokerage.Proofs.Json.Grammar

/-!
Passing over a text accepts the grammar and nothing else. A reader is shown to stop where the
spelling of a tree ends, by induction on its steps, and to get to the end of each spelling if it
has a step for each character of it, by induction on the spelling.
-/

set_option autoImplicit false

namespace Brokerage.Json

open Text (stopAt stopBefore)

/-! ### Number literals -/

section Numeral

open Numeral

theorem ne_of_isDigit {c d : Char} (h : c.isDigit = true) (hd : d.isDigit = false) : c ≠ d := by
  rintro rfl
  rw [h] at hd
  cases hd

/-- A run of digits begins behind the sign, if there is one. -/
theorem behindSign_of_signSpelled {down : Bool} {digits s front rest : List Char}
    (hsign : SignSpelled down s front) (hrun : DigitRun digits front rest) :
    behindSign s = front := by
  cases hsign with
  | unsigned =>
    obtain ⟨c, tail, rfl, hc, -⟩ := hrun.exists_cons
    have hplus : c ≠ '+' := ne_of_isDigit hc rfl
    have hminus : c ≠ '-' := ne_of_isDigit hc rfl
    simp [behindSign, hplus, hminus]
  | plus => rfl
  | minus => rfl

theorem exists_signSpelled (s : List Char) : ∃ down, SignSpelled down s (behindSign s) := by
  unfold behindSign
  split
  next front => exact ⟨false, .plus front⟩
  next front => exact ⟨true, .minus front⟩
  next => exact ⟨false, .unsigned s⟩

theorem skipExponent_ok_iff {s rest : List Char} :
    skipExponent s = .ok ((), rest) ↔
      ∃ down front digits, SignSpelled down s front ∧ DigitRun digits front rest := by
  constructor
  · intro h
    obtain ⟨down, hsign⟩ := exists_signSpelled s
    unfold skipExponent at h
    split at h
    next => cases h
    next c tail hfront =>
      split at h
      next hc =>
        cases h
        exact ⟨down, c :: tail, _, hfront ▸ hsign, .of_isDigit hc tail⟩
      next => cases h
  · rintro ⟨down, front, digits, hsign, hrun⟩
    have hfront := behindSign_of_signSpelled hsign hrun
    obtain ⟨c, tail, rfl, hc, -⟩ := hrun.exists_cons
    rw [skipExponent, hfront]
    simp only [hc, if_true]
    rw [hrun.left]

theorem skipAfterDigits_ok_iff {s rest : List Char} :
    skipAfterDigits s = .ok ((), rest) ↔ ∃ exponent, ExponentSpelled exponent s rest := by
  constructor
  · intro h
    unfold skipAfterDigits at h
    split at h
    next =>
      cases h
      exact ⟨none, .absent (by simp)⟩
    next c tail =>
      split at h
      next hletter =>
        obtain ⟨down, front, digits, hsign, hrun⟩ := skipExponent_ok_iff.1 h
        exact ⟨_, .present hletter hsign hrun⟩
      next hletter =>
        cases h
        exact ⟨none, .absent (by simpa using hletter)⟩
  · rintro ⟨exponent, h⟩
    cases h with
    | absent hletter =>
      cases s with
      | nil => rfl
      | cons c tail => simp [skipAfterDigits, hletter c rfl]
    | present hletter hsign hrun =>
      rw [skipAfterDigits, if_pos hletter]
      exact skipExponent_ok_iff.2 ⟨_, _, _, hsign, hrun⟩

theorem skipFraction_ok_iff {s rest : List Char} :
    skipFraction s = .ok ((), rest) ↔
      ∃ digits behind exponent, DigitRun digits s behind ∧
        ExponentSpelled exponent behind rest := by
  constructor
  · intro h
    unfold skipFraction at h
    split at h
    next => cases h
    next c tail =>
      split at h
      next hc =>
        obtain ⟨exponent, hexponent⟩ := skipAfterDigits_ok_iff.1 h
        exact ⟨_, _, exponent, .of_isDigit hc tail, hexponent⟩
      next => cases h
  · rintro ⟨digits, behind, exponent, hrun, hexponent⟩
    obtain ⟨c, tail, rfl, hc, -⟩ := hrun.exists_cons
    rw [skipFraction, if_pos hc, hrun.left]
    exact skipAfterDigits_ok_iff.2 ⟨exponent, hexponent⟩

theorem skipAfterInteger_ok_iff {s rest : List Char} :
    skipAfterInteger s = .ok ((), rest) ↔
      ∃ fraction behind exponent, FractionSpelled fraction s behind ∧
        ExponentSpelled exponent behind rest := by
  constructor
  · intro h
    unfold skipAfterInteger at h
    split at h
    next =>
      cases h
      exact ⟨none, [], none, .absent (by simp), .absent (by simp)⟩
    next c tail =>
      split at h
      next hpoint =>
        subst hpoint
        obtain ⟨digits, behind, exponent, hrun, hexponent⟩ := skipFraction_ok_iff.1 h
        exact ⟨some digits, behind, exponent, .present hrun, hexponent⟩
      next hpoint =>
        obtain ⟨exponent, hexponent⟩ := skipAfterDigits_ok_iff.1 h
        exact ⟨none, c :: tail, exponent, .absent (by simpa using hpoint), hexponent⟩
  · rintro ⟨fraction, behind, exponent, hfraction, hexponent⟩
    cases hfraction with
    | absent hpoint =>
      have hskip := skipAfterDigits_ok_iff.2 ⟨exponent, hexponent⟩
      cases s with
      | nil => exact hskip
      | cons c tail =>
        rw [skipAfterInteger, if_neg (by simpa using hpoint)]
        exact hskip
    | present hrun =>
      rw [skipAfterInteger, if_pos rfl]
      exact skipFraction_ok_iff.2 ⟨_, behind, exponent, hrun, hexponent⟩

theorem skipNumeral_ok_iff {s rest : List Char} :
    skipNumeral s = .ok ((), rest) ↔
      ∃ whole fraction exponent, MagnitudeSpelled whole fraction exponent s rest := by
  constructor
  · intro h
    unfold skipNumeral at h
    split at h
    next => cases h
    next c tail =>
      split at h
      next hzero =>
        subst hzero
        have hafter : (∀ d ∈ tail.head?, d.isDigit = false) ∧
            skipAfterInteger tail = .ok ((), rest) := by
          split at h
          next => exact ⟨by simp, h⟩
          next d after =>
            split at h
            next => cases h
            next hd => exact ⟨by simpa using hd, h⟩
        obtain ⟨fraction, behind, exponent, hfraction, hexponent⟩ :=
          skipAfterInteger_ok_iff.1 hafter.2
        exact ⟨['0'], fraction, exponent,
          .parts (.of_zero hafter.1) (fun _ ↦ rfl) hfraction hexponent⟩
      next hzero =>
        split at h
        next hc =>
          obtain ⟨fraction, behind, exponent, hfraction, hexponent⟩ := skipAfterInteger_ok_iff.1 h
          refine ⟨_, fraction, exponent, .parts (.of_isDigit hc tail) ?_ hfraction hexponent⟩
          simp [hc, hzero]
        next => cases h
  · rintro ⟨whole, fraction, exponent, ⟨hrun, hzero, hfraction, hexponent⟩⟩
    have hskip := skipAfterInteger_ok_iff.2 ⟨fraction, _, exponent, hfraction, hexponent⟩
    obtain ⟨c, tail, rfl, hc, hhead⟩ := hrun.exists_cons
    simp only [skipNumeral]
    split
    next hleading =>
      subst hleading
      rw [hzero hhead] at hrun
      have hbehind := hrun.isDigit_head
      have htail := hrun.eq_append
      simp only [List.cons_append, List.nil_append, List.cons.injEq, true_and] at htail
      subst htail
      cases tail with
      | nil => exact hskip
      | cons d after => simpa [hbehind d rfl] using hskip
    next hleading =>
      rw [hrun.left]
      simpa [hc] using hskip

end Numeral

/-! ### String literals -/

theorem utf8Size_of_isHexDigit {c : Char} (h : Text.isHexDigit c = true) : c.utf8Size = 1 := by
  have hbound : c.toNat < 128 := by
    unfold Text.isHexDigit Text.digitValue? at h
    split at h
    next hdigit => exact Nat.lt_of_le_of_lt hdigit.2 (by decide)
    next =>
      split at h
      next hlower => exact Nat.lt_of_le_of_lt hlower.2 (by decide)
      next =>
        split at h
        next hupper => exact Nat.lt_of_le_of_lt hupper.2 (by decide)
        next => cases h
  exact Char.utf8Size_eq_one_iff.2 (Nat.le_of_lt_succ hbound)

theorem readHexUnit_ok_iff {s rest : List Char} {u : Nat} :
    readHexUnit s = .ok (u, rest) ↔
      ∃ a b c d, s = a :: b :: c :: d :: rest ∧ [a, b, c, d].all Text.isHexDigit = true ∧
        u = Text.naturalIn 16 [a, b, c, d] := by
  constructor
  · intro h
    unfold readHexUnit at h
    split at h
    next => cases h
    next =>
      split at h
      next a b c d tail _ =>
        split at h
        next hhex =>
          cases h
          exact ⟨a, b, c, d, rfl, hhex, rfl⟩
        next => cases h
      next => cases h
  · rintro ⟨a, b, c, d, rfl, hhex, rfl⟩
    have hsizes : Text.byteLength ([a, b, c, d]) = 4 := by
      simp only [List.all_cons, List.all_nil, Bool.and_true, Bool.and_eq_true] at hhex
      simp [utf8Size_of_isHexDigit hhex.1, utf8Size_of_isHexDigit hhex.2.1,
        utf8Size_of_isHexDigit hhex.2.2.1, utf8Size_of_isHexDigit hhex.2.2.2]
    simp [readHexUnit, hsizes, hhex]

theorem exists_quoted_of_skipEscape {pieces : List Piece} {s after rest : List Char}
    (h : skipEscape s = .ok ((), after)) (hquoted : Quoted pieces after rest) :
    ∃ piece, Quoted (piece :: pieces) ('\\' :: s) rest := by
  unfold skipEscape at h
  split at h
  next => cases h
  next c tail =>
    split at h
    next hletter =>
      subst hletter
      split at h
      next => cases h
      next unit behind hunit =>
        cases h
        obtain ⟨a, b, c, d, rfl, hhex, rfl⟩ := readHexUnit_ok_iff.1 hunit
        exact ⟨_, .numbered hhex hquoted⟩
    next hletter =>
      split at h
      next hnamed =>
        cases h
        obtain ⟨named, hnamed⟩ := Option.isSome_iff_exists.1 hnamed
        exact ⟨.char named, .named hnamed hquoted⟩
      next => cases h

theorem quoted_of_skipQuotation {steps : Nat} {s rest : List Char}
    (h : skipQuotation steps s = .ok ((), rest)) : ∃ pieces, Quoted pieces s rest := by
  induction steps generalizing s with
  | zero => cases h
  | succ steps ih =>
    cases s with
    | nil => cases h
    | cons c tail =>
      rw [skipQuotation] at h
      split at h
      next hquote =>
        cases h
        subst hquote
        exact ⟨[], .close _⟩
      next hquote =>
        split at h
        next hslash =>
          subst hslash
          split at h
          next => cases h
          next after hescape =>
            obtain ⟨pieces, hquoted⟩ := ih h
            obtain ⟨piece, hpiece⟩ := exists_quoted_of_skipEscape hescape hquoted
            exact ⟨piece :: pieces, hpiece⟩
        next hslash =>
          split at h
          next => cases h
          next hcontrol =>
            obtain ⟨pieces, hquoted⟩ := ih h
            exact ⟨.char c :: pieces, .plain hquote hslash (Nat.le_of_not_lt hcontrol) hquoted⟩

/-- A reader that has a step for each character has one for the first. -/
theorem exists_step {steps : Nat} {s rest : List Char} (hlength : rest.length < s.length)
    (hsteps : s.length ≤ steps + rest.length) : ∃ fewer, steps = fewer + 1 :=
  Nat.exists_eq_add_one.2 (by omega)

theorem skipQuotation_of_quoted {pieces : List Piece} {s rest : List Char} {steps : Nat}
    (h : Quoted pieces s rest) (hsteps : s.length ≤ steps + rest.length) :
    skipQuotation steps s = .ok ((), rest) := by
  induction h generalizing steps with
  | close rest =>
    obtain ⟨steps, rfl⟩ := exists_step (Nat.lt_succ_self _) hsteps
    rfl
  | plain hquote hslash hcontrol h ih =>
    obtain ⟨steps, rfl⟩ := exists_step (Nat.lt_succ_of_lt h.length_lt) hsteps
    rw [List.length_cons] at hsteps
    rw [skipQuotation, if_neg hquote, if_neg hslash, if_neg (Nat.not_lt.2 hcontrol)]
    exact ih (by omega)
  | @named letter c pieces s rest hnamed h ih =>
    have hlength := h.length_lt
    obtain ⟨steps, rfl⟩ := exists_step (Quoted.named hnamed h).length_lt hsteps
    simp only [List.length_cons] at hsteps
    have hescape : skipEscape (letter :: s) = .ok ((), s) := by
      have hletter : letter ≠ 'u' := by
        rintro rfl
        cases hnamed
      simp [skipEscape, hletter, hnamed]
    simp only [skipQuotation, hescape, Char.reduceEq, if_true, if_false]
    exact ih (by omega)
  | @numbered a b c d pieces s rest hhex h ih =>
    have hlength := h.length_lt
    obtain ⟨steps, rfl⟩ := exists_step (Quoted.numbered hhex h).length_lt hsteps
    simp only [List.length_cons] at hsteps
    have hescape : skipEscape ('u' :: a :: b :: c :: d :: s) = .ok ((), s) := by
      have hunit : readHexUnit (a :: b :: c :: d :: s) = .ok (_, s) :=
        readHexUnit_ok_iff.2 ⟨a, b, c, d, rfl, hhex, rfl⟩
      simp [skipEscape, hunit]
    simp only [skipQuotation, hescape, Char.reduceEq, if_true, if_false]
    exact ih (by omega)

theorem skipKey_ok {steps : Nat} {s rest : List Char} (h : skipKey steps s = .ok ((), rest)) :
    ∃ quoted pieces, skipSpaces s = '"' :: quoted ∧ Quoted pieces quoted rest := by
  unfold skipKey at h
  split at h
  next => cases h
  next c tail hs =>
    split at h
    next hquote =>
      subst hquote
      obtain ⟨pieces, hquoted⟩ := quoted_of_skipQuotation h
      exact ⟨tail, pieces, hs, hquoted⟩
    next => cases h

theorem skipKey_of_quoted {pieces : List Piece} {s quoted rest : List Char} {steps : Nat}
    (hs : skipSpaces s = '"' :: quoted) (h : Quoted pieces quoted rest)
    (hsteps : quoted.length ≤ steps + rest.length) : skipKey steps s = .ok ((), rest) := by
  simp only [skipKey, hs, if_true]
  exact skipQuotation_of_quoted h hsteps

theorem readColon_ok_iff {s rest : List Char} :
    readColon s = .ok ((), rest) ↔ skipSpaces s = ':' :: rest := by
  unfold readColon
  split
  next hs => simp [hs, stopBefore]
  next c tail hs =>
    by_cases hcolon : c = ':'
    · simp [hs, hcolon]
    · simp [hs, hcolon, stopAt]

theorem readWord_ok_iff {expected s rest : List Char} :
    readWord expected s = .ok ((), rest) ↔ s = expected ++ rest := by
  induction expected generalizing s with
  | nil => simp [readWord]
  | cons e expected ih =>
    cases s with
    | nil => simp [readWord, stopBefore]
    | cons c tail =>
      by_cases hc : c = e
      · simp [readWord, hc, ih]
      · simp [readWord, hc, stopAt]

/-! ### Values -/

/-- What the readers that pass over something with so many steps have passed over. -/
structure Skips (steps : Nat) : Prop where
  value {s rest : List Char} (h : skipValue steps s = .ok ((), rest)) :
    ∃ tree, Spelled tree (skipSpaces s) rest
  items {first : Bool} {s rest : List Char} (h : skipItems steps first s = .ok ((), rest)) :
    ∃ items, ItemsSpelled first items s rest
  members {first : Bool} {s rest : List Char} (h : skipMembers steps first s = .ok ((), rest)) :
    ∃ members, MembersSpelled first members s rest

section Step

variable {steps : Nat} (ih : Skips steps) {s rest : List Char}

include ih

/-- The first character of a value tells its kind, and each kind has a reader of its own. -/
theorem spelled_of_skipValue (h : skipValue (steps + 1) s = .ok ((), rest)) :
    ∃ tree, Spelled tree (skipSpaces s) rest := by
  rw [skipValue] at h
  split at h
  next => cases h
  next c tail hs =>
    rw [hs]
    split at h
    next hc =>
      cases readWord_ok_iff.1 h
      exact ⟨.null, hc ▸ .null rest⟩
    split at h
    next hc =>
      cases readWord_ok_iff.1 h
      exact ⟨.bool true, hc ▸ .true rest⟩
    split at h
    next hc =>
      cases readWord_ok_iff.1 h
      exact ⟨.bool false, hc ▸ .false rest⟩
    split at h
    next hc =>
      obtain ⟨whole, fraction, exponent, hmagnitude⟩ := skipNumeral_ok_iff.1 h
      subst hc
      exact ⟨_, .numeral (.negative hmagnitude)⟩
    split at h
    next =>
      obtain ⟨whole, fraction, exponent, hmagnitude⟩ := skipNumeral_ok_iff.1 h
      exact ⟨_, .numeral (.positive hmagnitude)⟩
    split at h
    next hc =>
      obtain ⟨pieces, hquoted⟩ := quoted_of_skipQuotation h
      subst hc
      exact ⟨_, .string hquoted⟩
    split at h
    next hc =>
      obtain ⟨items, hitems⟩ := ih.items h
      subst hc
      exact ⟨_, .list hitems⟩
    split at h
    next hc =>
      obtain ⟨members, hmembers⟩ := ih.members h
      subst hc
      exact ⟨_, .object hmembers⟩
    next => cases h

theorem spelled_of_skipItems {first : Bool} (h : skipItems (steps + 1) first s = .ok ((), rest)) :
    ∃ items, ItemsSpelled first items s rest := by
  rw [skipItems] at h
  split at h
  next => cases h
  next c tail hs =>
    split at h
    next hc =>
      cases h
      exact ⟨[], .close (hc ▸ hs)⟩
    split at h
    next => cases h
    next hcomma =>
      split at h
      next => cases h
      next after hvalue =>
        obtain ⟨item, hitem⟩ := ih.value hvalue
        obtain ⟨items, hitems⟩ := ih.items h
        -- the first item stands where the spaces end, any other one behind a comma
        cases first with
        | true =>
          rw [if_pos rfl, ← hs, skipSpaces_skipSpaces] at hitem
          exact ⟨item :: items, .item (.first s) hitem hitems⟩
        | false =>
          have hc : c = ',' := by simpa using hcomma
          exact ⟨item :: items, .item (.comma (hc ▸ hs)) hitem hitems⟩

theorem spelled_of_skipMembers {first : Bool}
    (h : skipMembers (steps + 1) first s = .ok ((), rest)) :
    ∃ members, MembersSpelled first members s rest := by
  rw [skipMembers] at h
  split at h
  next => cases h
  next c tail hs =>
    split at h
    next hc =>
      cases h
      exact ⟨[], .close (hc ▸ hs)⟩
    split at h
    next => cases h
    next hcomma =>
      split at h
      next => cases h
      next behindKey hkey =>
        split at h
        next => cases h
        next behindColon hcolon =>
          split at h
          next => cases h
          next after hvalue =>
            obtain ⟨quoted, key, hquote, hquoted⟩ := skipKey_ok hkey
            obtain ⟨value, hspelled⟩ := ih.value hvalue
            obtain ⟨members, hmembers⟩ := ih.members h
            have hcolon := readColon_ok_iff.1 hcolon
            cases first with
            | true =>
              rw [if_pos rfl, ← hs, skipSpaces_skipSpaces] at hquote
              exact ⟨(key, value) :: members,
                .member (.first s) hquote hquoted hcolon hspelled hmembers⟩
            | false =>
              have hc : c = ',' := by simpa using hcomma
              exact ⟨(key, value) :: members,
                .member (.comma (hc ▸ hs)) hquote hquoted hcolon hspelled hmembers⟩

end Step

/-- What a reader that passed over something has passed over. -/
theorem skips (steps : Nat) : Skips steps := by
  induction steps with
  | zero => exact ⟨nofun, nofun, nofun⟩
  | succ steps ih =>
    exact ⟨spelled_of_skipValue ih, spelled_of_skipItems ih, spelled_of_skipMembers ih⟩

theorem skipValue_of_digit {steps : Nat} {c : Char} {s tail : List Char}
    (hs : skipSpaces s = c :: tail) (hc : c.isDigit = true) :
    skipValue (steps + 1) s = skipNumeral (c :: tail) := by
  have hne : ∀ {d : Char}, d.isDigit = false → c ≠ d := ne_of_isDigit hc
  simp only [skipValue, hs]
  rw [if_neg (hne rfl), if_neg (hne rfl), if_neg (hne rfl), if_neg (hne rfl), if_pos hc]

mutual

theorem skipValue_of_spelled {steps : Nat} {tree : Tree} {s front rest : List Char}
    (h : Spelled tree front rest) (hs : skipSpaces s = front)
    (hsteps : front.length ≤ steps + rest.length) : skipValue steps s = .ok ((), rest) := by
  obtain ⟨steps, rfl⟩ := exists_step h.length_lt hsteps
  cases h with
  | null => simp [skipValue, hs, readWord]
  | true => simp [skipValue, hs, readWord]
  | false => simp [skipValue, hs, readWord]
  | numeral h =>
    cases h with
    | positive h =>
      obtain ⟨c, tail, rfl, hc⟩ := h.front
      rw [skipValue_of_digit hs hc]
      exact skipNumeral_ok_iff.2 ⟨_, _, _, h⟩
    | negative h =>
      simp only [skipValue, hs, Char.reduceEq, if_true, if_false]
      exact skipNumeral_ok_iff.2 ⟨_, _, _, h⟩
  | string h =>
    simp only [skipValue, hs, Char.reduceEq, if_true, if_false]
    rw [List.length_cons] at hsteps
    exact skipQuotation_of_quoted h (by omega)
  | list h =>
    simp only [skipValue, hs, Char.reduceEq, if_true, if_false]
    rw [List.length_cons] at hsteps
    exact skipItems_of_spelled h (by omega)
  | object h =>
    simp only [skipValue, hs, Char.reduceEq, if_true, if_false]
    rw [List.length_cons] at hsteps
    exact skipMembers_of_spelled h (by omega)

theorem skipItems_of_spelled {steps : Nat} {first : Bool} {items : List Tree}
    {s rest : List Char} (h : ItemsSpelled first items s rest)
    (hsteps : s.length ≤ steps + rest.length) : skipItems steps first s = .ok ((), rest) := by
  obtain ⟨steps, rfl⟩ := exists_step h.length_lt hsteps
  cases h with
  | close h => simp [skipItems, h]
  | @item _ item items _ front after _ hlead hitem hitems =>
    have hfront := hlead.length_le
    have hafter := hitem.length_lt
    have hrest := hitems.length_lt
    have hskipped : skipItems steps false after = .ok ((), rest) :=
      skipItems_of_spelled hitems (by omega)
    cases hlead with
    | first =>
      obtain ⟨c, tail, hs, hbracket, -, -⟩ := hitem.exists_cons
      have hvalue : skipValue steps (c :: tail) = .ok ((), after) :=
        skipValue_of_spelled hitem (by rw [← hs, skipSpaces_skipSpaces]) (by omega)
      simp [skipItems, hs, hbracket, hvalue, hskipped]
    | comma hs =>
      have hvalue : skipValue steps front = .ok ((), after) :=
        skipValue_of_spelled hitem rfl (by have := length_lt_of_skipSpaces hs; omega)
      simp [skipItems, hs, hvalue, hskipped]

theorem skipMembers_of_spelled {steps : Nat} {first : Bool} {members : List (List Piece × Tree)}
    {s rest : List Char} (h : MembersSpelled first members s rest)
    (hsteps : s.length ≤ steps + rest.length) : skipMembers steps first s = .ok ((), rest) := by
  obtain ⟨steps, rfl⟩ := exists_step h.length_lt hsteps
  cases h with
  | close h => simp [skipMembers, h]
  | @member _ key value members _ front quoted behindKey behindColon after _ hlead hquote hkey
      hcolon hvalue hmembers =>
    have hfront := hlead.length_le
    rw [hquote, List.length_cons] at hfront
    have hbehindKey := hkey.length_lt
    have hbehindColon := length_lt_of_skipSpaces hcolon
    have hspaces := length_skipSpaces_le behindColon
    have hafter := hvalue.length_lt
    have hrest := hmembers.length_lt
    have hcolon := readColon_ok_iff.2 hcolon
    have hvalued : skipValue steps behindColon = .ok ((), after) :=
      skipValue_of_spelled hvalue rfl (by omega)
    have hskipped : skipMembers steps false after = .ok ((), rest) :=
      skipMembers_of_spelled hmembers (by omega)
    cases hlead with
    | first =>
      have hkeyed : skipKey steps ('"' :: quoted) = .ok ((), behindKey) :=
        skipKey_of_quoted rfl hkey (by omega)
      simp [skipMembers, hquote, hkeyed, hcolon, hvalued, hskipped]
    | comma hs =>
      have hkeyed : skipKey steps front = .ok ((), behindKey) :=
        skipKey_of_quoted hquote hkey (by omega)
      simp [skipMembers, hs, hkeyed, hcolon, hvalued, hskipped]

end

/-! ### Texts -/

theorem readAll_ok_iff {π α : Type} {read : List Char → Text.Reading π α} {surplus : π}
    {text : String} {result : α} :
    readAll read surplus text = .ok result ↔
      ∃ rest, read text.toList = .ok (result, rest) ∧ skipSpaces rest = [] := by
  unfold readAll toEnd
  cases read text.toList with
  | error fault => simp
  | ok found =>
    obtain ⟨found, rest⟩ := found
    simp only [Except.ok.injEq, Prod.mk.injEq]
    cases hrest : skipSpaces rest with
    | nil =>
      constructor
      · rintro ⟨⟩
        exact ⟨rest, ⟨rfl, rfl⟩, hrest⟩
      · rintro ⟨_, ⟨rfl, rfl⟩, -⟩
        rfl
    | cons c tail =>
      constructor
      · rintro ⟨⟩
      · rintro ⟨_, ⟨-, rfl⟩, hnil⟩
        rw [hrest] at hnil
        cases hnil

/-- The texts that are passed over to their end are those that spell a tree. -/
theorem check_ok_iff {text : String} :
    check text = .ok () ↔ ∃ tree : Tree, tree.Spells text := by
  rw [check, readAll_ok_iff]
  constructor
  · rintro ⟨rest, hskip, hrest⟩
    obtain ⟨tree, htree⟩ := (skips _).value hskip
    exact ⟨tree, rest, htree, hrest⟩
  · rintro ⟨tree, rest, htree, hrest⟩
    refine ⟨rest, skipValue_of_spelled htree rfl ?_, hrest⟩
    have hspaces := length_skipSpaces_le text.toList
    rw [stepsFor]
    omega

end Brokerage.Json
