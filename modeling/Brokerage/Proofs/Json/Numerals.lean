import Brokerage.Json.Printer
import Brokerage.Proofs.Json.Meaning
import Brokerage.Proofs.Number.Shortest

/-!
The texts of numbers. An integer is written as a literal of its digits, and a finite real as a
literal of its shortest decimal, to which it is nearest. A literal is as long as it can be, so this
holds wherever the text goes on with what ends a literal.
-/

set_option autoImplicit false

namespace Brokerage.Json

open Text (digitValue natural naturalIn)

/-- A text that goes on so does not go on with a number literal. -/
def EndsNumeral (rest : List Char) : Prop :=
  ∀ c ∈ rest.head?, c.isDigit = false ∧ c ≠ '.' ∧ isExponentLetter c = false

theorem endsNumeral_nil : EndsNumeral [] := nofun

theorem endsNumeral_comma (rest : List Char) : EndsNumeral (',' :: rest) := by
  rintro c ⟨⟩
  decide

theorem endsNumeral_bracket (rest : List Char) : EndsNumeral (']' :: rest) := by
  rintro c ⟨⟩
  decide

theorem endsNumeral_brace (rest : List Char) : EndsNumeral ('}' :: rest) := by
  rintro c ⟨⟩
  decide

/-! ### Runs of digits -/

theorem DigitRun.of_append {digits rest : List Char} (hnonempty : digits ≠ [])
    (hdigits : ∀ c ∈ digits, c.isDigit = true) (hrest : ∀ c ∈ rest.head?, c.isDigit = false) :
    DigitRun digits (digits ++ rest) rest := by
  have htake : rest.takeWhile Char.isDigit = [] := by
    cases rest with
    | nil => rfl
    | cons c tail => simp [hrest c rfl]
  have hdrop : rest.dropWhile Char.isDigit = rest := by
    cases rest with
    | nil => rfl
    | cons c tail => simp [hrest c rfl]
  refine ⟨?_, ?_, hnonempty⟩
  · rw [List.takeWhile_append_of_pos hdigits, htake, List.append_nil]
  · rw [List.dropWhile_append_of_pos hdigits, hdrop]

theorem isDigit_head_eq_false {c : Char} (h : c.isDigit = false) (rest : List Char) :
    ∀ d ∈ (c :: rest).head?, d.isDigit = false := by
  rintro d ⟨⟩
  exact h

theorem isDigit_of_mem_toDigits {n : Nat} {c : Char} (h : c ∈ Nat.toDigits 10 n) :
    c.isDigit = true :=
  Nat.isDigit_of_mem_toDigits (by decide) (by decide) h

theorem digitValue_of_isDigit {c : Char} (h : c.isDigit = true) :
    digitValue c = c.toNat - '0'.toNat := by
  have hrange : '0' ≤ c ∧ c ≤ '9' := by
    simp only [Char.isDigit, Bool.and_eq_true, decide_eq_true_eq] at h
    exact h
  rw [digitValue, Text.digitValue?, if_pos hrange]
  rfl

theorem foldl_digits_eq {digits : List Char} (h : ∀ c ∈ digits, c.isDigit = true) (n : Nat) :
    digits.foldl (fun n c ↦ 10 * n + digitValue c) n = Nat.ofDigitChars 10 digits n := by
  induction digits generalizing n with
  | nil => rfl
  | cons d digits ih =>
    rw [List.forall_mem_cons] at h
    rw [List.foldl_cons, ih h.2, digitValue_of_isDigit h.1]
    rfl

theorem natural_toDigits (n : Nat) : natural (Nat.toDigits 10 n) = n := by
  have hdigits : ∀ c ∈ Nat.toDigits 10 n, c.isDigit = true := fun _ ↦ isDigit_of_mem_toDigits
  rw [natural, naturalIn, foldl_digits_eq hdigits, Nat.ofDigitChars_ten_toDigits]

theorem foldl_digits_add (n : Nat) (digits : List Char) :
    digits.foldl (fun n c ↦ 10 * n + digitValue c) n =
      n * 10 ^ digits.length + natural digits := by
  induction digits using List.reverseRecOn with
  | nil => simp [natural, naturalIn]
  | append_singleton digits d ih =>
    rw [natural, naturalIn, List.foldl_concat, List.foldl_concat, ih, List.length_append,
      List.length_singleton, Nat.pow_succ, natural, naturalIn]
    ring

theorem natural_append (digits others : List Char) :
    natural (digits ++ others) = natural digits * 10 ^ others.length + natural others := by
  rw [natural, naturalIn, List.foldl_append, foldl_digits_add]
  rfl

theorem natural_replicate_zero (n : Nat) : natural (List.replicate n '0') = 0 := by
  induction n with
  | zero => rfl
  | succ n ih =>
    rw [List.replicate_succ', natural_append, ih]
    decide

/-- Digits that begin with a zero are those of zero. -/
theorem toDigits_of_head {n : Nat} (h : (Nat.toDigits 10 n).head? = some '0') :
    Nat.toDigits 10 n = ['0'] := by
  induction n using Nat.strongRecOn with
  | ind n ih =>
    by_cases hsmall : n < 10
    · rw [Nat.toDigits_of_lt_base hsmall] at h ⊢
      rw [Option.some.inj h]
    · have hlarge : 10 ≤ n := Nat.le_of_not_lt hsmall
      have hhead : (Nat.toDigits 10 (n / 10)).head? = some '0' := by
        rw [Nat.toDigits_of_base_le (by decide) hlarge, List.head?_append] at h
        cases hfront : (Nat.toDigits 10 (n / 10)).head? with
        | none => exact absurd (List.head?_eq_none_iff.1 hfront) Nat.toDigits_ne_nil
        | some c => rwa [hfront, Option.some_or] at h
      have htenth := ih (n / 10) (by omega) hhead
      have hzero : n / 10 = 0 := by
        rw [← natural_toDigits (n / 10), htenth]
        rfl
      omega

theorem head_toDigits_ne {n : Nat} (h : 0 < n) : (Nat.toDigits 10 n).head? ≠ some '0' := by
  intro hhead
  have hzero := congrArg natural (toDigits_of_head hhead)
  rw [natural_toDigits] at hzero
  exact Nat.ne_of_gt h hzero

namespace Numeral

/-! ### Integers -/

/-- The literal of an integer. -/
def ofInt : Int → Numeral
  | .ofNat n => ⟨false, Nat.toDigits 10 n, none, none⟩
  | .negSucc n => ⟨true, Nat.toDigits 10 (n + 1), none, none⟩

theorem magnitudeSpelled_toDigits (n : Nat) {rest : List Char} (h : EndsNumeral rest) :
    MagnitudeSpelled (Nat.toDigits 10 n) none none (Nat.toDigits 10 n ++ rest) rest :=
  .parts
    (.of_append Nat.toDigits_ne_nil (fun _ ↦ isDigit_of_mem_toDigits) fun c hc ↦ (h c hc).1)
    toDigits_of_head
    (.absent fun hhead ↦ (h '.' hhead).2.1 rfl)
    (.absent fun c hc ↦ (h c hc).2.2)

theorem spelled_ofInt (i : Int) {rest : List Char} (h : EndsNumeral rest) :
    (ofInt i).Spelled (integerChars i ++ rest) rest := by
  cases i with
  | ofNat n => exact .positive (magnitudeSpelled_toDigits n h)
  | negSucc n => exact .negative (magnitudeSpelled_toDigits (n + 1) h)

theorem means_ofInt (i : Int) : Tree.Means (.numeral (ofInt i)) (.integer i) := by
  have hinteger : (ofInt i).integer = i := by
    cases i with
    | ofNat n => simp [integer, ofInt, natural_toDigits]
    | negSucc n => simp [integer, ofInt, natural_toDigits, Int.negSucc_eq]
  have hmeans : Tree.Means (.numeral (ofInt i)) (.integer (ofInt i).integer) := by
    cases i with
    | ofNat n => exact .integer rfl rfl fun hsign ↦ absurd hsign Bool.false_ne_true
    | negSucc n => exact .integer rfl rfl fun _ ↦ by rw [ofInt, natural_toDigits]; omega
  rwa [hinteger] at hmeans

/-! ### Reals -/

/-- What a literal stands for apart from its sign. -/
def magnitude (n : Numeral) : ℚ :=
  n.coefficient * (10 : ℚ) ^ n.power

/-- A text is a literal of a decimal, with a fraction or an exponent. -/
def Writes (s : List Char) (d : Decimal) : Prop :=
  ∀ rest, EndsNumeral rest → ∃ whole fraction exponent,
    (fraction ≠ none ∨ exponent ≠ none) ∧
      MagnitudeSpelled whole fraction exponent (s ++ rest) rest ∧
      ∀ negative, (⟨negative, whole, fraction, exponent⟩ : Numeral).magnitude = d.value

/-- Digits with a point between them are a literal. -/
theorem magnitudeSpelled_point {whole fraction rest : List Char} (hrest : EndsNumeral rest)
    (hwhole : ∀ c ∈ whole, c.isDigit = true) (hne : whole ≠ [])
    (hzero : whole.head? = some '0' → whole = ['0'])
    (hfraction : ∀ c ∈ fraction, c.isDigit = true) (hne' : fraction ≠ []) :
    MagnitudeSpelled whole (some fraction) none (whole ++ '.' :: fraction ++ rest) rest := by
  rw [List.append_assoc, List.cons_append]
  exact .parts (.of_append hne hwhole (isDigit_head_eq_false rfl _)) hzero
    (.present (.of_append hne' hfraction fun c hc ↦ (hrest c hc).1))
    (.absent fun c hc ↦ (hrest c hc).2.2)

theorem writes_point {whole fraction : List Char} {d : Decimal}
    (hwhole : ∀ c ∈ whole, c.isDigit = true) (hne : whole ≠ [])
    (hzero : whole.head? = some '0' → whole = ['0'])
    (hfraction : ∀ c ∈ fraction, c.isDigit = true) (hne' : fraction ≠ [])
    (hvalue : (natural (whole ++ fraction) : ℚ) * (10 : ℚ) ^ (-(fraction.length : Int)) = d.value) :
    Writes (whole ++ '.' :: fraction) d := by
  intro rest hrest
  refine ⟨whole, some fraction, none, .inl nofun,
    magnitudeSpelled_point hrest hwhole hne hzero hfraction hne', fun negative ↦ ?_⟩
  simpa [magnitude, coefficient, power, shift] using hvalue

/-- An exponent that always shows its sign. -/
def exponentText (exponent : Int) : List Char :=
  'e' :: (if exponent < 0 then '-' else '+') :: Nat.toDigits 10 exponent.natAbs

theorem exists_exponentSpelled (exponent : Int) {rest : List Char} (hrest : EndsNumeral rest) :
    ∃ said, ExponentSpelled (some said) (exponentText exponent ++ rest) rest ∧
      shift (some said) = exponent := by
  have hrun : DigitRun _ (Nat.toDigits 10 exponent.natAbs ++ rest) rest :=
    .of_append Nat.toDigits_ne_nil (fun _ ↦ isDigit_of_mem_toDigits) fun c hc ↦ (hrest c hc).1
  rw [exponentText, List.cons_append, List.cons_append]
  by_cases hdown : exponent < 0
  · rw [if_pos hdown]
    refine ⟨(true, _), .present rfl (.minus _) hrun, ?_⟩
    rw [shift, if_pos rfl, natural_toDigits]
    omega
  · rw [if_neg hdown]
    refine ⟨(false, _), .present rfl (.plus _) hrun, ?_⟩
    rw [shift, if_neg Bool.false_ne_true, natural_toDigits]
    omega

section Exponent

variable {first : Char} {exponent : Int} {d : Decimal} (hfirst : first.isDigit = true)
  (hzero : first ≠ '0')
include hfirst hzero

theorem writes_exponent (hvalue : (natural [first] : ℚ) * (10 : ℚ) ^ exponent = d.value) :
    Writes ([first] ++ exponentText exponent) d := by
  intro rest hrest
  obtain ⟨said, hsaid, hshift⟩ := exists_exponentSpelled exponent hrest
  refine ⟨[first], none, some said, .inr (Option.some_ne_none said), ?_, fun negative ↦ ?_⟩
  · rw [List.append_assoc]
    exact .parts
      (.of_append (List.cons_ne_nil first []) (List.forall_mem_singleton.2 hfirst)
        (isDigit_head_eq_false rfl _))
      (fun hhead ↦ absurd (Option.some.inj hhead) hzero) (.absent (by simp [exponentText])) hsaid
  · simpa [magnitude, coefficient, power, hshift] using hvalue

theorem writes_point_exponent {fraction : List Char}
    (hfraction : ∀ c ∈ fraction, c.isDigit = true) (hne : fraction ≠ [])
    (hvalue : (natural (first :: fraction) : ℚ) * (10 : ℚ) ^ (exponent - fraction.length) =
      d.value) :
    Writes ([first] ++ '.' :: (fraction ++ exponentText exponent)) d := by
  intro rest hrest
  obtain ⟨said, hsaid, hshift⟩ := exists_exponentSpelled exponent hrest
  refine ⟨[first], some fraction, some said, .inl (Option.some_ne_none fraction), ?_,
    fun negative ↦ ?_⟩
  · have hform : [first] ++ '.' :: (fraction ++ exponentText exponent) ++ rest =
        [first] ++ '.' :: (fraction ++ (exponentText exponent ++ rest)) := by simp
    rw [hform]
    exact .parts
      (.of_append (List.cons_ne_nil first []) (List.forall_mem_singleton.2 hfirst)
        (isDigit_head_eq_false rfl _))
      (fun hhead ↦ absurd (Option.some.inj hhead) hzero)
      (.present (.of_append hne hfraction (isDigit_head_eq_false rfl _))) hsaid
  · simpa [magnitude, coefficient, power, hshift] using hvalue

end Exponent

theorem isDigit_of_mem_zero : ∀ c ∈ ['0'], c.isDigit = true :=
  List.forall_mem_singleton.2 rfl

theorem isDigit_of_mem_replicate {n : Nat} {c : Char} (h : c ∈ List.replicate n '0') :
    c.isDigit = true := by
  rw [List.eq_of_mem_replicate h]
  decide

theorem positional_of_nonpos {d : Decimal} {zeros : Nat} (h : d.pointAt = -zeros) :
    d.positional = ['0'] ++ '.' :: (List.replicate zeros '0' ++ d.digitText) := by
  cases zeros with
  | zero =>
    simp only [Decimal.positional, h]
    rfl
  | succ n =>
    rw [Int.natCast_succ, ← Int.negSucc_eq] at h
    simp only [Decimal.positional, h]
    rfl

theorem positional_of_pos {d : Decimal} {point : Nat} (h : d.pointAt = point) (hpos : 0 < point) :
    d.positional =
      if d.digitText.length ≤ point then
        (d.digitText ++ List.replicate (point - d.digitText.length) '0') ++ '.' :: ['0']
      else d.digitText.take point ++ '.' :: d.digitText.drop point := by
  obtain ⟨before, rfl⟩ := Nat.exists_eq_succ_of_ne_zero (Nat.ne_of_gt hpos)
  simp only [Decimal.positional, h]
  rfl

section Digits

variable {d : Decimal} (hpos : 0 < d.digits)

theorem digitText_ne_nil (d : Decimal) : d.digitText ≠ [] :=
  Nat.toDigits_ne_nil

theorem isDigit_of_mem_digitText {c : Char} (h : c ∈ d.digitText) : c.isDigit = true :=
  isDigit_of_mem_toDigits h

theorem natural_digitText (d : Decimal) : natural d.digitText = d.digits :=
  natural_toDigits d.digits

/-- Zeros follow the point, if it is not right before the first digit. -/
theorem writes_positional_of_nonpos {zeros : Nat} (h : d.pointAt = -zeros) :
    Writes d.positional d := by
  have hexponent : -((List.replicate zeros '0' ++ d.digitText).length : Int) = d.exponent := by
    rw [Decimal.pointAt] at h
    rw [List.length_append, List.length_replicate]
    omega
  have hnothing : natural ['0'] = 0 := by decide
  rw [positional_of_nonpos h]
  refine writes_point isDigit_of_mem_zero nofun (fun _ ↦ rfl) ?_ (by simp [digitText_ne_nil]) ?_
  · exact List.forall_mem_append.2
      ⟨fun _ ↦ isDigit_of_mem_replicate, fun _ ↦ isDigit_of_mem_digitText⟩
  · rw [hexponent, natural_append, natural_append, natural_replicate_zero, natural_digitText,
      hnothing, Nat.zero_mul, Nat.zero_mul, Nat.zero_add, Nat.zero_add, Decimal.value]

include hpos in
theorem writes_positional_of_pos {point : Nat} (h : d.pointAt = point) (hpoint : 0 < point) :
    Writes d.positional d := by
  have hexponent : d.exponent = point - d.digitText.length := by
    rw [Decimal.pointAt] at h
    omega
  have hhead : d.digitText.head? ≠ some '0' := head_toDigits_ne hpos
  obtain ⟨first, others, hdigits⟩ := List.exists_cons_of_ne_nil (digitText_ne_nil d)
  rw [positional_of_pos h hpoint]
  split
  next hlong =>
    -- zeros fill up to the point
    have hnothing : natural ['0'] = 0 := by decide
    refine writes_point ?_ (by simp [digitText_ne_nil]) ?_ isDigit_of_mem_zero nofun ?_
    · exact List.forall_mem_append.2
        ⟨fun _ ↦ isDigit_of_mem_digitText, fun _ ↦ isDigit_of_mem_replicate⟩
    · intro hzero
      rw [hdigits] at hzero hhead
      exact absurd hzero hhead
    · have hfilled : d.exponent = (point - d.digitText.length : Nat) := by omega
      rw [natural_append, natural_append, natural_digitText, natural_replicate_zero, hnothing,
        Decimal.value, hfilled, zpow_natCast]
      simp
  next hshort =>
    -- the point stands between two digits
    obtain ⟨before, rfl⟩ := Nat.exists_eq_succ_of_ne_zero (Nat.ne_of_gt hpoint)
    refine writes_point (fun c hc ↦ isDigit_of_mem_digitText (List.mem_of_mem_take hc)) ?_ ?_
      (fun c hc ↦ isDigit_of_mem_digitText (List.mem_of_mem_drop hc)) ?_ ?_
    · rw [hdigits, List.take_succ_cons]
      exact List.cons_ne_nil _ _
    · intro hzero
      rw [hdigits, List.take_succ_cons] at hzero
      rw [hdigits] at hhead
      exact absurd hzero hhead
    · rw [Ne, List.drop_eq_nil_iff]
      exact hshort
    · have hbehind : -((d.digitText.drop (before + 1)).length : Int) = d.exponent := by
        rw [List.length_drop]
        omega
      rw [List.take_append_drop, natural_digitText, hbehind, Decimal.value]

include hpos in
theorem writes_positional : Writes d.positional d := by
  by_cases hpoint : 0 < d.pointAt
  · have hbehind : d.pointAt = d.pointAt.toNat := by omega
    exact writes_positional_of_pos hpos hbehind (by omega)
  · have hzeros : d.pointAt = -((-d.pointAt).toNat : Int) := by omega
    exact writes_positional_of_nonpos hzeros

include hpos in
/-- One digit stands before the point, which is left out if there is no other. -/
theorem writes_scientific : Writes d.scientific d := by
  have hhead : d.digitText.head? ≠ some '0' := head_toDigits_ne hpos
  have hrun : ∀ c ∈ d.digitText, c.isDigit = true := fun _ ↦ isDigit_of_mem_digitText
  have hnatural := natural_digitText d
  obtain ⟨first, others, hdigits⟩ := List.exists_cons_of_ne_nil (digitText_ne_nil d)
  have hpointAt : d.pointAt = (first :: others).length + d.exponent := by
    rw [← hdigits]
    rfl
  rw [hdigits] at hhead hrun hnatural
  have hzero : first ≠ '0' := fun heq ↦ hhead (congrArg some heq)
  obtain ⟨hfirst, hothers⟩ := List.forall_mem_cons.1 hrun
  cases others with
  | nil =>
    have hform : d.scientific = [first] ++ exponentText (d.pointAt - 1) := by
      simp [Decimal.scientific, hdigits, exponentText]
    have hpower : d.pointAt - 1 = d.exponent := by
      rw [hpointAt, List.length_singleton]
      omega
    rw [hform]
    exact writes_exponent hfirst hzero (by rw [hnatural, hpower, Decimal.value])
  | cons second others =>
    have hform : d.scientific =
        [first] ++ '.' :: ((second :: others) ++ exponentText (d.pointAt - 1)) := by
      simp [Decimal.scientific, hdigits, exponentText]
    have hpower : d.pointAt - 1 - (second :: others).length = d.exponent := by
      rw [hpointAt]
      simp only [List.length_cons]
      omega
    rw [hform]
    exact writes_point_exponent hfirst hzero hothers (List.cons_ne_nil second others)
      (by rw [hnatural, hpower, Decimal.value])

end Digits

theorem spelled_signText (x : Double) {whole : List Char} {fraction : Option (List Char)}
    {exponent : Option (Bool × List Char)} {s rest : List Char}
    (h : MagnitudeSpelled whole fraction exponent s rest) :
    Spelled ⟨x.isNegative, whole, fraction, exponent⟩ (x.signText ++ s) rest := by
  unfold Double.signText
  cases x.isNegative with
  | false => exact .positive h
  | true => exact .negative h

/-- The text of a finite value other than zero is that of its shortest decimal. -/
theorem exists_writes_of_chars {x : Double} (hzero : x.isZero = false) :
    ∃ s, x.chars = x.signText ++ s ∧ Writes s x.shortest := by
  have hpos : 0 < x.shortest.digits :=
    (Double.covers_shortest (Double.significand_pos hzero)).pos (Double.significand_pos hzero)
  rw [Double.chars, hzero, if_neg Bool.false_ne_true]
  simp only
  split
  next => exact ⟨_, rfl, writes_positional hpos⟩
  next => exact ⟨_, rfl, writes_scientific hpos⟩

/-- The text of a finite real is a literal to which it is nearest. -/
theorem exists_spelled_of_chars {x : Double} (hfinite : x.isFinite = true) {rest : List Char}
    (hrest : EndsNumeral rest) :
    ∃ n : Numeral, n.Spelled (x.chars ++ rest) rest ∧ Tree.Means (.numeral n) (.real x) := by
  suffices h : ∃ n : Numeral, n.Spelled (x.chars ++ rest) rest ∧
      (n.fraction ≠ none ∨ n.exponent ≠ none) ∧ n.nearest = x by
    obtain ⟨n, hspelled, hmarked, rfl⟩ := h
    exact ⟨n, hspelled, .real hmarked hfinite⟩
  cases hzero : x.isZero with
  | true =>
    have hform : x.chars = x.signText ++ (['0'] ++ '.' :: ['0']) := by
      rw [Double.chars, hzero, if_pos rfl]
      rfl
    refine ⟨⟨x.isNegative, ['0'], some ['0'], none⟩, ?_, .inl nofun,
      Double.nearest_zero hzero (-1)⟩
    rw [hform, List.append_assoc]
    exact spelled_signText x
      (magnitudeSpelled_point hrest isDigit_of_mem_zero nofun (fun _ ↦ rfl)
        isDigit_of_mem_zero nofun)
  | false =>
    obtain ⟨s, hs, hwrites⟩ := exists_writes_of_chars hzero
    obtain ⟨whole, fraction, exponent, hmarked, hspelled, hvalue⟩ := hwrites rest hrest
    refine ⟨⟨x.isNegative, whole, fraction, exponent⟩, ?_, hmarked, ?_⟩
    · rw [hs, List.append_assoc]
      exact spelled_signText x hspelled
    · have hpos := Double.significand_pos hzero
      refine Double.nearest_of_covers hfinite hpos ?_
      have hcovers := Double.covers_shortest hpos
      rwa [← hvalue x.isNegative] at hcovers

end Numeral

end Brokerage.Json
