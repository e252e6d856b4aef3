import Brokerage.Number.Shortest
import Mathlib.Algebra.Order.Field.Power
import Mathlib.Tactic.Linarith
import Mathlib.Tactic.NormNum
import Mathlib.Tactic.Positivity
import Mathlib.Tactic.Ring

/-!
The shortest decimal of a finite value rounds to that value. The rationals that round to a value
form an interval around it, which reaches half a unit in the last place to both sides, and half as
far below a power of two. The points of a decimal grid are no further apart than that interval is
wide once seventeen digits are taken, so one of the two points around the value lies in it.
-/

set_option autoImplicit false

namespace Brokerage

/-- The number that a decimal stands for. -/
def Decimal.value (d : Decimal) : ℚ :=
  d.digits * (10 : ℚ) ^ d.exponent

namespace Double

variable {x : Double}

/-! ### The parts of a value -/

theorem scale_pos (x : Double) : 0 < x.scale := by
  unfold scale
  omega

theorem scale_le (hfinite : x.isFinite = true) : x.scale ≤ 2046 := by
  have hfield : x.exponentField ≠ 2047 := by simpa [isFinite] using hfinite
  have hbound : x.exponentField < 2048 := Nat.mod_lt _ (by decide)
  unfold scale
  omega

theorem significand_lt (x : Double) : x.significand < 2 ^ 53 := by
  have hfraction : x.fraction < 2 ^ 52 := Nat.mod_lt _ (by decide)
  unfold significand
  simp only [Nat.pow_eq]
  split <;> omega

/-- Above the smallest scale a significand has all its bits. -/
theorem significand_ge (hscale : 1 < x.scale) : 2 ^ 52 ≤ x.significand := by
  unfold scale at hscale
  unfold significand
  rw [if_neg (by omega)]
  exact Nat.le_add_right _ _

theorem significand_pos (hzero : x.isZero = false) : 0 < x.significand := by
  have hparts : ¬ (x.exponentField = 0 ∧ x.fraction = 0) := by simpa [isZero] using hzero
  unfold significand
  simp only [Nat.pow_eq]
  split <;> omega

/-- The bits of a value: its sign, and its scale and significand added up. -/
theorem pattern_eq (x : Double) :
    signBit x.isNegative + ((x.scale - 1) * 2 ^ 52 + x.significand) = x.bits.toNat := by
  have hbits : x.bits.toNat < 2 ^ 64 := x.bits.toNat_lt
  unfold signBit isNegative scale significand exponentField fraction
  simp only [Nat.pow_eq, decide_eq_true_eq]
  split <;> split <;> omega

/-! ### The interval of a value -/

/-- How far the interval of a value reaches below it, where one unit in the last place is four. -/
def reachBelow (x : Double) : Nat :=
  if x.fraction = 0 && 1 < x.exponentField then 1 else 2

theorem reachBelow_cases (x : Double) : x.reachBelow = 1 ∨ x.reachBelow = 2 := by
  unfold reachBelow
  split
  next => exact .inl rfl
  next => exact .inr rfl

/-- Only a power of two above the smallest scale has its neighbour below nearer. -/
theorem reachBelow_eq (x : Double) :
    x.reachBelow = if x.significand = 2 ^ 52 ∧ 1 < x.scale then 1 else 2 := by
  have hfraction : x.fraction < 2 ^ 52 := Nat.mod_lt _ (by decide)
  unfold reachBelow significand scale
  simp only [Nat.pow_eq, Bool.and_eq_true, decide_eq_true_eq]
  grind

theorem readBackLow_add (hpos : 0 < x.significand) :
    x.readBackLow + x.reachBelow * 2 ^ x.scale = 4 * x.magnitude := by
  have hle : x.reachBelow ≤ 4 * x.significand := by
    rcases x.reachBelow_cases with hreach | hreach <;> omega
  have hlow : x.readBackLow = (4 * x.significand - x.reachBelow) * 2 ^ x.scale := rfl
  rw [hlow, ← Nat.add_mul, Nat.sub_add_cancel hle, magnitude, Nat.pow_eq, Nat.mul_assoc]

theorem readBackHigh_eq (x : Double) : x.readBackHigh = 4 * x.magnitude + 2 * 2 ^ x.scale := by
  rw [readBackHigh, magnitude, Nat.pow_eq, Nat.add_mul, Nat.mul_assoc]

theorem readBackLow_lt (hpos : 0 < x.significand) : x.readBackLow < 4 * x.magnitude := by
  have hlow := readBackLow_add hpos
  have hunit := Nat.two_pow_pos x.scale
  rcases x.reachBelow_cases with hreach | hreach <;> rw [hreach] at hlow <;> omega

theorem lt_readBackHigh (x : Double) : 4 * x.magnitude < x.readBackHigh := by
  have hunit := Nat.two_pow_pos x.scale
  rw [readBackHigh_eq]
  omega

theorem magnitudeUnit_pos : 0 < magnitudeUnit := by
  unfold magnitudeUnit
  generalize 1075 = n
  exact Nat.two_pow_pos n

/-- A rational rounds to a value apart from its sign. The ends of the interval belong to it if the
significand is even. -/
def Covers (x : Double) (q : ℚ) : Prop :=
  x.readBackLow ≤ 4 * (q * magnitudeUnit) ∧ 4 * (q * magnitudeUnit) ≤ x.readBackHigh ∧
    (x.significand % 2 = 1 →
      x.readBackLow < 4 * (q * magnitudeUnit) ∧ 4 * (q * magnitudeUnit) < x.readBackHigh)

theorem covers_div_iff {num den : Nat} (hden : 0 < den) :
    x.Covers (num / den) ↔
      x.readBackLow * den ≤ 4 * (num * magnitudeUnit) ∧
        4 * (num * magnitudeUnit) ≤ x.readBackHigh * den ∧
        (x.significand % 2 = 1 → x.readBackLow * den < 4 * (num * magnitudeUnit) ∧
          4 * (num * magnitudeUnit) < x.readBackHigh * den) := by
  have hdenQ : (0 : ℚ) < den := by exact_mod_cast hden
  unfold Covers
  generalize magnitudeUnit = unit
  have hvalue : 4 * ((num : ℚ) / den * unit) = 4 * (num * unit) / den := by ring
  rw [hvalue, le_div_iff₀ hdenQ, div_le_iff₀ hdenQ, lt_div_iff₀ hdenQ, div_lt_iff₀ hdenQ]
  norm_cast

/-! ### Rounding -/

theorem roundQuotient_eq {num den m : Nat} (hden : 0 < den) (hlow : 2 * (m * den) ≤ 2 * num + den)
    (hhigh : 2 * num ≤ 2 * (m * den) + den)
    (hodd : m % 2 = 1 → 2 * (m * den) < 2 * num + den ∧ 2 * num < 2 * (m * den) + den) :
    roundQuotient num den = m := by
  have hnum := Nat.div_add_mod num den
  have hremainder := Nat.mod_lt num hden
  have hquotient : num / den = m ∨ num / den + 1 = m := by
    have hle : num / den < m + 1 := (Nat.div_lt_iff_lt_mul hden).2 (by rw [Nat.succ_mul]; omega)
    have hge : m - 1 ≤ num / den := by
      refine (Nat.le_div_iff_mul_le hden).2 ?_
      rw [Nat.sub_mul]
      omega
    omega
  unfold roundQuotient
  rcases hquotient with rfl | rfl
  · rw [Nat.mul_comm] at hlow hhigh hodd
    grind
  · grind

theorem div_lt_two_pow_iff {num den k scale : Nat} (hden : 0 < den) :
    num / den < 2 ^ (k + scale) ↔ num < 2 ^ k * (den * 2 ^ scale) := by
  rw [Nat.div_lt_iff_lt_mul hden, Nat.pow_add, Nat.mul_assoc, Nat.mul_comm den]

theorem log2_div_lt {num den k scale : Nat} (hden : 0 < den) (hscale : 0 < scale)
    (h : num < 2 ^ k * (den * 2 ^ scale)) : Nat.log2 (num / den) < k + scale := by
  by_cases hzero : num / den = 0
  · rw [hzero, Nat.log2_zero]
    omega
  · exact (Nat.log2_lt hzero).2 ((div_lt_two_pow_iff hden).2 h)

theorem le_log2_div {num den k scale : Nat} (hden : 0 < den)
    (h : 2 ^ k * (den * 2 ^ scale) ≤ num) : k + scale ≤ Nat.log2 (num / den) := by
  have hle : 2 ^ (k + scale) ≤ num / den :=
    Nat.le_of_not_lt fun hlt ↦ Nat.not_lt_of_le h ((div_lt_two_pow_iff hden).1 hlt)
  exact (Nat.le_log2 (Nat.ne_of_gt (Nat.lt_of_lt_of_le (Nat.two_pow_pos _) hle))).2 hle

/-- A quotient in the interval of a value is given the scale of the value, unless it lies below a
power of two: there the scale is one less. -/
theorem scale_cases (num : Nat) {den : Nat} (hden : 0 < den)
    (hlow : 4 * (x.significand * (den * 2 ^ x.scale)) ≤
      4 * num + x.reachBelow * (den * 2 ^ x.scale))
    (hhigh : 4 * num ≤ 4 * (x.significand * (den * 2 ^ x.scale)) + 2 * (den * 2 ^ x.scale)) :
    max (Nat.log2 (num / den) - 52) 1 = x.scale ∨
      x.reachBelow = 1 ∧ num < 2 ^ 52 * (den * 2 ^ x.scale) ∧
        max (Nat.log2 (num / den) - 52) 1 + 1 = x.scale := by
  have hscale := scale_pos x
  have hunit : 0 < den * 2 ^ x.scale := Nat.mul_pos hden (Nat.two_pow_pos _)
  have hlog : Nat.log2 (num / den) < 53 + x.scale := by
    have hle : (x.significand + 1) * (den * 2 ^ x.scale) ≤ 2 ^ 53 * (den * 2 ^ x.scale) :=
      Nat.mul_le_mul_right _ (significand_lt x)
    rw [Nat.succ_mul] at hle
    exact log2_div_lt hden hscale (by omega)
  by_cases hfull : 2 ^ 52 * (den * 2 ^ x.scale) ≤ num
  · have hge := le_log2_div hden hfull
    omega
  by_cases hsmallest : x.scale = 1
  · omega
  have hbelow := Nat.lt_of_not_le hfull
  have hmin := significand_ge (x := x) (by omega)
  have hpower : x.significand = 2 ^ 52 := by
    by_contra hne
    have hreach : x.reachBelow = 2 := by rw [reachBelow_eq, if_neg (by omega)]
    have hle : (2 ^ 52 + 1) * (den * 2 ^ x.scale) ≤ x.significand * (den * 2 ^ x.scale) :=
      Nat.mul_le_mul_right _ (by omega)
    rw [hreach] at hlow
    omega
  have hreach : x.reachBelow = 1 := by rw [reachBelow_eq, if_pos (by omega)]
  rw [hpower, hreach] at hlow
  have hhalf : 2 ^ 51 * (den * 2 ^ x.scale) ≤ num := by omega
  have hge := le_log2_div hden hhalf
  have hlt := log2_div_lt hden hscale hbelow
  exact .inr ⟨hreach, hbelow, by omega⟩

theorem ofRatio_of_covers {num den : Nat} (hfinite : x.isFinite = true) (hpos : 0 < x.significand)
    (hden : 0 < den) (h : x.Covers (num / den)) : ofRatio x.isNegative num den = x := by
  obtain ⟨hlow, hhigh, hodd⟩ := (covers_div_iff hden).1 h
  have hscale := scale_le hfinite
  have hlt := significand_lt x
  -- both ends are multiples of a quarter of the unit in the last place
  have hlowEnd : x.readBackLow * den + x.reachBelow * (den * 2 ^ x.scale) =
      4 * (x.significand * (den * 2 ^ x.scale)) := by
    have hlowEnd := congrArg (· * den) (readBackLow_add hpos)
    simp only [magnitude, Nat.pow_eq] at hlowEnd
    linarith
  have hhighEnd : x.readBackHigh * den =
      4 * (x.significand * (den * 2 ^ x.scale)) + 2 * (den * 2 ^ x.scale) := by
    rw [readBackHigh_eq, magnitude, Nat.pow_eq]
    ring
  rw [hhighEnd] at hhigh hodd
  have hcases := scale_cases (num * magnitudeUnit) hden (by omega) hhigh
  unfold ofRatio
  simp only [Nat.pow_eq]
  generalize num * magnitudeUnit = scaled at hlow hhigh hodd hcases ⊢
  generalize max (Nat.log2 (scaled / den) - 52) 1 = exponent at hcases ⊢
  have hunit : 0 < den * 2 ^ x.scale := Nat.mul_pos hden (Nat.two_pow_pos _)
  have hpattern : (exponent - 1) * 2 ^ 52 + roundQuotient scaled (den * 2 ^ exponent) =
      (x.scale - 1) * 2 ^ 52 + x.significand := by
    rcases hcases with rfl | ⟨hnear, hbelow, hexponent⟩
    · have hspan : x.reachBelow * (den * 2 ^ x.scale) ≤ 2 * (den * 2 ^ x.scale) :=
        Nat.mul_le_mul_right _ (by rcases x.reachBelow_cases with hreach | hreach <;> omega)
      have hround : roundQuotient scaled (den * 2 ^ x.scale) = x.significand :=
        roundQuotient_eq hunit (by omega) (by omega) fun hone ↦ by
          have hstrict := hodd hone
          omega
      rw [hround]
    · -- the finer units below a power of two: the nearest multiple is that power, and it carries
      have hpower : x.significand = 2 ^ 52 ∧ 1 < x.scale := by
        rw [reachBelow_eq] at hnear
        split at hnear
        next hpower => exact hpower
        next => cases hnear
      have hfiner : den * 2 ^ x.scale = 2 * (den * 2 ^ exponent) := by
        rw [← hexponent, Nat.pow_succ]
        ring
      rw [hfiner] at hbelow hlowEnd hunit
      rw [hnear, hpower.1] at hlowEnd
      have hround : roundQuotient scaled (den * 2 ^ exponent) = 2 ^ 53 :=
        roundQuotient_eq (by omega) (by omega) (by omega) (absurd · (by decide))
      have hprevious : x.scale - 1 = exponent - 1 + 1 := by omega
      rw [hround, hpower.1, hprevious]
      ring
  have hfits : (x.scale - 1) * 2 ^ 52 + x.significand ≤ infinityBits := by
    simp only [infinityBits, Nat.pow_eq]
    omega
  rw [hpattern, Nat.min_eq_left hfits, pattern_eq, UInt64.ofNat_toNat]

/-! ### Decimal digits -/

theorem tenPow_eq (e : Int) : (10 : ℚ) ^ e = (10 ^ e.toNat : Nat) / (10 ^ (-e).toNat : Nat) := by
  cases e with
  | ofNat up => simp
  | negSucc down => simp [Int.neg_negSucc, zpow_negSucc]

theorem readsBack_iff {point : Nat} {e : Int} :
    x.readsBack point e = true ↔ x.Covers (point * (10 : ℚ) ^ e) := by
  have hden : 0 < 10 ^ (-e).toNat := Nat.pow_pos (by decide)
  rw [tenPow_eq, ← mul_div_assoc, ← Nat.cast_mul, covers_div_iff hden]
  unfold readsBack
  generalize magnitudeUnit = unit
  have hnum : point * 10 ^ e.toNat * (4 * unit) = 4 * (point * 10 ^ e.toNat * unit) := by ring
  simp only [Nat.pow_eq, hnum]
  split
  next heven => simp [heven]
  next hodd =>
    simp only [Bool.and_eq_true, decide_eq_true_eq]
    grind

theorem digitCount_pos (n : Nat) : 0 < digitCount n :=
  Nat.length_toDigits_pos

theorem lt_pow_digitCount (n : Nat) : n < 10 ^ digitCount n :=
  (Nat.length_toDigits_le_iff (by decide) (digitCount_pos n)).1 (Nat.le_refl _)

theorem pow_digitCount_le {n : Nat} (h : 0 < n) : 10 ^ (digitCount n - 1) ≤ n := by
  by_cases hone : digitCount n = 1
  · rw [hone]
    exact h
  · have hcount := digitCount_pos n
    by_contra hlt
    have hle : digitCount n ≤ digitCount n - 1 :=
      (Nat.length_toDigits_le_iff (by decide) (by omega)).2 (Nat.lt_of_not_le hlt)
    omega

theorem tenPow_leadingExponent_le {num den : Nat} (hnum : 0 < num) (hden : 0 < den) :
    (10 : ℚ) ^ leadingExponent num den ≤ num / den := by
  have hdenQ : (0 : ℚ) < den := by exact_mod_cast hden
  rw [le_div_iff₀ hdenQ]
  unfold leadingExponent
  split
  next hle =>
    have hcount := digitCount_pos (num / den)
    have hexponent : (digitCount (num / den) : Int) - 1 = (digitCount (num / den) - 1 : Nat) := by
      omega
    have hmul := (Nat.le_div_iff_mul_le hden).1 (pow_digitCount_le (Nat.div_pos hle hden))
    rw [hexponent, zpow_natCast]
    exact_mod_cast hmul
  next hlt =>
    have hcount := digitCount_pos (den / num)
    simp only [Nat.pow_eq]
    split
    next hle =>
      have hexponent : -((digitCount (den / num) : Int) - 1) =
          -((digitCount (den / num) - 1 : Nat) : Int) := by omega
      rw [hexponent, zpow_neg, zpow_natCast, inv_mul_le_iff₀ (by positivity), mul_comm]
      exact_mod_cast hle
    next =>
      have hle : den ≤ num * 10 ^ digitCount (den / num) := by
        rw [Nat.mul_comm]
        exact Nat.le_of_lt ((Nat.div_lt_iff_lt_mul hnum).1 (lt_pow_digitCount _))
      rw [zpow_neg, zpow_natCast, inv_mul_le_iff₀ (by positivity), mul_comm]
      exact_mod_cast hle

/-! ### Grids -/

/-- The last point of a grid that is not above a value. -/
def pointBelow (x : Double) (e : Int) : Nat :=
  x.magnitude * 10 ^ (-e).toNat / (magnitudeUnit * 10 ^ e.toNat)

theorem pointBelow_le (x : Double) (e : Int) :
    x.pointBelow e * (10 : ℚ) ^ e * magnitudeUnit ≤ x.magnitude := by
  have hunit := magnitudeUnit_pos
  have hle := Nat.div_mul_le_self (x.magnitude * 10 ^ (-e).toNat) (magnitudeUnit * 10 ^ e.toNat)
  rw [tenPow_eq, ← mul_div_assoc, div_mul_eq_mul_div, div_le_iff₀ (by positivity)]
  unfold pointBelow
  generalize magnitudeUnit = unit at hunit hle ⊢
  calc _ = (((x.magnitude * 10 ^ (-e).toNat / (unit * 10 ^ e.toNat)) *
        (unit * 10 ^ e.toNat) : Nat) : ℚ) := by push_cast; ring
    _ ≤ _ := by exact_mod_cast hle

theorem lt_pointAbove (x : Double) (e : Int) :
    x.magnitude < (x.pointBelow e + 1 : Nat) * (10 : ℚ) ^ e * magnitudeUnit := by
  have hunit := magnitudeUnit_pos
  have hlt := Nat.lt_mul_div_succ (x.magnitude * 10 ^ (-e).toNat)
    (b := magnitudeUnit * 10 ^ e.toNat) (by positivity)
  rw [tenPow_eq, ← mul_div_assoc, div_mul_eq_mul_div, lt_div_iff₀ (by positivity)]
  unfold pointBelow
  generalize magnitudeUnit = unit at hunit hlt ⊢
  calc _ = ((x.magnitude * 10 ^ (-e).toNat : Nat) : ℚ) := by push_cast; ring
    _ < ((unit * 10 ^ e.toNat * (x.magnitude * 10 ^ (-e).toNat / (unit * 10 ^ e.toNat) + 1)
      : Nat) : ℚ) := by exact_mod_cast hlt
    _ = _ := by push_cast; ring

/-- A grid gives a point that rounds to the value if one of the two around the value does. -/
theorem onGrid?_cases (x : Double) (e : Int) :
    (∃ d, x.onGrid? e = some d ∧ x.Covers d.value) ∨
      x.onGrid? e = none ∧ ¬ x.Covers (x.pointBelow e * (10 : ℚ) ^ e) ∧
        ¬ x.Covers ((x.pointBelow e + 1 : Nat) * (10 : ℚ) ^ e) := by
  rw [← readsBack_iff, ← readsBack_iff]
  have hpoint : x.magnitude * Nat.pow 10 (-e).toNat / (magnitudeUnit * Nat.pow 10 e.toNat) =
    x.pointBelow e := rfl
  unfold onGrid?
  simp only [hpoint]
  cases hbelow : x.readsBack (x.pointBelow e) e with
  | true =>
    cases habove : x.readsBack (x.pointBelow e + 1) e with
    | true =>
      simp only
      split
      next => exact .inl ⟨_, rfl, readsBack_iff.1 hbelow⟩
      next => exact .inl ⟨_, rfl, readsBack_iff.1 habove⟩
    | false => exact .inl ⟨_, rfl, readsBack_iff.1 hbelow⟩
  | false =>
    cases habove : x.readsBack (x.pointBelow e + 1) e with
    | true => exact .inl ⟨_, rfl, readsBack_iff.1 habove⟩
    | false => exact .inr ⟨rfl, by simp⟩

/-- The points of a grid that gives none are as far apart as the interval of the value is wide. -/
theorem wide_of_onGrid?_eq_none {e : Int} (hpos : 0 < x.significand) (h : x.onGrid? e = none) :
    (x.readBackHigh : ℚ) ≤ x.readBackLow + 4 * ((10 : ℚ) ^ e * magnitudeUnit) := by
  rcases x.onGrid?_cases e with ⟨d, hd, -⟩ | ⟨-, hbelow, habove⟩
  · cases h.symm.trans hd
  have hlow : (x.readBackLow : ℚ) < 4 * x.magnitude := by exact_mod_cast readBackLow_lt hpos
  have hhigh : 4 * (x.magnitude : ℚ) < x.readBackHigh := by exact_mod_cast x.lt_readBackHigh
  have hpointBelow := x.pointBelow_le e
  have hpointAbove := x.lt_pointAbove e
  have hbelow : 4 * (x.pointBelow e * (10 : ℚ) ^ e * magnitudeUnit) ≤ x.readBackLow := by
    by_contra hinside
    have hinside := lt_of_not_ge hinside
    exact hbelow ⟨hinside.le, by linarith, fun _ ↦ ⟨hinside, by linarith⟩⟩
  have habove : (x.readBackHigh : ℚ) ≤
      4 * ((x.pointBelow e + 1 : Nat) * (10 : ℚ) ^ e * magnitudeUnit) := by
    by_contra hinside
    have hinside := lt_of_not_ge hinside
    exact habove ⟨by linarith, hinside.le, fun _ ↦ ⟨by linarith, hinside⟩⟩
  push_cast at habove
  linarith

/-- Seventeen digits are enough: a significand of 53 bits is less than the sixteenth power of
ten. -/
theorem exists_onGrid? (hpos : 0 < x.significand) :
    ∃ d, x.onGrid? (leadingExponent x.magnitude magnitudeUnit - 16) = some d := by
  rw [← Option.ne_none_iff_exists']
  intro hnone
  have hwide := wide_of_onGrid?_eq_none hpos hnone
  have hunit : (0 : ℚ) < magnitudeUnit := by exact_mod_cast magnitudeUnit_pos
  have hmagnitude : 0 < x.magnitude := Nat.mul_pos hpos (Nat.two_pow_pos _)
  have hlead := tenPow_leadingExponent_le hmagnitude magnitudeUnit_pos
  have hstep : (10 : ℚ) ^ leadingExponent x.magnitude magnitudeUnit =
      10 ^ (leadingExponent x.magnitude magnitudeUnit - 16) * 10 ^ 16 := by
    rw [← zpow_natCast, ← zpow_add₀ (by norm_num)]
    norm_num
  rw [le_div_iff₀ hunit, hstep] at hlead
  have hnear : (x.readBackHigh : ℚ) * 10 ^ 16 ≤ x.readBackLow * 10 ^ 16 + 4 * x.magnitude := by
    linarith
  have hnear : x.readBackHigh * 10 ^ 16 ≤ x.readBackLow * 10 ^ 16 + 4 * x.magnitude := by
    exact_mod_cast hnear
  have hlow := readBackLow_add hpos
  rw [readBackHigh_eq, magnitude, Nat.pow_eq] at hnear
  rw [magnitude, Nat.pow_eq] at hlow
  have hspan : (2 + x.reachBelow) * 10 ^ 16 * 2 ^ x.scale ≤ 4 * x.significand * 2 ^ x.scale := by
    linarith
  have hspan := Nat.le_of_mul_le_mul_right hspan (Nat.two_pow_pos _)
  have hlt := significand_lt x
  have hreach := reachBelow_eq x
  split at hreach
  next hpower => omega
  next => omega

/-! ### Sizes -/

theorem two_pow_le {n k : Nat} (h : n ≤ 3 * k) : 2 ^ n ≤ 10 ^ k :=
  calc 2 ^ n ≤ 2 ^ (3 * k) := Nat.pow_le_pow_right (by decide) h
    _ = (2 ^ 3) ^ k := Nat.pow_mul ..
    _ ≤ 10 ^ k := Nat.pow_le_pow_left (by decide) k

theorem magnitudeUnit_le {k : Nat} (hk : 1075 ≤ 3 * k) : magnitudeUnit ≤ 10 ^ k := by
  unfold magnitudeUnit
  generalize 1075 = n at hk ⊢
  exact two_pow_le hk

theorem readBackLow_ge (hpos : 0 < x.significand) : 4 ≤ x.readBackLow := by
  have hlow := readBackLow_add hpos
  have hscale : 2 ^ 1 ≤ 2 ^ x.scale := Nat.pow_le_pow_right (by decide) (scale_pos x)
  have hunit : 2 ^ x.scale ≤ x.magnitude := Nat.le_mul_of_pos_left _ hpos
  rcases x.reachBelow_cases with hreach | hreach <;> rw [hreach] at hlow <;> omega

theorem readBackHigh_le {k : Nat} (hk : 1024 ≤ 3 * k) (hfinite : x.isFinite = true) :
    x.readBackHigh ≤ 4 * (10 ^ k * magnitudeUnit) := by
  have hlt := significand_lt x
  have hscale := scale_le hfinite
  have hsize : x.readBackHigh ≤ 4 * 2 ^ (53 + x.scale) := by
    rw [readBackHigh, Nat.pow_eq, Nat.pow_add, ← Nat.mul_assoc]
    exact Nat.mul_le_mul_right _ (by omega)
  have hunit : 2 ^ (53 + x.scale) ≤ 10 ^ k * magnitudeUnit := by
    unfold magnitudeUnit
    generalize hn : 1075 = n
    calc 2 ^ (53 + x.scale) ≤ 2 ^ (3 * k + n) := Nat.pow_le_pow_right (by decide) (by omega)
      _ = 2 ^ (3 * k) * 2 ^ n := Nat.pow_add ..
      _ ≤ 10 ^ k * 2 ^ n := Nat.mul_le_mul_right _ (two_pow_le (Nat.le_refl _))
  omega

theorem Covers.ge {q : ℚ} {k : Nat} (hk : 1075 ≤ 3 * k) (hpos : 0 < x.significand)
    (h : x.Covers q) : (10 : ℚ) ^ (-k : Int) ≤ q := by
  have hlow : (4 : ℚ) ≤ x.readBackLow := by exact_mod_cast readBackLow_ge hpos
  have hunit : (magnitudeUnit : ℚ) ≤ 10 ^ k := by exact_mod_cast magnitudeUnit_le hk
  have hunit' : (0 : ℚ) < magnitudeUnit := by exact_mod_cast magnitudeUnit_pos
  have hscaled : 1 ≤ q * magnitudeUnit := by linarith [h.1]
  have hq : 0 ≤ q := by
    by_contra hneg
    linarith [mul_neg_of_neg_of_pos (lt_of_not_ge hneg) hunit']
  rw [zpow_neg, zpow_natCast, inv_le_iff_one_le_mul₀ (by positivity)]
  exact hscaled.trans (mul_le_mul_of_nonneg_left hunit hq)

theorem Covers.le {q : ℚ} {k : Nat} (hk : 1024 ≤ 3 * k) (hfinite : x.isFinite = true)
    (h : x.Covers q) : q ≤ (10 : ℚ) ^ (k : Int) := by
  have hhigh : (x.readBackHigh : ℚ) ≤ 4 * (10 ^ k * magnitudeUnit) := by
    exact_mod_cast readBackHigh_le hk hfinite
  have hunit : (0 : ℚ) < magnitudeUnit := by exact_mod_cast magnitudeUnit_pos
  have hscaled : q * magnitudeUnit ≤ 10 ^ k * magnitudeUnit := by linarith [h.2.1]
  rw [zpow_natCast]
  exact le_of_mul_le_mul_right hscaled hunit

theorem Covers.pos {c : Nat} {e : Int} (hpos : 0 < x.significand)
    (h : x.Covers (c * (10 : ℚ) ^ e)) : 0 < c := by
  rw [Nat.pos_iff_ne_zero]
  rintro rfl
  have hge := h.ge (k := 1075) (by decide) hpos
  rw [Nat.cast_zero, zero_mul] at hge
  exact absurd hge (not_le_of_gt (zpow_pos (by norm_num) _))

/-- The first digit of a decimal in the interval of a value is within reach of the point. -/
theorem Covers.leadingDigit {c : Nat} {e : Int} (hfinite : x.isFinite = true)
    (hpos : 0 < x.significand) (h : x.Covers (c * (10 : ℚ) ^ e)) :
    -decimalReach ≤ digitCount c + e ∧ digitCount c + e ≤ decimalReach := by
  have hcount := digitCount_pos c
  have hten : (0 : ℚ) < 10 ^ e := zpow_pos (by norm_num) e
  have hlow := h.ge (k := 400) (by decide) hpos
  have hhigh := h.le (k := 399) (by decide) hfinite
  have hlt : (c : ℚ) * 10 ^ e < 10 ^ (digitCount c + e) := by
    rw [zpow_add₀ (by norm_num), zpow_natCast]
    exact mul_lt_mul_of_pos_right (by exact_mod_cast lt_pow_digitCount c) hten
  have hge : (10 : ℚ) ^ (((digitCount c - 1 : Nat) : Int) + e) ≤ c * 10 ^ e := by
    rw [zpow_add₀ (by norm_num), zpow_natCast]
    exact mul_le_mul_of_nonneg_right (by exact_mod_cast pow_digitCount_le (h.pos hpos)) hten.le
  have hlead := (zpow_lt_zpow_iff_right₀ (by norm_num)).1 (hlow.trans_lt hlt)
  have hlead' := (zpow_le_zpow_iff_right₀ (by norm_num)).1 (hge.trans hhigh)
  unfold decimalReach
  omega

/-! ### The shortest decimal -/

/-- A decimal in the interval of a value is nearest to that value. -/
theorem nearest_of_covers {c : Nat} {e : Int} (hfinite : x.isFinite = true)
    (hpos : 0 < x.significand) (h : x.Covers (c * (10 : ℚ) ^ e)) :
    nearest x.isNegative c e = x := by
  obtain ⟨hlow, hhigh⟩ := h.leadingDigit hfinite hpos
  have hc := h.pos hpos
  unfold digitCount at hlow hhigh
  unfold nearest
  simp only
  rw [if_neg (by simp; omega), if_neg (by omega)]
  cases e with
  | ofNat up =>
    refine ofRatio_of_covers hfinite hpos (by decide) ?_
    simpa using h
  | negSucc down =>
    refine ofRatio_of_covers hfinite hpos (Nat.pow_pos (by decide)) ?_
    rw [zpow_negSucc] at h
    simpa [div_eq_mul_inv] using h

theorem nearest_zero (hzero : x.isZero = true) (e : Int) : nearest x.isNegative 0 e = x := by
  have hparts : x.exponentField = 0 ∧ x.fraction = 0 := by simpa [isZero] using hzero
  have hpattern := pattern_eq x
  have hscale : x.scale = 1 := by rw [scale, hparts.1]; rfl
  have hsignificand : x.significand = 0 := by rw [significand, if_pos hparts.1, hparts.2]
  rw [hscale, hsignificand] at hpattern
  have hratio : ofRatio x.isNegative 0 1 =
      ⟨UInt64.ofNat (signBit x.isNegative + ((1 - 1) * 2 ^ 52 + 0))⟩ := by
    unfold ofRatio
    simp only [Nat.zero_mul, Nat.zero_div]
    rfl
  unfold nearest
  simp only [decide_true, Bool.true_or, if_true]
  rw [hratio, hpattern, UInt64.ofNat_toNat]

theorem value_shortened {d : Decimal} (h : d.digits % 10 = 0) :
    (⟨d.digits / 10, d.exponent + 1⟩ : Decimal).value = d.value := by
  have hdigits : (d.digits : ℚ) = 10 * (d.digits / 10 : Nat) := by
    exact_mod_cast (Nat.mul_div_cancel' (Nat.dvd_of_mod_eq_zero h)).symm
  rw [Decimal.value, Decimal.value, hdigits, zpow_add_one₀ (by norm_num)]
  ring

/-- The shortest decimal of a value rounds to it. -/
theorem covers_shortest (hpos : 0 < x.significand) : x.Covers x.shortest.value := by
  obtain ⟨d, hd⟩ := exists_onGrid? hpos
  unfold shortest
  simp only
  generalize hgrids : (List.range 17).map
    (fun extra : Nat ↦ leadingExponent x.magnitude magnitudeUnit - extra) = grids
  have hlast : leadingExponent x.magnitude magnitudeUnit - 16 ∈ grids := by
    rw [← hgrids]
    exact List.mem_map.2 ⟨16, by decide, rfl⟩
  have hsome : (grids.findSome? x.onGrid?).isSome := by
    rw [List.findSome?_isSome_iff]
    exact ⟨_, hlast, by rw [hd]; rfl⟩
  obtain ⟨found, hfound⟩ := Option.isSome_iff_exists.1 hsome
  obtain ⟨e, -, hgiven⟩ := List.exists_of_findSome?_eq_some hfound
  have hcovers : x.Covers found.value := by
    rcases x.onGrid?_cases e with ⟨d, hd, hcovers⟩ | ⟨hnone, -⟩
    · cases hd.symm.trans hgiven
      exact hcovers
    · cases hnone.symm.trans hgiven
  rw [hfound, Option.getD_some]
  split
  next hzero =>
    rw [value_shortened hzero]
    exact hcovers
  next => exact hcovers

end Double

end Brokerage
