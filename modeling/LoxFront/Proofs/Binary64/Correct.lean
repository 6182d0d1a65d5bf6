import LoxFront.Proofs.Binary64.Nearest

/-! # Correct rounding

What IEEE 754 asks of a number that an exact ratio is rounded to (`RoundsTo`), said of exact values
and without the way in which it is found.  There is never more than one such number, and larger
ratios never give smaller ones (`RoundsTo.unique`, `RoundsTo.mono`); the number that a ratio of two
natural numbers is read as is one (`roundsTo_ofRatio`).
-/

namespace LoxFront.Binary64

/-! ## The specification -/

/-- The exact value of a finite number. -/
def value (x : Binary64) : ℚ :=
  (if x.negative then -1 else 1) * (units x.magnitude / 2 ^ scale)

/-- Rounding of a ratio that is not negative, to nearest and with ties to even.  What lies in the
    middle between the largest finite number and the power of two above it, or beyond, is rounded
    to infinity, and all else to a finite number of which no other is nearer; if another one is as
    near, the last bit is clear. -/
structure RoundsTo (ratio : ℚ) (x : Binary64) : Prop where
  unsigned : x.negative = false
  number : x.isNaN = false
  infinite_iff : x.isFinite = false ↔ 2 ^ 1024 - 2 ^ 970 ≤ ratio
  nearest : x.isFinite = true → ∀ y : Binary64, y.isFinite = true →
    |x.value - ratio| ≤ |y.value - ratio|
  even : x.isFinite = true → ∀ y : Binary64, y.isFinite = true → y.value ≠ x.value →
    |y.value - ratio| = |x.value - ratio| → x.toBits % 2 = 0

/-! ## Classes and values -/

theorem magnitude_eq_infinity {x : Binary64} (number : x.isNaN = false)
    (infinite : x.isFinite = false) : x.magnitude = infinity := by
  rw [isNaN, decide_eq_false_iff_not] at number
  rw [isFinite, decide_eq_false_iff_not] at infinite
  omega

theorem toBits_eq_magnitude {x : Binary64} (unsigned : x.negative = false) :
    x.toBits = x.magnitude := by
  rw [toBits, unsigned]
  exact Nat.zero_add _

/-- The number without a sign that has a magnitude. -/
def ofMagnitude {magnitude : Nat} (inRange : magnitude < infinity) : Binary64 :=
  ⟨false, magnitude, inRange.trans (by decide)⟩

section Distance

variable {x : Binary64} {ratio : ℚ}

theorem value_eq (unsigned : x.negative = false) : x.value = units x.magnitude / 2 ^ scale := by
  rw [value, unsigned, if_neg Bool.false_ne_true, one_mul]

theorem abs_value_sub (unsigned : x.negative = false) :
    |x.value - ratio| * 2 ^ scale = |(units x.magnitude : ℚ) - ratio * 2 ^ scale| := by
  have power : (0 : ℚ) < 2 ^ scale := by positivity
  have scaled : (units x.magnitude : ℚ) - ratio * 2 ^ scale = (x.value - ratio) * 2 ^ scale := by
    rw [value_eq unsigned]
    field_simp
  rw [scaled, abs_mul, abs_of_pos power]

theorem abs_value_sub_of_negative (negative : x.negative = true) (nonneg : 0 ≤ ratio) :
    |x.value - ratio| * 2 ^ scale = units x.magnitude + ratio * 2 ^ scale := by
  have power : (0 : ℚ) < 2 ^ scale := by positivity
  have opposite : x.value - ratio = -(units x.magnitude / 2 ^ scale + ratio) := by
    rw [value, negative, if_pos rfl]
    ring
  have sum : 0 ≤ units x.magnitude / 2 ^ scale + ratio :=
    add_nonneg (div_nonneg (Nat.cast_nonneg _) power.le) nonneg
  rw [opposite, abs_neg, abs_of_nonneg sum, add_mul, div_mul_cancel₀ _ power.ne']

/-- A number on the other side of zero is not nearer. -/
theorem abs_le_abs_value_sub (nonneg : 0 ≤ ratio) :
    |(units x.magnitude : ℚ) - ratio * 2 ^ scale| ≤ |x.value - ratio| * 2 ^ scale := by
  cases sign : x.negative with
  | false => rw [abs_value_sub sign]
  | true =>
    have scaled : 0 ≤ ratio * 2 ^ scale := mul_nonneg nonneg (by positivity)
    have whole : (0 : ℚ) ≤ units x.magnitude := Nat.cast_nonneg _
    rw [abs_value_sub_of_negative sign nonneg]
    exact abs_le.2 ⟨by linarith, by linarith⟩

/-- A number on the other side of zero is as near as zero only if it is zero. -/
theorem value_eq_of_abs_le (nonneg : 0 ≤ ratio)
    (near : |x.value - ratio| * 2 ^ scale ≤ |(units 0 : ℚ) - ratio * 2 ^ scale|) :
    x.value = units x.magnitude / 2 ^ scale := by
  cases sign : x.negative with
  | false => exact value_eq sign
  | true =>
    have scaled : 0 ≤ ratio * 2 ^ scale := mul_nonneg nonneg (by positivity)
    have zero : (units 0 : ℚ) = 0 := rfl
    rw [abs_value_sub_of_negative sign nonneg, zero, zero_sub, abs_neg,
      abs_of_nonneg scaled] at near
    have none : (units x.magnitude : ℚ) = 0 :=
      le_antisymm (by linarith) (Nat.cast_nonneg _)
    rw [value, none, zero_div, mul_zero]

end Distance

/-! ## The largest finite number -/

/-- The largest magnitude that is finite. -/
def largest : Nat :=
  infinity - 1

theorem infinity_eq : infinity = largest + 1 := rfl

theorem overflow_eq : (2 : ℚ) ^ 1024 - 2 ^ 970 = 2 ^ 970 * (2 ^ 54 - 1) := by
  have split : (2 : ℚ) ^ 1024 = 2 ^ 970 * 2 ^ 54 := pow_add 2 970 54
  rw [split, mul_sub_one]

/-- The middle between the largest finite number and what would come next. -/
theorem middle_largest :
    (units largest + units (largest + 1) : ℚ) = 2 * ((2 ^ 1024 - 2 ^ 970) * 2 ^ scale) := by
  obtain ⟨shift, shift_eq⟩ : ∃ shift, shift = 2045 := ⟨_, rfl⟩
  have layout : largest = (2 ^ 53 - 1) + shift * Nat.pow 2 52 := by
    rw [shift_eq]
    decide
  have layout' : largest + 1 = 2 ^ 52 + (shift + 1) * Nat.pow 2 52 := by
    rw [shift_eq]
    decide
  have top : units largest = (2 ^ 53 - 1) * 2 ^ shift := by
    rw [layout]
    exact units_add_shift (.inr (by norm_num)) (by norm_num)
  have next : units (largest + 1) = 2 ^ 52 * 2 ^ (shift + 1) := by
    rw [layout']
    exact units_add_shift (.inr le_rfl) (by norm_num)
  have exponent : shift = 1 + 970 + scale := by rw [shift_eq, scale]
  have power : (2 : ℚ) ^ shift = 2 ^ 1 * 2 ^ 970 * 2 ^ scale := by
    rw [exponent, pow_add, pow_add]
  rw [top, next, overflow_eq]
  push_cast
  rw [pow_succ (2 : ℚ) shift, power]
  generalize (2 : ℚ) ^ 970 = gap
  generalize (2 : ℚ) ^ scale = unit
  ring

/-! ## What the specification says -/

namespace RoundsTo

variable {ratio ratio' : ℚ} {x y : Binary64}

/-- Below the bound of infinity, the nearest of the finite magnitudes is the nearest of all. -/
theorem nearest_magnitude (rounds : RoundsTo ratio x) (finite : x.isFinite = true) :
    Nearest (ratio * 2 ^ scale) x.magnitude := by
  have power : (0 : ℚ) < 2 ^ scale := by positivity
  have below : ratio < 2 ^ 1024 - 2 ^ 970 := by
    refine lt_of_not_ge ?_
    rw [← rounds.infinite_iff, finite]
    exact Bool.true_eq_false.mp
  have middle : 2 * (ratio * 2 ^ scale) < units largest + units (largest + 1) := by
    rw [middle_largest]
    exact mul_lt_mul_of_pos_left (mul_lt_mul_of_pos_right below power) two_pos
  have closest : ∀ {k : Nat}, k < infinity →
      |(units x.magnitude : ℚ) - ratio * 2 ^ scale| ≤ |(units k : ℚ) - ratio * 2 ^ scale| := by
    intro k inRange
    have nearer := rounds.nearest finite (ofMagnitude inRange) (isFinite_iff.2 inRange)
    have scaled := mul_le_mul_of_nonneg_right nearer power.le
    rwa [abs_value_sub rounds.unsigned, abs_value_sub rfl] at scaled
  -- What is not finite is farther away than the largest finite number.
  have farther : ∀ {k : Nat}, infinity ≤ k →
      |(units x.magnitude : ℚ) - ratio * 2 ^ scale| < |(units k : ℚ) - ratio * 2 ^ scale| := by
    intro k beyond
    have above : (units (largest + 1) : ℚ) ≤ units k := by
      exact_mod_cast units_strictMono.monotone beyond
    have less : (units largest : ℚ) < units k := by
      exact_mod_cast units_strictMono (Nat.lt_of_succ_le beyond)
    refine (closest (Nat.lt_succ_self largest)).trans_lt (lt_of_not_ge ?_)
    rw [abs_sub_le_abs_sub_iff' less]
    linarith
  constructor
  · intro k
    obtain inRange | beyond := Nat.lt_or_ge k infinity
    · exact closest inRange
    · exact (farther beyond).le
  · intro k other tie
    obtain inRange | beyond := Nat.lt_or_ge k infinity
    · have apart : (ofMagnitude inRange).value ≠ x.value := by
        rw [value_eq rounds.unsigned, value_eq rfl]
        intro same
        have units_eq := (div_left_inj' power.ne').1 same
        exact other (units_strictMono.injective (by exact_mod_cast units_eq))
      have near : |(ofMagnitude inRange).value - ratio| = |x.value - ratio| := by
        refine mul_right_cancel₀ power.ne' ?_
        rw [abs_value_sub rfl, abs_value_sub rounds.unsigned]
        exact tie
      rw [← toBits_eq_magnitude rounds.unsigned]
      exact rounds.even finite _ (isFinite_iff.2 inRange) apart near
    · exact absurd tie (farther beyond).ne'

/-- A larger ratio is not rounded to a smaller number. -/
theorem mono (rounds : RoundsTo ratio x) (rounds' : RoundsTo ratio' y) (le : ratio ≤ ratio') :
    x.magnitude ≤ y.magnitude := by
  cases finite : x.isFinite with
  | false =>
    have beyond := rounds'.infinite_iff.2 ((rounds.infinite_iff.1 finite).trans le)
    rw [magnitude_eq_infinity rounds.number finite, magnitude_eq_infinity rounds'.number beyond]
  | true =>
    cases finite' : y.isFinite with
    | false =>
      rw [magnitude_eq_infinity rounds'.number finite']
      exact (isFinite_iff.1 finite).le
    | true =>
      have scaled : ratio * 2 ^ scale ≤ ratio' * 2 ^ scale :=
        mul_le_mul_of_nonneg_right le (by positivity)
      exact (rounds.nearest_magnitude finite).mono (rounds'.nearest_magnitude finite') scaled

/-- A ratio is rounded to one number only. -/
theorem unique (rounds : RoundsTo ratio x) (rounds' : RoundsTo ratio y) : x = y := by
  have magnitude := le_antisymm (rounds.mono rounds' le_rfl) (rounds'.mono rounds le_rfl)
  have negative := rounds.unsigned.trans rounds'.unsigned.symm
  obtain ⟨_, _, _⟩ := x
  obtain ⟨_, _, _⟩ := y
  subst magnitude negative
  rfl

theorem toBits_eq_infinity_iff (rounds : RoundsTo ratio x) :
    x.toBits = infinity ↔ 2 ^ 1024 - 2 ^ 970 ≤ ratio := by
  rw [toBits_eq_magnitude rounds.unsigned, ← rounds.infinite_iff, ← Bool.not_eq_true, isFinite_iff]
  have number := rounds.number
  rw [isNaN, decide_eq_false_iff_not] at number
  omega

/-- Up to the half of the smallest number, a ratio is rounded to zero. -/
theorem toBits_eq_zero_iff (rounds : RoundsTo ratio x) : x.toBits = 0 ↔ ratio ≤ 1 / 2 ^ 1075 := by
  have exponent : 1075 = scale + 1 := rfl
  have half_lt : 1 / 2 ^ 1075 < ratio ↔ 1 < 2 * (ratio * 2 ^ scale) := by
    rw [exponent, pow_succ', div_lt_iff₀ (by positivity), mul_left_comm]
  rw [toBits_eq_magnitude rounds.unsigned, ← not_iff_not, not_le, half_lt]
  cases finite : x.isFinite with
  | false =>
    have beyond := rounds.infinite_iff.1 finite
    have large : 1 < 2 * (ratio * 2 ^ scale) := by
      have gap : (1 : ℚ) ≤ 2 ^ 970 := one_le_pow₀ one_le_two
      have unit : (1 : ℚ) ≤ 2 ^ scale := one_le_pow₀ one_le_two
      have one_le : 1 ≤ ratio := by
        calc (1 : ℚ) ≤ 2 ^ 970 * (2 ^ 54 - 1) := one_le_mul_of_one_le_of_one_le gap (by norm_num)
          _ = 2 ^ 1024 - 2 ^ 970 := overflow_eq.symm
          _ ≤ ratio := beyond
      have one_le_mul := one_le_mul_of_one_le_of_one_le one_le unit
      linarith
    rw [magnitude_eq_infinity rounds.number finite]
    exact iff_of_true (by decide) large
  | true =>
    have above : 0 + 1 ≤ x.magnitude ↔ _ := (rounds.nearest_magnitude finite).succ_le_iff
    have values : (units 0 + units (0 + 1) : ℚ) = 1 := by
      exact_mod_cast (rfl : units 0 + units (0 + 1) = 1)
    rw [values] at above
    rw [← ne_eq, ← Nat.pos_iff_ne_zero, ← Nat.succ_le_iff, above]
    simp

end RoundsTo

/-! ## What meets the specification -/

theorem odd_largest : largest % 2 = 1 := by
  decide

namespace Nearest

variable {ratio : ℚ} {magnitude : Nat} (near : Nearest (ratio * 2 ^ scale) magnitude)
include near

/-- What lies in the middle above the largest finite number goes beyond it, because that is odd. -/
theorem infinity_le_iff : infinity ≤ magnitude ↔ 2 ^ 1024 - 2 ^ 970 ≤ ratio := by
  have power : (0 : ℚ) < 2 ^ scale := by positivity
  have same_iff : 2 * ((2 ^ 1024 - 2 ^ 970) * 2 ^ scale) = 2 * (ratio * 2 ^ scale) ↔
      2 ^ 1024 - 2 ^ 970 = ratio := by
    rw [mul_right_inj' two_ne_zero, mul_left_inj' power.ne']
  rw [infinity_eq, near.succ_le_iff, middle_largest, mul_lt_mul_iff_right₀ two_pos,
    mul_lt_mul_iff_left₀ power, same_iff, and_iff_left odd_largest, ← le_iff_lt_or_eq]

/-- A ratio is rounded to the nearest magnitude, or to infinity if that is not finite. -/
theorem roundsTo (nonneg : 0 ≤ ratio) {x : Binary64} (unsigned : x.negative = false)
    (magnitude_eq : x.magnitude = min magnitude infinity) : RoundsTo ratio x := by
  have power : (0 : ℚ) < 2 ^ scale := by positivity
  have kept (finite : x.isFinite = true) : x.magnitude = magnitude := by
    rw [isFinite_iff] at finite
    omega
  have closest (finite : x.isFinite = true) (k : Nat) :
      |x.value - ratio| * 2 ^ scale ≤ |(units k : ℚ) - ratio * 2 ^ scale| := by
    rw [abs_value_sub unsigned, kept finite]
    exact near.abs_le k
  refine ⟨unsigned, ?_, ?_, ?_, ?_⟩
  · rw [isNaN, decide_eq_false_iff_not, magnitude_eq]
    omega
  · rw [← near.infinity_le_iff, ← Bool.not_eq_true, isFinite_iff, magnitude_eq]
    omega
  · intro finite y _
    refine le_of_mul_le_mul_right ?_ power
    exact (closest finite y.magnitude).trans (abs_le_abs_value_sub nonneg)
  · intro finite y _ apart tie
    rw [← mul_left_inj' power.ne'] at tie
    have y_value := value_eq_of_abs_le nonneg (tie.trans_le (closest finite 0))
    have other : y.magnitude ≠ magnitude := by
      intro same
      rw [y_value, value_eq unsigned, same, kept finite] at apart
      exact apart rfl
    rw [abs_value_sub unsigned, kept finite] at tie
    rw [toBits_eq_magnitude unsigned, kept finite]
    exact near.even _ other (le_antisymm (tie ▸ abs_le_abs_value_sub nonneg) (near.abs_le _))

end Nearest

/-- The number that a ratio is read as is the one that it has to be rounded to. -/
theorem roundsTo_ofRatio (num : Nat) {den : Nat} (pos : 0 < den) :
    RoundsTo (num / den) (ofRatio num den) := by
  have near := nearest_unbounded num pos
  rw [quantity, ← div_mul_eq_mul_div] at near
  exact near.roundsTo (div_nonneg (Nat.cast_nonneg num) (Nat.cast_nonneg den)) rfl
    (nearest_eq_min num den)

/-! ## Order -/

/-- A larger ratio is not rounded to a smaller magnitude. -/
theorem nearest_mono {a b c d : Nat} (b_pos : 0 < b) (d_pos : 0 < d) (le : a * d ≤ c * b) :
    nearest a b ≤ nearest c d := by
  refine (roundsTo_ofRatio a b_pos).mono (roundsTo_ofRatio c d_pos) ?_
  rw [div_le_div_iff₀ (by exact_mod_cast b_pos) (by exact_mod_cast d_pos)]
  exact_mod_cast le

end LoxFront.Binary64
