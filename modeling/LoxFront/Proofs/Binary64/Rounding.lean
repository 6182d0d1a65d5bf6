import LoxFront.Binary64.Rounding
import Mathlib.Tactic.Ring

/-! # Rounding

Two laws of rounding a ratio.  Only the ratio counts, not the numbers that it is made of
(`nearest_congr`), and a ratio that is the value of a magnitude is rounded to that magnitude
(`nearest_eq_of_units`).
-/

namespace LoxFront.Binary64

/-! ## Ratios -/

theorem roundHalfEven_mul_right (num den : Nat) {k : Nat} (pos : 0 < k) :
    roundHalfEven (num * k) (den * k) = roundHalfEven num den := by
  simp only [roundHalfEven, Nat.mul_div_mul_right num den pos, Nat.mul_mod_mul_right,
    ← Nat.mul_assoc, Nat.mul_lt_mul_right pos]

theorem nearest_mul_right (num den : Nat) {k : Nat} (pos : 0 < k) :
    nearest (num * k) (den * k) = nearest num den := by
  have scaled : num * k * Nat.pow 2 scale = num * Nat.pow 2 scale * k := Nat.mul_right_comm ..
  have step : ∀ excess, den * k * Nat.pow 2 excess = den * Nat.pow 2 excess * k :=
    fun _ => Nat.mul_right_comm ..
  simp only [nearest, scaled, step, Nat.mul_div_mul_right _ den pos,
    roundHalfEven_mul_right _ _ pos]

/-- Equal ratios are rounded to the same magnitude. -/
theorem nearest_congr {a b c d : Nat} (same : a * d = c * b) (b_pos : 0 < b) (d_pos : 0 < d) :
    nearest a b = nearest c d :=
  calc nearest a b
      = nearest (a * d) (b * d) := (nearest_mul_right a b d_pos).symm
    _ = nearest (c * b) (d * b) := by rw [same, Nat.mul_comm b d]
    _ = nearest c d := nearest_mul_right c d b_pos

theorem nearest_zero (den : Nat) : nearest 0 den = 0 := by
  simp [nearest, roundHalfEven]

/-! ## Values -/

theorem two_pow_52 : Nat.pow 2 52 = 4503599627370496 := rfl

/-- A magnitude is its significand with the shift added in the exponent field. -/
theorem significand_add_shift (magnitude : Nat) :
    significand magnitude + shift magnitude * Nat.pow 2 52 = magnitude := by
  simp only [significand, shift, two_pow_52]
  split <;> omega

theorem significand_lt (magnitude : Nat) : significand magnitude < 2 ^ 53 := by
  simp only [significand, two_pow_52]
  split <;> omega

theorem le_significand {magnitude : Nat} (shifted : shift magnitude ≠ 0) :
    2 ^ 52 ≤ significand magnitude := by
  simp only [significand, shift, two_pow_52] at shifted ⊢
  split <;> omega

/-- The value of a magnitude has as many bits beyond the 53 of its significand as it is shifted. -/
theorem log2_units (magnitude : Nat) : (units magnitude).log2 - 52 = shift magnitude := by
  have upper := significand_lt magnitude
  by_cases unshifted : shift magnitude = 0
  · have value : units magnitude = significand magnitude := by
      rw [units, unshifted]
      exact Nat.mul_one _
    rw [value, unshifted]
    by_cases zero : significand magnitude = 0
    · rw [zero]
      rfl
    · have few := (Nat.log2_lt zero).2 upper
      omega
  · have lower := le_significand unshifted
    have pos : 0 < 2 ^ shift magnitude := Nat.two_pow_pos _
    have value : units magnitude = significand magnitude * 2 ^ shift magnitude := rfl
    have log : (units magnitude).log2 = 52 + shift magnitude := by
      rw [Nat.log2_eq_iff (by rw [value]; exact Nat.mul_ne_zero (by omega) pos.ne'), value]
      constructor
      · rw [Nat.pow_add]
        exact Nat.mul_le_mul_right _ lower
      · rw [Nat.add_right_comm, Nat.pow_add]
        exact Nat.mul_lt_mul_of_pos_right upper pos
    omega

theorem roundHalfEven_mul_self (quotient : Nat) {den : Nat} (pos : 0 < den) :
    roundHalfEven (quotient * den) den = quotient := by
  simp [roundHalfEven, Nat.mul_div_cancel _ pos, pos]

/-- A ratio that is the value of a magnitude is rounded to it. -/
theorem nearest_eq_of_units {num den magnitude : Nat} (pos : 0 < den)
    (exact : num * Nat.pow 2 scale = units magnitude * den) (inRange : magnitude ≤ infinity) :
    nearest num den = magnitude := by
  have whole : num * Nat.pow 2 scale / den = units magnitude := by
    rw [exact, Nat.mul_div_cancel _ pos]
  have multiple : num * Nat.pow 2 scale =
      significand magnitude * (den * Nat.pow 2 (shift magnitude)) := by
    rw [exact, units]
    ring
  have step : 0 < den * Nat.pow 2 (shift magnitude) := Nat.mul_pos pos (Nat.two_pow_pos _)
  simp only [nearest, whole, log2_units]
  rw [multiple, roundHalfEven_mul_self _ step, significand_add_shift, Nat.min_eq_left inRange]

end LoxFront.Binary64
