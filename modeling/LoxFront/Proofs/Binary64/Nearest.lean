import LoxFront.Proofs.Binary64.Rounding
import Mathlib

/-! # The nearest number

A ratio is rounded to the magnitude that is nearest to it, and to the even one of two that are
equally near (`nearest_unbounded`).  Magnitudes are taken without their bound here, as if any
exponent could be written.  Then the middle between two neighbours is all that decides between them
(`Nearest.succ_le_iff`), and the order of roundings is read off that (`Nearest.mono`).
-/

namespace LoxFront.Binary64

/-! ## The values of magnitudes -/

/-- The value of a significand with a shift; only without a shift may the significand be short, and
    one that has just become too long carries over into the shift. -/
theorem units_add_shift {significand shift : Nat} (full : shift = 0 ∨ 2 ^ 52 ≤ significand)
    (small : significand ≤ 2 ^ 53) :
    units (significand + shift * Nat.pow 2 52) = significand * 2 ^ shift := by
  by_cases carry : significand = 2 ^ 53
  · have low : Binary64.significand (significand + shift * Nat.pow 2 52) = 2 ^ 52 := by
      simp only [Binary64.significand, two_pow_52]
      split <;> omega
    have high : Binary64.shift (significand + shift * Nat.pow 2 52) = shift + 1 := by
      simp only [Binary64.shift, two_pow_52]
      omega
    rw [units, low, high, carry, Nat.pow_eq]
    ring
  · have low : Binary64.significand (significand + shift * Nat.pow 2 52) = significand := by
      simp only [Binary64.significand, two_pow_52]
      split <;> omega
    have high : Binary64.shift (significand + shift * Nat.pow 2 52) = shift := by
      simp only [Binary64.shift, two_pow_52]
      omega
    rw [units, low, high, Nat.pow_eq]

theorem units_succ (magnitude : Nat) :
    units (magnitude + 1) = units magnitude + 2 ^ shift magnitude := by
  have small := significand_lt magnitude
  have full : shift magnitude = 0 ∨ 2 ^ 52 ≤ significand magnitude + 1 := by
    by_cases shifted : shift magnitude = 0
    · exact .inl shifted
    · exact .inr (Nat.le_succ_of_le (le_significand shifted))
  calc units (magnitude + 1)
      = units (significand magnitude + 1 + shift magnitude * Nat.pow 2 52) := by
        rw [Nat.add_right_comm, significand_add_shift]
    _ = (significand magnitude + 1) * 2 ^ shift magnitude := units_add_shift full small
    _ = units magnitude + 2 ^ shift magnitude := by rw [Nat.succ_mul, units, Nat.pow_eq]

theorem units_strictMono : StrictMono units := by
  refine strictMono_nat_of_lt_succ ?_
  intro magnitude
  rw [units_succ]
  exact Nat.lt_add_of_pos_right (Nat.two_pow_pos _)

theorem units_lt (magnitude : Nat) : units magnitude < 2 ^ 53 * 2 ^ shift magnitude :=
  Nat.mul_lt_mul_of_pos_right (significand_lt magnitude) (Nat.two_pow_pos _)

theorem units_succ_le (magnitude : Nat) : units (magnitude + 1) ≤ 2 ^ 53 * 2 ^ shift magnitude := by
  rw [units_succ, units, Nat.pow_eq, ← Nat.succ_mul]
  exact Nat.mul_le_mul_right _ (significand_lt magnitude)

/-! ## Rounding a quotient -/

/-- A quotient is rounded to a number less than a half away, or to an even one just a half away. -/
theorem roundHalfEven_spec (num : Nat) {den : Nat} (pos : 0 < den) :
    |(roundHalfEven num den : ℚ) - num / den| < 1 / 2 ∨
      |(roundHalfEven num den : ℚ) - num / den| = 1 / 2 ∧ roundHalfEven num den % 2 = 0 := by
  have posQ : (0 : ℚ) < den := by exact_mod_cast pos
  have split : (num : ℚ) / den = (num / den : ℕ) + (num % den : ℕ) / den := by
    rw [div_eq_iff posQ.ne', add_mul, div_mul_cancel₀ _ posQ.ne']
    exact_mod_cast (Nat.div_add_mod' num den).symm
  have nonneg : (0 : ℚ) ≤ (num % den : ℕ) / den := by positivity
  rw [split]
  unfold roundHalfEven
  dsimp only
  split_ifs with below above
  · have part : ((num % den : ℕ) : ℚ) / den < 1 / 2 := by
      rw [div_lt_div_iff₀ posQ two_pos]
      exact_mod_cast (by omega : num % den * 2 < 1 * den)
    left
    rw [abs_lt]
    constructor <;> linarith
  · have part : (1 : ℚ) / 2 < (num % den : ℕ) / den := by
      rw [div_lt_div_iff₀ two_pos posQ]
      exact_mod_cast (by omega : 1 * den < num % den * 2)
    have most : ((num % den : ℕ) : ℚ) / den < 1 := by
      rw [div_lt_one posQ]
      exact_mod_cast Nat.mod_lt num pos
    left
    rw [abs_lt]
    push_cast
    constructor <;> linarith
  · have part : ((num % den : ℕ) : ℚ) / den = 1 / 2 := by
      rw [div_eq_div_iff posQ.ne' two_ne_zero]
      exact_mod_cast (by omega : num % den * 2 = 1 * den)
    right
    refine ⟨?_, by omega⟩
    rw [part]
    obtain even | odd := Nat.mod_two_eq_zero_or_one (num / den)
    · rw [even]
      norm_num
    · rw [odd]
      push_cast
      norm_num

/-- No number is nearer to a quotient than the one it is rounded to; if another one is as near,
    that one is even. -/
theorem roundHalfEven_nearest (num : Nat) {den : Nat} (pos : 0 < den) (k : Nat) :
    |(roundHalfEven num den : ℚ) - num / den| ≤ |(k : ℚ) - num / den| ∧
      (k ≠ roundHalfEven num den →
        |(k : ℚ) - num / den| = |(roundHalfEven num den : ℚ) - num / den| →
        roundHalfEven num den % 2 = 0) := by
  have spec := roundHalfEven_spec num pos
  by_cases same : k = roundHalfEven num den
  · rw [← same]
    exact ⟨le_rfl, fun other => absurd rfl other⟩
  · have apart : (1 : ℚ) ≤ |(k : ℚ) - roundHalfEven num den| := by
      have integers : (1 : ℤ) ≤ |(k : ℤ) - roundHalfEven num den| :=
        Int.one_le_abs (sub_ne_zero.2 (by exact_mod_cast same))
      exact_mod_cast integers
    have between : |(k : ℚ) - roundHalfEven num den| ≤
        |(k : ℚ) - num / den| + |(roundHalfEven num den : ℚ) - num / den| := by
      rw [abs_sub_comm (roundHalfEven num den : ℚ)]
      exact abs_sub_le _ _ _
    obtain near | ⟨half, even⟩ := spec
    · exact ⟨by linarith, fun _ tie => absurd tie (by linarith)⟩
    · exact ⟨by linarith, fun _ _ => even⟩

theorem abs_roundHalfEven_sub_le (num : Nat) {den : Nat} (pos : 0 < den) :
    |(roundHalfEven num den : ℚ) - num / den| ≤ 1 / 2 := by
  obtain near | ⟨half, -⟩ := roundHalfEven_spec num pos
  · exact near.le
  · exact half.le

theorem roundHalfEven_le {num den k : Nat} (pos : 0 < den) (le : num ≤ k * den) :
    roundHalfEven num den ≤ k := by
  have posQ : (0 : ℚ) < den := by exact_mod_cast pos
  have most : (num : ℚ) / den ≤ k := by
    rw [div_le_iff₀ posQ]
    exact_mod_cast le
  have close : (roundHalfEven num den : ℚ) < k + 1 := by
    have := (abs_le.1 (abs_roundHalfEven_sub_le num pos)).2
    linarith
  exact Nat.lt_succ_iff.1 (by exact_mod_cast close)

theorem le_roundHalfEven {num den k : Nat} (pos : 0 < den) (le : k * den ≤ num) :
    k ≤ roundHalfEven num den := by
  have posQ : (0 : ℚ) < den := by exact_mod_cast pos
  have least : (k : ℚ) ≤ num / den := by
    rw [le_div_iff₀ posQ]
    exact_mod_cast le
  have close : (k : ℚ) < roundHalfEven num den + 1 := by
    have := (abs_le.1 (abs_roundHalfEven_sub_le num pos)).1
    linarith
  exact Nat.lt_succ_iff.1 (by exact_mod_cast close)

/-! ## Nearest magnitudes -/

/-- A magnitude is nearest to a number of units if no other is nearer, and it is even if another one
    is as near.  All magnitudes count, as if there were no largest one. -/
structure Nearest (quantity : ℚ) (magnitude : Nat) : Prop where
  abs_le : ∀ k, |(units magnitude : ℚ) - quantity| ≤ |(units k : ℚ) - quantity|
  even : ∀ k, k ≠ magnitude → |(units k : ℚ) - quantity| = |(units magnitude : ℚ) - quantity| →
    magnitude % 2 = 0

/-! The middle between two numbers decides which of them is nearer. -/

section Middle

variable {a b q : ℚ} (less : a < b)
include less

theorem abs_sub_le_abs_sub_iff : |a - q| ≤ |b - q| ↔ 2 * q ≤ a + b := by
  have squares : (b - q) ^ 2 - (a - q) ^ 2 = (b - a) * (a + b - 2 * q) := by ring
  rw [← sq_le_sq, ← sub_nonneg, squares, mul_nonneg_iff_of_pos_left (sub_pos.2 less), sub_nonneg]

theorem abs_sub_le_abs_sub_iff' : |b - q| ≤ |a - q| ↔ a + b ≤ 2 * q := by
  -- The other way round on the line of numbers read backwards.
  have mirrored := abs_sub_le_abs_sub_iff (q := -q) (neg_lt_neg less)
  rw [neg_sub_neg, neg_sub_neg, abs_sub_comm q, abs_sub_comm q] at mirrored
  rw [mirrored]
  constructor <;> intro <;> linarith

theorem abs_sub_eq_abs_sub_iff : |a - q| = |b - q| ↔ a + b = 2 * q := by
  rw [le_antisymm_iff, abs_sub_le_abs_sub_iff less, abs_sub_le_abs_sub_iff' less, and_comm,
    ← le_antisymm_iff]

end Middle

namespace Nearest

variable {quantity : ℚ} {magnitude : Nat}

/-- A magnitude that is nearest is above a number if the quantity is above the middle between that
    number and the next one, or in the middle and the number is odd. -/
theorem succ_le_iff (nearest : Nearest quantity magnitude) {k : Nat} :
    k + 1 ≤ magnitude ↔ (units k + units (k + 1) : ℚ) < 2 * quantity ∨
      (units k + units (k + 1) : ℚ) = 2 * quantity ∧ k % 2 = 1 := by
  have step : (units k : ℚ) < units (k + 1) := by
    exact_mod_cast units_strictMono (Nat.lt_succ_self k)
  constructor
  · intro above
    have upper : (units (k + 1) : ℚ) ≤ units magnitude := by
      exact_mod_cast units_strictMono.monotone above
    have far := (abs_sub_le_abs_sub_iff' (step.trans_le upper)).1 (nearest.abs_le k)
    have middle : (units k + units (k + 1) : ℚ) ≤ 2 * quantity := by linarith
    obtain less | same := lt_or_eq_of_le middle
    · exact .inl less
    · obtain rfl : magnitude = k + 1 := by
        refine units_strictMono.injective ?_
        have : (units magnitude : ℚ) ≤ units (k + 1) := by linarith
        exact_mod_cast le_antisymm this upper
      have even := nearest.even k (Nat.ne_of_lt (Nat.lt_succ_self k))
        ((abs_sub_eq_abs_sub_iff step).2 same)
      exact .inr ⟨same, by omega⟩
  · intro middle
    by_contra below
    have lower : (units magnitude : ℚ) ≤ units k := by
      exact_mod_cast units_strictMono.monotone (Nat.le_of_not_lt below)
    have far := (abs_sub_le_abs_sub_iff (lower.trans_lt step)).1 (nearest.abs_le (k + 1))
    obtain less | ⟨same, odd⟩ := middle
    · linarith
    · obtain rfl : magnitude = k := by
        refine units_strictMono.injective ?_
        have : (units k : ℚ) ≤ units magnitude := by linarith
        exact_mod_cast le_antisymm lower this
      have even := nearest.even (magnitude + 1) (Nat.succ_ne_self magnitude)
        ((abs_sub_eq_abs_sub_iff step).2 same).symm
      omega

/-- What differs from the value of a magnitude by less than one part in `2 ^ 54` is nearest to it:
    the middles to its neighbours are at least as far away. -/
theorem eq_of_near (nearest : Nearest quantity magnitude) {k : Nat}
    (below : 2 ^ 54 * (units k : ℚ) < 2 ^ 54 * quantity + units k)
    (above : 2 ^ 54 * quantity < 2 ^ 54 * (units k : ℚ) + units k) : magnitude = k := by
  have atMost : magnitude ≤ k := by
    refine Nat.lt_succ_iff.1 (Nat.lt_of_not_le ?_)
    have gap : (units k : ℚ) < 2 ^ 53 * 2 ^ shift k := by exact_mod_cast units_lt k
    have step : (units (k + 1) : ℚ) = units k + 2 ^ shift k := by exact_mod_cast units_succ k
    rw [nearest.succ_le_iff, step]
    rintro (less | ⟨same, -⟩) <;> linarith
  have atLeast : k ≤ magnitude := by
    cases k with
    | zero => exact Nat.zero_le _
    | succ k =>
      have gap : (units (k + 1) : ℚ) ≤ 2 ^ 53 * 2 ^ shift k := by exact_mod_cast units_succ_le k
      have step : (units (k + 1) : ℚ) = units k + 2 ^ shift k := by exact_mod_cast units_succ k
      refine nearest.succ_le_iff.2 (.inl ?_)
      linarith
  exact le_antisymm atMost atLeast

theorem mono {quantity' : ℚ} {magnitude' : Nat} (nearest : Nearest quantity magnitude)
    (nearest' : Nearest quantity' magnitude') (le : quantity ≤ quantity') :
    magnitude ≤ magnitude' := by
  cases magnitude with
  | zero => exact Nat.zero_le _
  | succ k =>
    rw [nearest'.succ_le_iff]
    obtain less | ⟨same, odd⟩ := nearest.succ_le_iff.1 le_rfl
    · exact .inl (by linarith)
    · obtain less | same' := lt_or_eq_of_le le
      · exact .inl (by linarith)
      · exact .inr ⟨by rw [same, same'], odd⟩

end Nearest

/-! ## Rounding a ratio -/

/-- A ratio in units. -/
def quantity (num den : Nat) : ℚ :=
  num * 2 ^ scale / den

/-- By how many bits the whole part of a ratio in units is too long for a significand. -/
def excess (num den : Nat) : Nat :=
  (num * 2 ^ scale / den).log2 - 52

/-- The magnitude that a ratio is rounded to before what overflows is made infinite. -/
def unbounded (num den : Nat) : Nat :=
  roundHalfEven (num * 2 ^ scale) (den * 2 ^ excess num den) + excess num den * Nat.pow 2 52

theorem nearest_eq_min (num den : Nat) : nearest num den = min (unbounded num den) infinity := by
  simp only [nearest, unbounded, excess, Nat.pow_eq]

section Ratio

variable (num : Nat) {den : Nat} (pos : 0 < den)
include pos

theorem scaled_lt : num * 2 ^ scale < 2 ^ 53 * (den * 2 ^ excess num den) := by
  have bits : (num * 2 ^ scale / den).log2 + 1 ≤ 53 + excess num den := by
    rw [excess]
    generalize num * 2 ^ scale / den = whole
    omega
  have short : num * 2 ^ scale / den < 2 ^ (53 + excess num den) :=
    Nat.lt_log2_self.trans_le (Nat.pow_le_pow_right two_pos bits)
  rw [Nat.div_lt_iff_lt_mul pos, Nat.pow_add] at short
  calc num * 2 ^ scale < 2 ^ 53 * 2 ^ excess num den * den := short
    _ = 2 ^ 53 * (den * 2 ^ excess num den) := by ring

theorem le_scaled (exceeds : excess num den ≠ 0) :
    2 ^ 52 * (den * 2 ^ excess num den) ≤ num * 2 ^ scale := by
  have bits : (num * 2 ^ scale / den).log2 = 52 + excess num den := by
    rw [excess] at exceeds ⊢
    generalize num * 2 ^ scale / den = whole at exceeds ⊢
    omega
  have nonzero : num * 2 ^ scale / den ≠ 0 := by
    intro zero
    rw [zero, Nat.log2_zero] at bits
    omega
  have long := Nat.log2_self_le nonzero
  rw [bits, Nat.pow_add, Nat.le_div_iff_mul_le pos] at long
  calc 2 ^ 52 * (den * 2 ^ excess num den) = 2 ^ 52 * 2 ^ excess num den * den := by ring
    _ ≤ num * 2 ^ scale := long

theorem units_unbounded :
    units (unbounded num den) =
      roundHalfEven (num * 2 ^ scale) (den * 2 ^ excess num den) * 2 ^ excess num den := by
  have step : 0 < den * 2 ^ excess num den := Nat.mul_pos pos (Nat.two_pow_pos _)
  refine units_add_shift ?_ (roundHalfEven_le step (scaled_lt num pos).le)
  by_cases exceeds : excess num den = 0
  · exact .inl exceeds
  · exact .inr (le_roundHalfEven step (le_scaled num pos exceeds))

/-- Measured in the last place of what a ratio is rounded to, another magnitude is a whole number,
    or else there is a whole number that is nearer to the ratio. -/
theorem exists_whole (k : Nat) :
    ∃ j : Nat, units k = j * 2 ^ excess num den ∨
      |((j * 2 ^ excess num den : ℕ) : ℚ) - quantity num den| <
        |(units k : ℚ) - quantity num den| := by
  by_cases coarse : excess num den ≤ shift k
  · refine ⟨significand k * 2 ^ (shift k - excess num den), .inl ?_⟩
    rw [Nat.mul_assoc, ← Nat.pow_add, Nat.sub_add_cancel coarse, units, Nat.pow_eq]
  · -- Then the magnitude is below the least significand of that place, and the ratio is not.
    refine ⟨2 ^ 52, .inr ?_⟩
    have exceeds : excess num den ≠ 0 := by omega
    have below : units k < 2 ^ 52 * 2 ^ excess num den :=
      calc units k < 2 ^ 53 * 2 ^ shift k :=
            Nat.mul_lt_mul_of_pos_right (significand_lt k) (Nat.two_pow_pos _)
        _ = 2 ^ 52 * 2 ^ (shift k + 1) := by ring
        _ ≤ 2 ^ 52 * 2 ^ excess num den :=
            Nat.mul_le_mul_left _ (Nat.pow_le_pow_right two_pos (by omega))
    have above : ((2 ^ 52 * 2 ^ excess num den : ℕ) : ℚ) ≤ quantity num den := by
      rw [quantity, le_div_iff₀ (by exact_mod_cast pos)]
      have long := le_scaled num pos exceeds
      calc ((2 ^ 52 * 2 ^ excess num den : ℕ) : ℚ) * den
          = ((2 ^ 52 * (den * 2 ^ excess num den) : ℕ) : ℚ) := by
            push_cast
            ring
        _ ≤ ((num * 2 ^ scale : ℕ) : ℚ) := by exact_mod_cast long
        _ = num * 2 ^ scale := by push_cast; rfl
    have belowQ : (units k : ℚ) < (2 ^ 52 * 2 ^ excess num den : ℕ) := by exact_mod_cast below
    rw [abs_of_nonpos (by linarith), abs_of_neg (by linarith)]
    linarith

/-- In the last place of what a ratio is rounded to, distances are those from the quotient. -/
theorem abs_mul_sub_quantity (j : Nat) :
    |((j * 2 ^ excess num den : ℕ) : ℚ) - quantity num den| =
      |(j : ℚ) - (num * 2 ^ scale : ℕ) / (den * 2 ^ excess num den : ℕ)| *
        2 ^ excess num den := by
  have power : (0 : ℚ) < 2 ^ excess num den := by positivity
  have nonzero : (den : ℚ) ≠ 0 := by exact_mod_cast pos.ne'
  have scaled : ((j * 2 ^ excess num den : ℕ) : ℚ) - quantity num den =
      ((j : ℚ) - (num * 2 ^ scale : ℕ) / (den * 2 ^ excess num den : ℕ)) *
        2 ^ excess num den := by
    rw [quantity]
    push_cast
    field_simp
  rw [scaled, abs_mul, abs_of_pos power]

/-- Without a bound on the exponents, rounding gives the nearest magnitude. -/
theorem nearest_unbounded : Nearest (quantity num den) (unbounded num den) := by
  have step : 0 < den * 2 ^ excess num den := Nat.mul_pos pos (Nat.two_pow_pos _)
  have power : (0 : ℚ) < 2 ^ excess num den := by positivity
  have lattice := roundHalfEven_nearest (num * 2 ^ scale) step
  have closest : ∀ j : Nat, |(units (unbounded num den) : ℚ) - quantity num den| ≤
      |((j * 2 ^ excess num den : ℕ) : ℚ) - quantity num den| := by
    intro j
    rw [units_unbounded num pos, abs_mul_sub_quantity num pos, abs_mul_sub_quantity num pos]
    exact mul_le_mul_of_nonneg_right (lattice j).1 power.le
  constructor
  · intro k
    obtain ⟨j, whole | nearer⟩ := exists_whole num pos k
    · rw [whole]
      exact closest j
    · exact (closest j).trans nearer.le
  · intro k other tie
    obtain ⟨j, whole | nearer⟩ := exists_whole num pos k
    · have apart : j ≠ roundHalfEven (num * 2 ^ scale) (den * 2 ^ excess num den) := by
        rintro rfl
        rw [← units_unbounded num pos] at whole
        exact other (units_strictMono.injective whole)
      rw [whole, units_unbounded num pos, abs_mul_sub_quantity num pos,
        abs_mul_sub_quantity num pos] at tie
      have even := (lattice j).2 apart (mul_right_cancel₀ power.ne' tie)
      rw [unbounded, two_pow_52, Nat.add_mod, even]
      omega
    · exact absurd tie ((closest j).trans_lt nearer).ne'

end Ratio

end LoxFront.Binary64
