import LoxFront.Binary64.Basic

/-! # Rounding a ratio to binary64

A ratio of two natural numbers is rounded to the nearest binary64 number, a ratio half way between
two of them to the one with the even magnitude.  Because consecutive magnitudes stand for
consecutive values, rounding the significand and adding the exponent field is enough: a carry out
of the significand moves to the next exponent by itself.
-/

namespace LoxFront.Binary64

/-- A quotient rounded to the nearest natural number, a half to the even neighbour. -/
def roundHalfEven (num den : Nat) : Nat :=
  let quotient := num / den
  let twice := 2 * (num % den)
  if twice < den then quotient
  else if den < twice then quotient + 1
  else quotient + quotient % 2                             -- half way

/-- The magnitude nearest to `num / den`.  The ratio is first counted in units; `excess` is the
    number of low bits that its whole part has beyond the 53 of a significand, and what overflows
    the format is infinite. -/
def nearest (num den : Nat) : Nat :=
  let scaled := num * Nat.pow 2 scale
  let excess := (scaled / den).log2 - 52
  min (roundHalfEven scaled (den * Nat.pow 2 excess) + excess * Nat.pow 2 52) infinity

theorem nearest_le_infinity (num den : Nat) : nearest num den ≤ infinity :=
  Nat.min_le_right _ _

def ofRatio (num den : Nat) : Binary64 where
  negative := false
  magnitude := nearest num den
  magnitude_lt := Nat.lt_of_le_of_lt (nearest_le_infinity num den) (by decide)

end LoxFront.Binary64
