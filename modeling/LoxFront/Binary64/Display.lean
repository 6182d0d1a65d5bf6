import LoxFront.Binary64.Numeral

/-! # Numbers as they are displayed

A finite number is displayed by the numeral with the fewest significant digits that reads back as
that number, and by the nearest one where several have as few.  Places are filled with zeros, an
exponent is never written, and a whole number has no point.

Every finite value is a whole number of units of some power of ten, because `2 ^ -k` is `5 ^ k`
units of `10 ^ -k`, so the search runs over natural numbers.  Of the multiples of a step only the
two neighbours of the value need be looked at: if any multiple reads back, so does one of them.
-/

namespace LoxFront.Binary64

/-! ## The exact decimal -/

/-- A number of decimal places that writes the value of a magnitude exactly. -/
def places (magnitude : Nat) : Nat :=
  scale - shift magnitude

/-- The value of a magnitude in units of its last decimal place. -/
def decimal (magnitude : Nat) : Nat :=
  significand magnitude * Nat.pow 2 (shift magnitude - scale) * Nat.pow 5 (places magnitude)

/-- The value of a magnitude, counted in `2 ^ -scale` and in its last decimal place. -/
theorem decimal_mul_two_pow (magnitude : Nat) :
    decimal magnitude * Nat.pow 2 scale = units magnitude * Nat.pow 10 (places magnitude) := by
  have exponents : shift magnitude - scale + scale = shift magnitude + places magnitude := by
    simp only [places]
    omega
  have ten : Nat.pow 10 (places magnitude) =
      Nat.pow 5 (places magnitude) * Nat.pow 2 (places magnitude) :=
    Nat.mul_pow 5 2 (places magnitude)
  have twos : Nat.pow 2 (shift magnitude - scale) * Nat.pow 2 scale =
      Nat.pow 2 (shift magnitude) * Nat.pow 2 (places magnitude) := by
    simp only [Nat.pow_eq]
    rw [← Nat.pow_add, ← Nat.pow_add, exponents]
  calc decimal magnitude * Nat.pow 2 scale
      = significand magnitude * Nat.pow 5 (places magnitude) *
          (Nat.pow 2 (shift magnitude - scale) * Nat.pow 2 scale) := by
        simp only [decimal, Nat.mul_assoc, Nat.mul_left_comm]
    _ = units magnitude * Nat.pow 10 (places magnitude) := by
        rw [twos, ten, units]
        simp only [Nat.mul_assoc, Nat.mul_left_comm]

/-! ## The shortest decimal -/

def readsBack (magnitude n : Nat) : Bool :=
  nearest n (Nat.pow 10 (places magnitude)) == magnitude

/-- The neighbour of a number among the multiples of `step` that passes a test: the nearer one if
    both do, and the upper one if they are equally near. -/
def multipleBeside? (test : Nat → Bool) (exact step : Nat) : Option Nat :=
  let lower := exact / step * step
  let upper := lower + step
  match test lower, test upper with
  | true, true => some (if exact - lower < upper - exact then lower else upper)
  | true, false => some lower
  | false, true => some upper
  | false, false => none

/-- The neighbour of a value among the multiples of `step` that reads back as its magnitude. -/
def neighbour? (magnitude step : Nat) : Option Nat :=
  multipleBeside? (readsBack magnitude) (decimal magnitude) step

/-- The decimal with the fewest significant digits that reads back as a magnitude.  Seventeen
    digits always suffice; should they not, the exact value is given. -/
def shortest (magnitude : Nat) : Nat :=
  let digits := (Nat.toDigits 10 (decimal magnitude)).length
  -- With `count + 1` digits kept, the others make the step.
  let attempt (count : Nat) := neighbour? magnitude (Nat.pow 10 (digits - (count + 1)))
  ((List.range 17).findSome? attempt).getD (decimal magnitude)

def numeral (magnitude : Nat) : Numeral :=
  .ofScaled (shortest magnitude) (places magnitude)

/-! ## Text -/

def display (x : Binary64) : List Char :=
  if x.isNaN then ['N', 'a', 'N']
  else
    let sign := if x.negative then ['-'] else []
    if x.isFinite then sign ++ (numeral x.magnitude).text else sign ++ ['i', 'n', 'f']

end LoxFront.Binary64
