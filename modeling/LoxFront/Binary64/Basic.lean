/-! # Binary64 numbers

A number of the IEEE 754 format with 64 bits, held as its sign bit and the other 63 bits read as
one natural number, its magnitude.  Magnitudes are in the order of the values they stand for, the
infinity comes right after the largest finite one, and everything above is a NaN.  The value of a
magnitude is counted exactly, in units of `2 ^ -1074`, the smallest positive number of the format,
so all arithmetic on values is arithmetic on natural numbers.
-/

namespace LoxFront

/-- A binary64 number.  Equality here is equality of bits; the comparison in which the two zeros
    are equal and a NaN differs from itself is `Binary64.sameNumber`. -/
structure Binary64 where
  negative : Bool
  magnitude : Nat
  magnitude_lt : magnitude < Nat.pow 2 63
deriving DecidableEq

namespace Binary64

/-! ## Bits -/

def ofBits (bits : Nat) : Binary64 where
  negative := Nat.pow 2 63 ≤ bits % Nat.pow 2 64
  magnitude := bits % Nat.pow 2 63
  magnitude_lt := Nat.mod_lt _ (by decide)

def toBits (x : Binary64) : Nat :=
  (if x.negative then Nat.pow 2 63 else 0) + x.magnitude

/-! ## Classes -/

def infinity : Nat :=
  2047 * Nat.pow 2 52

def isNaN (x : Binary64) : Bool :=
  infinity < x.magnitude

def isFinite (x : Binary64) : Bool :=
  x.magnitude < infinity

theorem isFinite_iff {x : Binary64} : x.isFinite = true ↔ x.magnitude < infinity := by
  rw [isFinite, decide_eq_true_eq]

/-- Whether two numbers compare equal: a NaN equals nothing, and the two zeros are equal. -/
def sameNumber (x y : Binary64) : Bool :=
  !x.isNaN && !y.isNaN &&
    x.magnitude == y.magnitude && (x.negative == y.negative || x.magnitude == 0)

/-! ## Values -/

/-- The smallest positive number of the format is `2 ^ -scale`; values are counted in it. -/
def scale : Nat :=
  1074

/-- The significand of a magnitude: the low 52 bits, and above the subnormal range a leading one
    before them. -/
def significand (magnitude : Nat) : Nat :=
  if magnitude < Nat.pow 2 52 then magnitude
  else Nat.pow 2 52 + magnitude % Nat.pow 2 52

/-- By how many places the exponent field of a magnitude shifts its significand; the fields zero
    and one both stand for no shift. -/
def shift (magnitude : Nat) : Nat :=
  magnitude / Nat.pow 2 52 - 1

/-- The exact value of a magnitude, in units of `2 ^ -scale`. -/
def units (magnitude : Nat) : Nat :=
  significand magnitude * Nat.pow 2 (shift magnitude)

end Binary64

end LoxFront
