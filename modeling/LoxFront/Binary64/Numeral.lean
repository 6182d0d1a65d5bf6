import LoxFront.Binary64.Rounding

/-! # Numerals

A numeral is a run of decimal digits, or two runs with a point between them.  It stands for an
exact ratio, the digits of both runs over a power of ten, and is read as the binary64 number
nearest to that ratio.
-/

namespace LoxFront

/-- A numeral; an empty fraction means that there is no point. -/
structure Numeral where
  whole : List Char
  fraction : List Char
deriving DecidableEq, Repr

namespace Numeral

def text (n : Numeral) : List Char :=
  match n.fraction with
  | [] => n.whole
  | fraction => n.whole ++ '.' :: fraction

def numerator (n : Numeral) : Nat :=
  Nat.ofDigitChars 10 (n.whole ++ n.fraction) 0

/-- The power of ten by which the fraction divides the numerator. -/
def denominator (n : Numeral) : Nat :=
  Nat.pow 10 n.fraction.length

def value (n : Numeral) : Binary64 :=
  .ofRatio n.numerator n.denominator

/-- The numeral of `n / 10 ^ places`, without zeros at the end of the fraction. -/
def ofScaled (n places : Nat) : Numeral where
  whole := Nat.toDigits 10 (n / Nat.pow 10 places)
  fraction :=
    let digits := (Nat.toDigits 10 (n % Nat.pow 10 places)).leftpad places '0'
    (digits.reverse.dropWhile (· == '0')).reverse

end Numeral

end LoxFront
