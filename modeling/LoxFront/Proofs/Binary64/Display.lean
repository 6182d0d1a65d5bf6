import LoxFront.Binary64.Display
import LoxFront.Proofs.Binary64.Rounding
import LoxFront.Proofs.Segment.Shape
import Mathlib.Data.List.DropRight

/-! # Numbers read back from their display

A finite number without a sign is displayed by a numeral that reads as that number
(`exists_numeral_of_display`).  Whatever the search for few digits finds has been read back before
it is taken, and the exact decimal that it falls back on reads back too; the numeral that is written
of a decimal then stands for the same ratio (`ofScaled_ratio`).
-/

namespace LoxFront

/-! ## Numerals of decimals -/

namespace Numeral

theorem exists_zeros (digits : List Char) :
    ∃ zeros,
      (digits.reverse.dropWhile (· == '0')).reverse ++ List.replicate zeros '0' = digits := by
  have split := List.rdropWhile_append_rtakeWhile (p := (· == '0')) (l := digits)
  have zeros : List.rtakeWhile (· == '0') digits =
      List.replicate (List.rtakeWhile (· == '0') digits).length '0' := by
    refine List.eq_replicate_iff.2 ⟨rfl, ?_⟩
    intro c member
    simpa using List.mem_rtakeWhile_imp member
  rw [zeros] at split
  exact ⟨_, split⟩

theorem ofDigitChars_leftpad (n places : Nat) :
    Nat.ofDigitChars 10 ((Nat.toDigits 10 n).leftpad places '0') 0 = n := by
  rw [List.leftpad, Nat.ofDigitChars_append, Nat.ofDigitChars_replicate_zero, Nat.mul_zero,
    Nat.ofDigitChars_ten_toDigits]

theorem length_leftpad_toDigits {n places : Nat} (some : places ≠ 0) (small : n < 10 ^ places) :
    ((Nat.toDigits 10 n).leftpad places '0').length = places := by
  have few := (Nat.length_toDigits_le_iff (b := 10) (by decide) (by omega)).2 small
  rw [List.length_leftpad]
  omega

/-- The numeral of `n / 10 ^ places` stands for that ratio. -/
theorem ofScaled_ratio (n places : Nat) :
    (ofScaled n places).numerator * 10 ^ places = n * (ofScaled n places).denominator := by
  by_cases none : places = 0
  · -- The digit of nothing is a zero, and dropped.
    subst none
    have fraction : (ofScaled n 0).fraction = [] := by
      simp [ofScaled, Nat.mod_one]
    rw [numerator, denominator, fraction, List.append_nil]
    simp [ofScaled]
  · obtain ⟨zeros, split⟩ := exists_zeros
      ((Nat.toDigits 10 (n % 10 ^ places)).leftpad places '0')
    have fraction : (ofScaled n places).fraction ++ List.replicate zeros '0' =
      (Nat.toDigits 10 (n % 10 ^ places)).leftpad places '0' := split
    have length : (ofScaled n places).fraction.length + zeros = places := by
      have padded := congrArg List.length fraction
      rw [length_leftpad_toDigits none (Nat.mod_lt _ (by positivity))] at padded
      simpa using padded
    -- With the zeros put back, the digits of both runs are those of `n`.
    have digits : (ofScaled n places).numerator * 10 ^ zeros = n :=
      calc (ofScaled n places).numerator * 10 ^ zeros
          = Nat.ofDigitChars 10 ((ofScaled n places).whole ++
              ((ofScaled n places).fraction ++ List.replicate zeros '0')) 0 := by
            rw [← List.append_assoc, Nat.ofDigitChars_append, Nat.ofDigitChars_replicate_zero,
              numerator, Nat.mul_comm]
        _ = 10 ^ places * (n / 10 ^ places) + n % 10 ^ places := by
            rw [fraction, Nat.ofDigitChars_append, Nat.ofDigitChars_eq_ofDigitChars_zero,
              ofDigitChars_leftpad, length_leftpad_toDigits none (Nat.mod_lt _ (by positivity))]
            change _ * Nat.ofDigitChars 10 (Nat.toDigits 10 (n / 10 ^ places)) 0 + _ = _
            rw [Nat.ofDigitChars_ten_toDigits]
        _ = n := Nat.div_add_mod n (10 ^ places)
    calc (ofScaled n places).numerator * 10 ^ places
        = (ofScaled n places).numerator * 10 ^ zeros * (ofScaled n places).denominator := by
          have power : 10 ^ places = 10 ^ zeros * (ofScaled n places).denominator := by
            rw [denominator, Nat.pow_eq, ← Nat.pow_add, Nat.add_comm, length]
          rw [power, Nat.mul_assoc]
      _ = n * (ofScaled n places).denominator := by rw [digits]

theorem wellFormed_ofScaled (n places : Nat) : (ofScaled n places).WellFormed where
  whole_ne_nil := Nat.toDigits_ne_nil
  whole_isDigit := by
    intro c member
    exact Nat.isDigit_of_mem_toDigits (by decide) (by decide) member
  fraction_isDigit := by
    intro c member
    have inside := (List.rdropWhile_prefix _ _).mem member
    rw [List.leftpad, List.mem_append] at inside
    obtain zero | digit := inside
    · obtain rfl := List.eq_of_mem_replicate zero
      rfl
    · exact Nat.isDigit_of_mem_toDigits (by decide) (by decide) digit

end Numeral

/-! ## The shortest decimal -/

namespace Binary64

/-- What is found beside a number is one of its two neighbours and passes the test. -/
theorem of_multipleBeside? {test : Nat → Bool} {exact step n : Nat}
    (found : multipleBeside? test exact step = some n) :
    test n = true ∧ (n = exact / step * step ∨ n = exact / step * step + step) := by
  unfold multipleBeside? at found
  dsimp only at found
  split at found
  next lower upper =>
    obtain rfl := Option.some.inj found
    split
    · exact ⟨lower, .inl rfl⟩
    · exact ⟨upper, .inr rfl⟩
  next lower _ =>
    obtain rfl := Option.some.inj found
    exact ⟨lower, .inl rfl⟩
  next _ upper =>
    obtain rfl := Option.some.inj found
    exact ⟨upper, .inr rfl⟩
  next => cases found

theorem readsBack_decimal {magnitude : Nat} (inRange : magnitude ≤ infinity) :
    readsBack magnitude (decimal magnitude) = true := by
  have pos : 0 < Nat.pow 10 (places magnitude) := Nat.pow_pos (by decide)
  exact beq_iff_eq.2 (nearest_eq_of_units pos (decimal_mul_two_pow magnitude) inRange)

theorem readsBack_shortest {magnitude : Nat} (inRange : magnitude ≤ infinity) :
    readsBack magnitude (shortest magnitude) = true := by
  unfold shortest
  dsimp only
  cases found : (List.range 17).findSome? fun count => neighbour? magnitude
      (Nat.pow 10 ((Nat.toDigits 10 (decimal magnitude)).length - (count + 1))) with
  | none => exact readsBack_decimal inRange
  | some n =>
    obtain ⟨count, -, neighbour⟩ := List.exists_of_findSome?_eq_some found
    exact (of_multipleBeside? neighbour).1

theorem nearest_numeral {magnitude : Nat} (inRange : magnitude ≤ infinity) :
    nearest (numeral magnitude).numerator (numeral magnitude).denominator = magnitude := by
  have back : nearest (shortest magnitude) (Nat.pow 10 (places magnitude)) = magnitude :=
    beq_iff_eq.1 (readsBack_shortest inRange)
  have same := nearest_congr (Numeral.ofScaled_ratio (shortest magnitude) (places magnitude))
    (Nat.pow_pos (by decide)) (Nat.pow_pos (by decide))
  exact same.trans back

/-! ## The display -/

theorem ofRatio_eq {num den : Nat} {x : Binary64} (positive : x.negative = false)
    (nearest_eq : nearest num den = x.magnitude) : ofRatio num den = x := by
  obtain ⟨negative, magnitude, bound⟩ := x
  subst positive nearest_eq
  rfl

theorem display_eq {x : Binary64} (inRange : x.magnitude < infinity)
    (positive : x.negative = false) : x.display = (numeral x.magnitude).text := by
  have finite := isFinite_iff.2 inRange
  have number : ¬x.isNaN = true := by
    rw [isNaN, decide_eq_true_eq]
    exact Nat.lt_asymm inRange
  have unsigned : ¬x.negative = true := by
    rw [positive]
    exact Bool.false_ne_true
  rw [display, if_neg number]
  dsimp only
  rw [if_pos finite, if_neg unsigned]
  exact List.nil_append _

/-- A finite number without a sign is displayed by a numeral that reads as it. -/
theorem exists_numeral_of_display {x : Binary64} (finite : x.isFinite = true)
    (positive : x.negative = false) :
    ∃ n : Numeral, n.WellFormed ∧ n.text = x.display ∧ n.value = x := by
  have inRange := isFinite_iff.1 finite
  refine ⟨numeral x.magnitude, Numeral.wellFormed_ofScaled _ _, ?_, ?_⟩
  · exact (display_eq inRange positive).symm
  · exact ofRatio_eq positive (nearest_numeral inRange.le)

end Binary64

end LoxFront
