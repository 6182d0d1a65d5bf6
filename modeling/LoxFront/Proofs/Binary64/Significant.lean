import LoxFront.Proofs.Binary64.Display

/-! # Significant digits

The significant digits of a numeral are its digits without the zeros at either end, so their number
does not depend on how the numeral is padded.  It is the number of digits that the value needs: what
is a number below `10 ^ digits`, but for a power of ten, has no more significant digits than that
(`length_significant_le`).
-/

namespace LoxFront.Numeral

/-- The digits of a numeral without the zeros at either end. -/
def significant (n : Numeral) : List Char :=
  ((n.whole ++ n.fraction).dropWhile (· == '0')).rdropWhile (· == '0')

/-! ## Numbers read from digits -/

section Digits

variable {digits : List Char} {c : Char}

theorem ofDigitChars_dropWhile (digits : List Char) :
    Nat.ofDigitChars 10 (digits.dropWhile (· == '0')) 0 = Nat.ofDigitChars 10 digits 0 := by
  induction digits with
  | nil => rfl
  | cons c digits ih =>
    by_cases zero : c = '0'
    · subst zero
      rw [List.dropWhile_cons_of_pos rfl, ih]
      rfl
    · rw [List.dropWhile_cons_of_neg (by simpa using zero)]

theorem ofDigitChars_cons_eq (c : Char) (digits : List Char) :
    Nat.ofDigitChars 10 (c :: digits) 0 =
      10 ^ digits.length * (c.toNat - '0'.toNat) + Nat.ofDigitChars 10 digits 0 := by
  rw [Nat.ofDigitChars_cons, Nat.ofDigitChars_eq_ofDigitChars_zero, Nat.mul_zero, Nat.zero_add]

theorem ofDigitChars_concat (digits : List Char) (c : Char) :
    Nat.ofDigitChars 10 (digits ++ [c]) 0 =
      10 * Nat.ofDigitChars 10 digits 0 + (c.toNat - '0'.toNat) := by
  rw [Nat.ofDigitChars_append, Nat.ofDigitChars_cons, Nat.ofDigitChars_nil]

theorem toNat_of_isDigit (digit : c.isDigit = true) :
    '0'.toNat ≤ c.toNat ∧ c.toNat ≤ '9'.toNat := by
  rw [Char.isDigit, Bool.and_eq_true, decide_eq_true_eq, decide_eq_true_eq] at digit
  exact digit

/-- The digit zero is the only one that adds nothing. -/
theorem digit_pos (digit : c.isDigit = true) (nonzero : c ≠ '0') : 0 < c.toNat - '0'.toNat := by
  have range := toNat_of_isDigit digit
  have apart : c.toNat ≠ '0'.toNat := fun same => nonzero (Char.toNat_inj.1 same)
  omega

theorem digit_lt (digit : c.isDigit = true) : c.toNat - '0'.toNat < 10 := by
  have most : c.toNat ≤ 57 := (toNat_of_isDigit digit).2
  have zero : '0'.toNat = 48 := rfl
  omega

theorem ofDigitChars_lt (isDigit : ∀ c ∈ digits, c.isDigit = true) :
    Nat.ofDigitChars 10 digits 0 < 10 ^ digits.length := by
  induction digits with
  | nil => exact Nat.one_pos
  | cons c digits ih =>
    obtain ⟨digit, others⟩ := List.forall_mem_cons.1 isDigit
    calc Nat.ofDigitChars 10 (c :: digits) 0
        < 10 ^ digits.length * (c.toNat - '0'.toNat) + 10 ^ digits.length := by
          rw [ofDigitChars_cons_eq]
          exact Nat.add_lt_add_left (ih others) _
      _ = 10 ^ digits.length * (c.toNat - '0'.toNat + 1) := rfl
      _ ≤ 10 ^ digits.length * 10 := Nat.mul_le_mul_left _ (digit_lt digit)
      _ = 10 ^ (c :: digits).length := (Nat.pow_succ ..).symm

theorem le_ofDigitChars (digit : c.isDigit = true) (nonzero : c ≠ '0') :
    10 ^ digits.length ≤ Nat.ofDigitChars 10 (c :: digits) 0 := by
  rw [ofDigitChars_cons_eq]
  exact Nat.le_add_right_of_le (Nat.le_mul_of_pos_right _ (digit_pos digit nonzero))

theorem ofDigitChars_concat_mod (digit : c.isDigit = true) (nonzero : c ≠ '0') :
    Nat.ofDigitChars 10 (digits ++ [c]) 0 % 10 ≠ 0 := by
  have pos := digit_pos digit nonzero
  have small := digit_lt digit
  rw [ofDigitChars_concat]
  omega

end Digits

/-! ## The significant digits -/

variable {n : Numeral}

/-- The significant digits, but for a power of ten, are the numerator. -/
theorem exists_numerator_eq (n : Numeral) :
    ∃ zeros, n.numerator = Nat.ofDigitChars 10 n.significant 0 * 10 ^ zeros := by
  obtain ⟨zeros, split⟩ := exists_zeros ((n.whole ++ n.fraction).dropWhile (· == '0'))
  refine ⟨zeros, ?_⟩
  rw [numerator, ← ofDigitChars_dropWhile, ← split, Nat.ofDigitChars_append,
    Nat.ofDigitChars_replicate_zero, Nat.mul_comm]
  rfl

theorem isDigit_of_mem_significant (wellFormed : n.WellFormed) :
    ∀ c ∈ n.significant, c.isDigit = true := by
  intro c member
  have inside := (List.dropWhile_suffix _).mem ((List.rdropWhile_prefix _ _).mem member)
  obtain whole | fraction := List.mem_append.1 inside
  · exact wellFormed.whole_isDigit c whole
  · exact wellFormed.fraction_isDigit c fraction

theorem ne_zero_of_significant_cons {c : Char} {digits : List Char}
    (h : n.significant = c :: digits) : c ≠ '0' := by
  obtain ⟨zeros, split⟩ := exists_zeros ((n.whole ++ n.fraction).dropWhile (· == '0'))
  have first := List.head?_dropWhile_not (· == '0') (n.whole ++ n.fraction)
  have front : ((n.whole ++ n.fraction).dropWhile (· == '0')).head? = some c := by
    rw [← split]
    change (n.significant ++ _).head? = _
    rw [h]
    rfl
  rw [front] at first
  simpa using first

theorem ne_zero_of_significant_concat {c : Char} {digits : List Char}
    (h : n.significant = digits ++ [c]) : c ≠ '0' := by
  have nonempty : n.significant ≠ [] := by simp [h]
  have last := List.rdropWhile_last_not (· == '0') _ nonempty
  have last_eq : n.significant.getLast nonempty = c := by simp [h]
  change ¬(n.significant.getLast nonempty == '0') = true at last
  rw [last_eq] at last
  simpa using last

section Bounds

variable (wellFormed : n.WellFormed)
include wellFormed

theorem le_of_significant {c : Char} {digits : List Char} (h : n.significant = c :: digits) :
    10 ^ digits.length ≤ Nat.ofDigitChars 10 n.significant 0 := by
  have member : c ∈ n.significant := h ▸ List.mem_cons_self
  rw [h]
  exact le_ofDigitChars (isDigit_of_mem_significant wellFormed c member)
    (ne_zero_of_significant_cons h)

theorem mod_of_significant (nonempty : n.significant ≠ []) :
    Nat.ofDigitChars 10 n.significant 0 % 10 ≠ 0 := by
  obtain nil | ⟨digits, c, h⟩ := List.eq_nil_or_concat n.significant
  · exact absurd nil nonempty
  · rw [List.concat_eq_append] at h
    have member : c ∈ n.significant := by simp [h]
    rw [h]
    exact ofDigitChars_concat_mod (isDigit_of_mem_significant wellFormed c member)
      (ne_zero_of_significant_concat h)

/-- A numeral stands for a number of as many digits as are significant, times a power of ten. -/
theorem exists_of_significant :
    ∃ a zeros, a < 10 ^ n.significant.length ∧ n.numerator = a * 10 ^ zeros := by
  obtain ⟨zeros, numerator⟩ := exists_numerator_eq n
  exact ⟨_, zeros, ofDigitChars_lt (isDigit_of_mem_significant wellFormed), numerator⟩

theorem length_significant_le {a digits u v : Nat} (few : a < 10 ^ digits)
    (same : n.numerator * 10 ^ u = a * 10 ^ v) : n.significant.length ≤ digits := by
  obtain ⟨zeros, numerator⟩ := exists_numerator_eq n
  cases front : n.significant with
  | nil => exact Nat.zero_le _
  | cons c tail =>
    have least := le_of_significant wellFormed front
    have unit := mod_of_significant wellFormed (front ▸ List.cons_ne_nil c tail)
    rw [numerator, Nat.mul_assoc, ← Nat.pow_add] at same
    have le : Nat.ofDigitChars 10 n.significant 0 ≤ a := by
      generalize zeros + u = exponent at same
      obtain below | above := le_or_gt v exponent
      · obtain ⟨more, rfl⟩ := Nat.exists_eq_add_of_le' below
        rw [Nat.pow_add, ← Nat.mul_assoc] at same
        rw [← Nat.eq_of_mul_eq_mul_right (Nat.pow_pos (by decide)) same]
        exact Nat.le_mul_of_pos_right _ (Nat.pow_pos (by decide))
      · -- The last significant digit would be a zero.
        obtain ⟨more, rfl⟩ := Nat.exists_eq_add_of_le' (Nat.succ_le_of_lt above)
        have split : 10 ^ (more + (exponent + 1)) = 10 ^ more * 10 * 10 ^ exponent := by ring
        rw [split, ← Nat.mul_assoc, ← Nat.mul_assoc] at same
        have multiple := Nat.eq_of_mul_eq_mul_right (Nat.pow_pos (by decide)) same
        exact absurd (multiple ▸ Nat.mul_mod_left _ 10) unit
    have lt : 10 ^ tail.length < 10 ^ digits := least.trans_lt (le.trans_lt few)
    exact (Nat.pow_lt_pow_iff_right (by decide)).1 lt

end Bounds

/-! ## Canonical numerals -/

/-- A numeral without a zero that could be left out. -/
structure Canonical (n : Numeral) : Prop where
  whole_head : n.whole = ['0'] ∨ n.whole.head? ≠ some '0'
  fraction_last : n.fraction.getLast? ≠ some '0'

theorem head_toDigits {n : Nat} (pos : 0 < n) : (Nat.toDigits 10 n).head? ≠ some '0' := by
  induction n using Nat.strong_induction_on with
  | _ n ih =>
    obtain small | large := Nat.lt_or_ge n 10
    · rw [Nat.toDigits_of_lt_base small]
      interval_cases n <;> decide
    · have shorter : n / 10 < n := Nat.div_lt_self pos (by decide)
      have nonzero : 0 < n / 10 := Nat.div_pos large (by decide)
      rw [Nat.toDigits_of_base_le (by decide) large,
        List.head?_append_of_ne_nil _ Nat.toDigits_ne_nil]
      exact ih _ shorter nonzero

theorem canonical_ofScaled (n places : Nat) : (ofScaled n places).Canonical where
  whole_head := by
    obtain zero | pos := Nat.eq_zero_or_pos (n / 10 ^ places)
    · left
      change Nat.toDigits 10 (n / 10 ^ places) = _
      rw [zero, Nat.toDigits_zero]
    · exact .inr (head_toDigits pos)
  fraction_last := by
    intro last
    have nonempty : (ofScaled n places).fraction ≠ [] := by
      intro nil
      rw [nil] at last
      cases last
    have trimmed := List.rdropWhile_last_not (· == '0') _ nonempty
    rw [List.getLast?_eq_some_getLast nonempty] at last
    exact trimmed (beq_iff_eq.2 (Option.some.inj last))

end LoxFront.Numeral
