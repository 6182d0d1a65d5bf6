import LoxFront.Proofs.Binary64.Display

/-! # Numbers told apart by their display

The display of a number that is no NaN tells the number, its sign and every bit of its magnitude
(`display_injective`).  The sign is the only place for a minus; behind it stands a numeral, which
reads as the magnitude, or the word for the infinity, which is no numeral.
-/

namespace LoxFront

theorem Numeral.text_injective {m n : Numeral} (hm : m.WellFormed) (hn : n.WellFormed)
    (same : m.text = n.text) : m = n := by
  have cut : ∀ {n : Numeral}, n.WellFormed → Numeral.cut n.text = (n, []) := by
    intro n wellFormed
    have alone := cut_text wellFormed (Segment.goesOn_nil (.numeral n))
    rwa [List.append_nil] at alone
  have cuts := cut hm
  rw [same, cut hn] at cuts
  exact (Prod.mk.inj cuts).1.symm

namespace Binary64

theorem wellFormed_numeral (magnitude : Nat) : (numeral magnitude).WellFormed :=
  Numeral.wellFormed_ofScaled _ _

/-- What is displayed of a magnitude, without the sign. -/
def size (magnitude : Nat) : List Char :=
  if magnitude < infinity then (numeral magnitude).text else ['i', 'n', 'f']

theorem display_eq_size {x : Binary64} (number : x.isNaN = false) :
    x.display = (if x.negative then ['-'] else []) ++ size x.magnitude := by
  rw [display, if_neg (Bool.eq_false_iff.1 number), size]
  by_cases finite : x.magnitude < infinity
  · rw [if_pos finite, if_pos (isFinite_iff.2 finite)]
  · rw [if_neg finite, if_neg fun h => finite (isFinite_iff.1 h)]

/-- The characters that numbers are displayed with. -/
def isDisplayed (c : Char) : Bool :=
  c.isDigit || ['.', 'i', 'n', 'f', '-'].contains c

theorem isDisplayed_of_mem_size {magnitude : Nat} {c : Char} (member : c ∈ size magnitude) :
    isDisplayed c = true ∧ c ≠ '-' := by
  unfold size at member
  split at member
  · obtain digit | rfl :=
      Numeral.isDigit_or_point_of_mem_text (wellFormed_numeral magnitude) c member
    · exact ⟨by rw [isDisplayed, digit, Bool.true_or], ne_of_class digit rfl⟩
    · decide
  · simp only [List.mem_cons, List.not_mem_nil, or_false] at member
    obtain rfl | rfl | rfl := member <;> decide

theorem isDisplayed_of_mem_display {x : Binary64} (number : x.isNaN = false) {c : Char}
    (member : c ∈ x.display) : isDisplayed c = true := by
  rw [display_eq_size number, List.mem_append] at member
  obtain sign | rest := member
  · split at sign
    · obtain rfl := List.mem_singleton.1 sign
      rfl
    · exact absurd sign List.not_mem_nil
  · exact (isDisplayed_of_mem_size rest).1

/-- No finite number is displayed like the infinity. -/
theorem text_numeral_ne (magnitude : Nat) : (numeral magnitude).text ≠ ['i', 'n', 'f'] := by
  intro same
  have letter : 'i' ∈ (numeral magnitude).text := by
    rw [same]
    exact List.mem_cons_self
  have outside := Numeral.isDigit_or_point_of_mem_text (wellFormed_numeral magnitude) 'i' letter
  exact absurd outside (by decide)

theorem numeral_injective {m n : Nat} (hm : m ≤ infinity) (hn : n ≤ infinity)
    (same : (numeral m).text = (numeral n).text) : m = n := by
  have numerals : numeral m = numeral n :=
    Numeral.text_injective (wellFormed_numeral m) (wellFormed_numeral n) same
  rw [← nearest_numeral hm, numerals, nearest_numeral hn]

theorem size_injective {m n : Nat} (hm : m ≤ infinity) (hn : n ≤ infinity)
    (same : size m = size n) : m = n := by
  unfold size at same
  split at same <;> split at same
  · exact numeral_injective hm hn same
  · exact absurd same (text_numeral_ne m)
  · exact absurd same.symm (text_numeral_ne n)
  · omega

theorem magnitude_le_infinity {x : Binary64} (number : x.isNaN = false) :
    x.magnitude ≤ infinity := by
  rw [isNaN, decide_eq_false_iff_not] at number
  exact Nat.le_of_not_lt number

/-- Numbers that are displayed alike are the same number, to the bit, unless they are NaNs. -/
theorem display_injective {x y : Binary64} (hx : x.isNaN = false) (hy : y.isNaN = false)
    (same : x.display = y.display) : x = y := by
  have noSign : ∀ {m : Nat} {rest : List Char}, size m ≠ '-' :: rest := by
    intro m rest signed
    have sign : '-' ∈ size m := signed ▸ List.mem_cons_self
    exact (isDisplayed_of_mem_size sign).2 rfl
  rw [display_eq_size hx, display_eq_size hy] at same
  have sizes : x.negative = y.negative ∧ size x.magnitude = size y.magnitude := by
    cases hs : x.negative <;> cases ht : y.negative <;> rw [hs, ht] at same
    · exact ⟨rfl, same⟩
    · exact absurd same noSign
    · exact absurd same.symm noSign
    · exact ⟨rfl, (List.cons.inj same).2⟩
  have magnitudes := size_injective (magnitude_le_infinity hx) (magnitude_le_infinity hy) sizes.2
  obtain ⟨negative, magnitude, _⟩ := x
  obtain ⟨negative', magnitude', _⟩ := y
  obtain rfl : negative = negative' := sizes.1
  obtain rfl : magnitude = magnitude' := magnitudes
  rfl

end Binary64

end LoxFront
