import LoxFront.Proofs.Binary64.Correct
import LoxFront.Proofs.Binary64.Significant

/-! # Shortest decimals

No numeral that reads as a finite number has fewer significant digits than the one by which the
number is displayed (`Numeral.Shortest`).  What reads as one number is a whole interval of decimals
(`readsBack_of_le_of_le`), so if any multiple of a step reads back, then so does one of the two
beside the exact decimal, and the search does not miss it; with seventeen digits kept one of these
always reads back, because it is near enough (`readsBack_of_near`).
-/

namespace LoxFront

namespace Binary64

/-! ## Decimals that read back -/

section ReadsBack

variable {magnitude a b c n : Nat}

theorem readsBack_iff :
    readsBack magnitude n = true ↔ nearest n (10 ^ places magnitude) = magnitude :=
  beq_iff_eq

/-- What lies between two decimals that read back reads back too. -/
theorem readsBack_of_le_of_le (first : readsBack magnitude a = true)
    (last : readsBack magnitude c = true) (ab : a ≤ b) (bc : b ≤ c) :
    readsBack magnitude b = true := by
  have pos : 0 < 10 ^ places magnitude := Nat.pow_pos (by decide)
  rw [readsBack_iff] at first last ⊢
  refine le_antisymm ?_ ?_
  · exact (nearest_mono pos pos (Nat.mul_le_mul_right _ bc)).trans_eq last
  · exact first.ge.trans (nearest_mono pos pos (Nat.mul_le_mul_right _ ab))

section Ratio

variable {num den : Nat} (pos : 0 < den) (reads : nearest num den = magnitude)
include pos reads

/-- A decimal reads back if it is the same ratio as something that does. -/
theorem readsBack_of_eq (same : n * den = num * 10 ^ places magnitude) :
    readsBack magnitude n = true :=
  readsBack_iff.2 ((nearest_congr same (Nat.pow_pos (by decide)) pos).trans reads)

/-- A decimal reads back if it lies between something that does and the exact decimal. -/
theorem readsBack_of_between (inRange : magnitude ≤ infinity)
    (above : num * 10 ^ places magnitude ≤ n * den) (below : n ≤ decimal magnitude) :
    readsBack magnitude n = true := by
  have unit : 0 < 10 ^ places magnitude := Nat.pow_pos (by decide)
  have exact := readsBack_iff.1 (readsBack_decimal inRange)
  refine readsBack_iff.2 (le_antisymm ?_ ?_)
  · exact (nearest_mono unit unit (Nat.mul_le_mul_right _ below)).trans_eq exact
  · exact reads.ge.trans (nearest_mono pos unit above)

end Ratio

/-- A decimal reads back if it differs from the exact one by less than one part in `2 ^ 54`. -/
theorem readsBack_of_near (inRange : magnitude < infinity)
    (below : 2 ^ 54 * decimal magnitude < 2 ^ 54 * n + decimal magnitude)
    (above : 2 ^ 54 * n < 2 ^ 54 * decimal magnitude + decimal magnitude) :
    readsBack magnitude n = true := by
  have pos : 0 < 10 ^ places magnitude := Nat.pow_pos (by decide)
  have unit : (0 : ℚ) < 2 ^ scale / 10 ^ places magnitude := by positivity
  have exact : (units magnitude : ℚ) = decimal magnitude * (2 ^ scale / 10 ^ places magnitude) := by
    have whole := decimal_mul_two_pow magnitude
    rw [Nat.pow_eq, Nat.pow_eq] at whole
    rw [← mul_div_assoc, eq_div_iff (by positivity)]
    generalize scale = bits at whole ⊢
    exact_mod_cast whole.symm
  have scaled : quantity n (10 ^ places magnitude) = n * (2 ^ scale / 10 ^ places magnitude) := by
    rw [quantity, mul_div_assoc]
    push_cast
    rfl
  have lower : (2 ^ 54 * decimal magnitude : ℚ) < 2 ^ 54 * n + decimal magnitude := by
    exact_mod_cast below
  have upper : (2 ^ 54 * n : ℚ) < 2 ^ 54 * decimal magnitude + decimal magnitude := by
    exact_mod_cast above
  have near : unbounded n (10 ^ places magnitude) = magnitude := by
    refine (nearest_unbounded n pos).eq_of_near ?_ ?_
    · have lower' := mul_lt_mul_of_pos_right lower unit
      rw [exact, scaled]
      linarith
    · have upper' := mul_lt_mul_of_pos_right upper unit
      rw [exact, scaled]
      linarith
  rw [readsBack_iff, nearest_eq_min, near]
  exact Nat.min_eq_left inRange.le

end ReadsBack

/-! ## The multiples beside a number -/

theorem isSome_multipleBeside? {test : Nat → Bool} {exact step : Nat}
    (beside : test (exact / step * step) = true ∨ test (exact / step * step + step) = true) :
    (multipleBeside? test exact step).isSome = true := by
  unfold multipleBeside?
  dsimp only
  split
  · rfl
  · rfl
  · rfl
  next lower upper =>
    rw [lower, upper] at beside
    exact absurd beside (by decide)

variable {magnitude : Nat}

/-- If any multiple of a step reads back, so does one of the two beside the exact decimal. -/
theorem isSome_neighbour? (inRange : magnitude ≤ infinity) {step multiple : Nat} (pos : 0 < step)
    (divides : step ∣ multiple) (reads : readsBack magnitude multiple = true) :
    (neighbour? magnitude step).isSome = true := by
  obtain ⟨k, rfl⟩ := divides
  have self := readsBack_decimal inRange
  have lower_le : decimal magnitude / step * step ≤ decimal magnitude := Nat.div_mul_le_self _ _
  refine isSome_multipleBeside? ?_
  obtain le | gt := le_or_gt k (decimal magnitude / step)
  · left
    refine readsBack_of_le_of_le reads self ?_ lower_le
    rw [Nat.mul_comm]
    exact Nat.mul_le_mul_right step le
  · right
    refine readsBack_of_le_of_le self reads (Nat.lt_div_mul_add pos).le ?_
    rw [← Nat.succ_mul, Nat.mul_comm step]
    exact Nat.mul_le_mul_right step gt

/-! ## The search -/

/-- The number of digits of the exact decimal of a magnitude. -/
def exactDigits (magnitude : Nat) : Nat :=
  (Nat.toDigits 10 (decimal magnitude)).length

/-- What the search finds when it keeps one more digit than `count`. -/
def attempt? (magnitude count : Nat) : Option Nat :=
  neighbour? magnitude (10 ^ (exactDigits magnitude - (count + 1)))

theorem shortest_eq (magnitude : Nat) :
    shortest magnitude =
      ((List.range 17).findSome? (attempt? magnitude)).getD (decimal magnitude) := rfl

theorem exactDigits_pos (magnitude : Nat) : 0 < exactDigits magnitude :=
  List.length_pos_iff.2 Nat.toDigits_ne_nil

theorem decimal_lt (magnitude : Nat) : decimal magnitude < 10 ^ exactDigits magnitude :=
  (Nat.length_toDigits_le_iff (by decide) (exactDigits_pos magnitude)).1 le_rfl

theorem decimal_pos (pos : 0 < magnitude) : 0 < decimal magnitude := by
  have units_pos : 0 < units magnitude := units_strictMono pos
  have product : 0 < units magnitude * Nat.pow 10 (places magnitude) :=
    Nat.mul_pos units_pos (Nat.pow_pos (by decide))
  rw [← decimal_mul_two_pow] at product
  exact Nat.pos_of_mul_pos_right product

theorem pow_le_decimal (pos : 0 < magnitude) :
    10 ^ (exactDigits magnitude - 1) ≤ decimal magnitude := by
  obtain none | some := Nat.eq_zero_or_pos (exactDigits magnitude - 1)
  · rw [none]
    exact decimal_pos pos
  · refine Nat.le_of_not_lt ?_
    rw [← Nat.length_toDigits_le_iff (by decide) some]
    have longer := exactDigits_pos magnitude
    rw [exactDigits] at some ⊢
    omega

/-- The search gives what it finds first, and that is not behind any other attempt. -/
theorem exists_attempt?_eq {count : Nat} (inside : count < 17)
    (isSome : (attempt? magnitude count).isSome = true) :
    ∃ first ≤ count, attempt? magnitude first = some (shortest magnitude) := by
  have found : ((List.range 17).findSome? (attempt? magnitude)).isSome = true :=
    List.findSome?_isSome_iff.2 ⟨count, List.mem_range.2 inside, isSome⟩
  obtain ⟨n, some⟩ := Option.isSome_iff_exists.1 found
  have shortest_eq_n : shortest magnitude = n := by
    rw [shortest_eq, some]
    rfl
  obtain ⟨front, first, behind, range, hit, missed⟩ := List.findSome?_eq_some_iff.1 some
  refine ⟨first, ?_, by rw [hit, shortest_eq_n]⟩
  have ordered := List.pairwise_lt_range (n := 17)
  have member := List.mem_range.2 inside
  rw [range] at ordered member
  obtain early | late := List.mem_append.1 member
  · rw [missed count early] at isSome
    exact absurd isSome Bool.false_ne_true
  · obtain rfl | later := List.mem_cons.1 late
    · exact le_rfl
    · exact (List.rel_of_pairwise_cons (List.pairwise_append.1 ordered).2.1 later).le

/-- An attempt gives a number of as many digits as it keeps, times a power of ten. -/
theorem exists_of_attempt? {count n : Nat} (found : attempt? magnitude count = some n) :
    ∃ a zeros, a < 10 ^ (count + 1) ∧ n = a * 10 ^ zeros := by
  have few : decimal magnitude / 10 ^ (exactDigits magnitude - (count + 1)) < 10 ^ (count + 1) := by
    rw [Nat.div_lt_iff_lt_mul (Nat.pow_pos (by decide)), ← Nat.pow_add]
    exact (decimal_lt magnitude).trans_le (Nat.pow_le_pow_right (by decide) (by omega))
  obtain ⟨-, lower | upper⟩ := of_multipleBeside? found
  · exact ⟨_, _, few, lower⟩
  · rw [← Nat.succ_mul] at upper
    obtain less | carry := lt_or_eq_of_le (Nat.succ_le_of_lt few)
    · exact ⟨_, _, less, upper⟩
    · -- All nines are followed by a power of ten, which has only one significant digit.
      refine ⟨1, count + 1 + (exactDigits magnitude - (count + 1)),
        Nat.one_lt_pow (Nat.succ_ne_zero _) (by decide), ?_⟩
      rw [upper, carry, Nat.one_mul]
      exact (Nat.pow_add ..).symm

/-! ## Digits that suffice -/

/-- With all digits kept, the exact decimal itself is found. -/
theorem isSome_attempt?_of_le (inRange : magnitude ≤ infinity) {count : Nat}
    (all : exactDigits magnitude ≤ count + 1) : (attempt? magnitude count).isSome = true := by
  rw [attempt?, Nat.sub_eq_zero_of_le all]
  exact isSome_neighbour? inRange Nat.one_pos (one_dvd _) (readsBack_decimal inRange)

section Suffice

variable (inRange : magnitude < infinity) (pos : 0 < magnitude)
include inRange pos

/-- With seventeen digits kept, the nearer neighbour of the exact decimal reads back: it is off by
    at most half of the step, and `2 * 10 ^ 16` is more than `2 ^ 54`. -/
theorem isSome_attempt?_sixteen : (attempt? magnitude 16).isSome = true := by
  obtain short | long := le_or_gt (exactDigits magnitude) 17
  · exact isSome_attempt?_of_le inRange.le short
  · have exponent : exactDigits magnitude - 1 = 16 + (exactDigits magnitude - 17) := by omega
    have least := pow_le_decimal pos
    rw [exponent, Nat.pow_add] at least
    have step_pos : 0 < 10 ^ (exactDigits magnitude - 17) := Nat.pow_pos (by decide)
    rw [attempt?]
    generalize 10 ^ (exactDigits magnitude - 17) = step at least step_pos ⊢
    have split := Nat.div_add_mod' (decimal magnitude) step
    have rest := Nat.mod_lt (decimal magnitude) step_pos
    refine isSome_multipleBeside? ?_
    generalize decimal magnitude / step * step = lower at split ⊢
    obtain near | far := le_or_gt (2 * (decimal magnitude % step)) step
    · exact .inl (readsBack_of_near inRange (by omega) (by omega))
    · exact .inr (readsBack_of_near inRange (by omega) (by omega))

/-- If what reads back has some significant digits, as many are enough for the search. -/
theorem isSome_attempt? {a zeros fraction digits : Nat} (few : a < 10 ^ (digits + 1))
    (reads : nearest (a * 10 ^ zeros) (10 ^ fraction) = magnitude) :
    (attempt? magnitude digits).isSome = true := by
  have fraction_pos : 0 < 10 ^ fraction := Nat.pow_pos (by decide)
  obtain all | some := le_or_gt (exactDigits magnitude) (digits + 1)
  · exact isSome_attempt?_of_le inRange.le all
  obtain ⟨more, length⟩ := Nat.exists_eq_add_of_lt some
  have step : exactDigits magnitude - (digits + 1) = more + 1 := by omega
  have first : exactDigits magnitude - 1 = digits + (more + 1) := by omega
  have least := pow_le_decimal pos
  rw [first] at least
  rw [attempt?, step]
  obtain multiple | below := le_or_gt (fraction + (more + 1)) (zeros + places magnitude)
  · obtain ⟨k, exponent⟩ := Nat.exists_eq_add_of_le multiple
    have same : a * 10 ^ k * 10 ^ (more + 1) * 10 ^ fraction =
        a * 10 ^ zeros * 10 ^ places magnitude :=
      calc a * 10 ^ k * 10 ^ (more + 1) * 10 ^ fraction
          = a * 10 ^ (fraction + (more + 1) + k) := by ring
        _ = a * 10 ^ zeros * 10 ^ places magnitude := by rw [← exponent, Nat.pow_add, Nat.mul_assoc]
    exact isSome_neighbour? inRange.le (Nat.pow_pos (by decide)) (Nat.dvd_mul_left _ _)
      (readsBack_of_eq fraction_pos reads same)
  · -- What reads back is below the power of ten that the exact decimal starts with.
    have less : a * 10 ^ zeros * 10 ^ places magnitude ≤
        10 ^ (digits + (more + 1)) * 10 ^ fraction :=
      calc a * 10 ^ zeros * 10 ^ places magnitude
          ≤ 10 ^ (digits + 1) * 10 ^ zeros * 10 ^ places magnitude :=
            Nat.mul_le_mul_right _ (Nat.mul_le_mul_right _ few.le)
        _ = 10 ^ (digits + 1 + (zeros + places magnitude)) := by ring
        _ ≤ 10 ^ (digits + (more + 1) + fraction) := Nat.pow_le_pow_right (by decide) (by omega)
        _ = 10 ^ (digits + (more + 1)) * 10 ^ fraction := Nat.pow_add ..
    exact isSome_neighbour? inRange.le (Nat.pow_pos (by decide))
      (pow_dvd_pow 10 (Nat.le_add_left (more + 1) digits))
      (readsBack_of_between fraction_pos reads inRange.le less least)

end Suffice

/-! ## The shortest numeral -/

theorem shortest_zero : shortest 0 = 0 := by
  decide +kernel

theorem length_significant_numeral {a digits zeros : Nat} (few : a < 10 ^ digits)
    (shortest_eq : shortest magnitude = a * 10 ^ zeros) :
    (numeral magnitude).significant.length ≤ digits := by
  have power : (numeral magnitude).denominator = 10 ^ (numeral magnitude).fraction.length := rfl
  have same : (numeral magnitude).numerator * 10 ^ places magnitude =
      a * 10 ^ (zeros + (numeral magnitude).fraction.length) :=
    calc (numeral magnitude).numerator * 10 ^ places magnitude
        = shortest magnitude * (numeral magnitude).denominator := Numeral.ofScaled_ratio _ _
      _ = a * 10 ^ (zeros + (numeral magnitude).fraction.length) := by
        rw [power, shortest_eq, Nat.mul_assoc, ← Nat.pow_add]
  exact Numeral.length_significant_le (Numeral.wellFormed_ofScaled _ _) few same

/-- No numeral that reads as a finite magnitude has fewer significant digits than the one that is
    written of it. -/
theorem length_significant_numeral_le (inRange : magnitude < infinity) {n : Numeral}
    (wellFormed : n.WellFormed) (reads : nearest n.numerator n.denominator = magnitude) :
    (numeral magnitude).significant.length ≤ n.significant.length := by
  obtain rfl | pos := Nat.eq_zero_or_pos magnitude
  · have few : 0 < 10 ^ 0 := Nat.one_pos
    have none : shortest 0 = 0 * 10 ^ 0 := shortest_zero
    exact (length_significant_numeral few none).trans (Nat.zero_le _)
  obtain ⟨a, zeros, few, numerator⟩ := Numeral.exists_of_significant wellFormed
  have power : n.denominator = 10 ^ n.fraction.length := rfl
  rw [numerator, power] at reads
  have some : n.significant.length ≠ 0 := by
    intro none
    rw [none, Nat.pow_zero, Nat.lt_one_iff] at few
    rw [few, Nat.zero_mul, nearest_zero] at reads
    exact Nat.ne_of_lt pos reads
  obtain ⟨digits, length⟩ := Nat.exists_eq_succ_of_ne_zero some
  rw [length] at few ⊢
  have isSome : (attempt? magnitude (min digits 16)).isSome = true := by
    obtain less | more := Nat.le_total digits 16
    · rw [Nat.min_eq_left less]
      exact isSome_attempt? inRange pos few reads
    · rw [Nat.min_eq_right more]
      exact isSome_attempt?_sixteen inRange pos
  obtain ⟨first, early, found⟩ := exists_attempt?_eq (by omega) isSome
  obtain ⟨b, zeros', few', shortest_eq⟩ := exists_of_attempt? found
  exact (length_significant_numeral few' shortest_eq).trans (by omega)

end Binary64

/-- The numerals that are displayed: they read as the number, no zero in them could be left out, and
    no numeral that reads as the number has fewer significant digits. -/
structure Numeral.Shortest (n : Numeral) (x : Binary64) : Prop where
  wellFormed : n.WellFormed
  canonical : n.Canonical
  value_eq : n.value = x
  least : ∀ m : Numeral, m.WellFormed → m.value = x →
    n.significant.length ≤ m.significant.length

namespace Binary64

theorem exists_shortest_of_display {x : Binary64} (finite : x.isFinite = true)
    (positive : x.negative = false) : ∃ n : Numeral, n.Shortest x ∧ n.text = x.display := by
  have inRange := isFinite_iff.1 finite
  refine ⟨numeral x.magnitude, ?_, (display_eq inRange positive).symm⟩
  exact {
    wellFormed := Numeral.wellFormed_ofScaled _ _
    canonical := Numeral.canonical_ofScaled _ _
    value_eq := ofRatio_eq positive (nearest_numeral inRange.le)
    least := by
      intro m wellFormed value
      exact length_significant_numeral_le inRange wellFormed (congrArg magnitude value) }

end Binary64

end LoxFront
