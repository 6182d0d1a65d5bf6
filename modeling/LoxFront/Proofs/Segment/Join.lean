import LoxFront.Proofs.Segment.Shape

/-! # Texts with more text behind them

What becomes of the segments of a text when more text is put behind it.  A segment looks at no more
than two characters of what follows it, and at the second one only behind a point, so almost all
segments of the text stay (`exists_common_segments`).

A separator is a blank or a LF.  It stands in no token but a string, so it ends every segment in
front of it but a comment, which only a LF ends, and an open string, which nothing ends
(`segments_append_of_isEndedBy`).
-/

namespace LoxFront

/-! ## What more text can change -/

/-- The point behind a whole part may turn out to open a fraction. -/
theorem Numeral.eq_point_of_goesOn_append {n : Numeral} {c : Char} {tail more : List Char}
    (stops : n.goesOn (c :: tail) = false) (goesOn : n.goesOn (c :: (tail ++ more)) = true) :
    c :: tail = ['.'] := by
  simp only [Numeral.goesOn, List.head?_cons, Bool.or_eq_false_iff] at stops
  simp only [Numeral.goesOn, List.head?_cons, Bool.or_eq_true] at goesOn
  obtain ⟨noDigit, noFraction⟩ := stops
  -- The first character behind the numeral is the same, so it is no digit.
  have fraction := goesOn.resolve_left (Bool.eq_false_iff.1 noDigit)
  obtain ⟨whole, opens⟩ := Bool.and_eq_true_iff.1 fraction
  rw [whole, Bool.true_and] at noFraction
  obtain ⟨d, others, split, digit⟩ := opensFraction_iff.1 opens
  obtain ⟨rfl, behind⟩ := List.cons.inj split
  cases tail with
  | nil => rfl
  | cons e tail =>
    obtain ⟨rfl, -⟩ := List.cons.inj behind
    have opened := opensFraction_iff.2 ⟨e, tail, rfl, digit⟩
    exact absurd (noFraction.symm.trans opened) Bool.false_ne_true

/-- Whether a segment is a string that is never closed. -/
def Segment.isOpen : Segment → Bool
  | openString _ => true
  | _ => false

namespace Segment

/-- A segment that has stopped goes on into more text only if it is the last one, or if nothing but
    a point stands behind it. -/
theorem rest_of_goesOn_append {s : Segment} {rest more : List Char} (stops : s.goesOn rest = false)
    (goesOn : s.goesOn (rest ++ more) = true) : rest = [] ∨ rest = ['.'] := by
  cases rest with
  | nil => exact .inl rfl
  | cons c tail =>
    cases s with
    | numeral n => exact .inr (Numeral.eq_point_of_goesOn_append stops goesOn)
    -- The others look at the first character only.
    | _ => exact absurd (stops.symm.trans goesOn) Bool.false_ne_true

theorem rest_of_isOpen {s : Segment} {rest : List Char} (isOpen : s.isOpen = true)
    (stops : s.goesOn rest = false) : rest = [] := by
  cases s with
  | openString body => simpa [goesOn] using stops
  | _ => exact absurd isOpen Bool.false_ne_true

end Segment

/-- The segments of a text and of a longer one have a common beginning, in which no string is open.
    What the text has behind it is at most its last segment, or its last two if it ends in a point,
    and holds no stray character. -/
theorem exists_common_segments (text more : List Char) :
    ∃ common last, segments text = common ++ last ∧ common <+: segments (text ++ more) ∧
      (∀ s ∈ common, s.isOpen = false) ∧ (∀ c, .stray c ∉ last) ∧
      (last.length ≤ 1 ∨ last.length = 2 ∧ text.getLast? = some '.') := by
  induction text using segments_induction with
  | nil =>
    exact ⟨[], [], segments_nil, List.nil_prefix, by simp, by simp, .inl (Nat.zero_le 1)⟩
  | cons s rest wellFormed stops ih =>
    rw [segments_append wellFormed stops]
    by_cases changes : s.goesOn (rest ++ more) = true ∨ s.isOpen = true
    · have noStray : ∀ c, s ≠ .stray c := by
        rintro c rfl
        exact changes.elim Bool.false_ne_true Bool.false_ne_true
      have few : rest = [] ∨ rest = ['.'] := by
        obtain goesOn | isOpen := changes
        · exact Segment.rest_of_goesOn_append stops goesOn
        · exact .inl (Segment.rest_of_isOpen isOpen stops)
      obtain rfl | rfl := few
      · exact ⟨[], [s], by rw [segments_nil, List.nil_append], List.nil_prefix, by simp,
          fun c member => noStray c (List.mem_singleton.1 member).symm, .inl (Nat.le_refl 1)⟩
      · -- The point is a mark of its own as long as no digit follows it.
        have point : segments ['.'] = [.punct .dot] :=
          segments_eq_iff.2 ⟨rfl, trivial, rfl, trivial⟩
        refine ⟨[], [s, .punct .dot], by rw [point, List.nil_append], List.nil_prefix, by simp,
          ?_, .inr ⟨rfl, List.getLast?_concat⟩⟩
        intro c member
        simp [(noStray c).symm] at member
    · rw [not_or, Bool.not_eq_true, Bool.not_eq_true] at changes
      obtain ⟨goesOn, closed⟩ := changes
      obtain ⟨common, last, split, ⟨behind, longer⟩, allClosed, noStray, few⟩ := ih
      refine ⟨s :: common, last, by rw [split, List.cons_append], ⟨behind, ?_⟩,
        List.forall_mem_cons.2 ⟨closed, allClosed⟩, noStray, ?_⟩
      · rw [List.append_assoc, segments_append wellFormed goesOn, ← longer, List.cons_append]
      · refine few.imp_right fun two => ⟨two.1, ?_⟩
        rw [List.getLast?_append, two.2, Option.some_or]

/-! ## Separators -/

/-- Whether a character is a blank or a LF. -/
def isSeparator (c : Char) : Bool :=
  c == '\n' || isBlank c

theorem newline_or_isBlank {c : Char} (separator : isSeparator c = true) :
    c = '\n' ∨ isBlank c = true := by
  simpa [isSeparator] using separator

theorem isSeparator_iff {c : Char} :
    isSeparator c = true ↔ c = '\n' ∨ c = ' ' ∨ c = '\t' ∨ c = '\r' := by
  simp [isSeparator, isBlank, or_assoc]

namespace Segment

/-- Whether a character ends a segment, whatever stands behind it. -/
def isEndedBy (c : Char) : Segment → Bool
  | openString _ => false
  | comment _ => c == '\n'
  | _ => isSeparator c

theorem isSeparator_of_isEndedBy {s : Segment} {c : Char} (ended : s.isEndedBy c = true) :
    isSeparator c = true := by
  cases s with
  | openString body => exact absurd ended Bool.false_ne_true
  | comment body =>
    have newline : (c == '\n') = true := ended
    rw [isSeparator, newline, Bool.true_or]
  | _ => exact ended

/-- A separator belongs to no segment in front of it. -/
theorem goesOn_separator {s : Segment} {c : Char} (ended : s.isEndedBy c = true)
    (more : List Char) : s.goesOn (c :: more) = false := by
  have separator := isSeparator_iff.1 (isSeparator_of_isEndedBy ended)
  cases s with
  | openString body => exact absurd ended Bool.false_ne_true
  | comment body =>
    have newline : (c == '\n') = true := ended
    simpa [goesOn] using newline
  | punct p => obtain rfl | rfl | rfl | rfl := separator <;> cases p <;> rfl
  | word letters => obtain rfl | rfl | rfl | rfl := separator <;> rfl
  | numeral n =>
    obtain rfl | rfl | rfl | rfl := separator <;>
      simp [goesOn, Numeral.goesOn, Numeral.opensFraction]
  | _ => rfl

/-- Where a segment stops in front of one text and in front of a separator, it stops in front of any
    text that begins like either of the two: whose first character is in no class of characters
    that theirs are not in, and likewise the digit behind a point. -/
theorem goesOn_of_head? {s : Segment} {c : Char} {rest rest' : List Char}
    (ended : s.isEndedBy c = true) (stops : s.goesOn rest = false)
    (head : ∀ p : Char → Bool, p c = false → rest.head?.any p = false →
      rest'.head?.any p = false)
    (fraction : Numeral.opensFraction rest = false → Numeral.opensFraction rest' = false) :
    s.goesOn rest' = false := by
  have outside : s.goesOn [c] = false := goesOn_separator ended []
  cases s with
  | openString body => exact absurd ended Bool.false_ne_true
  | comment body => exact head _ outside stops
  | punct p => exact head _ outside stops
  | word letters => exact head _ outside stops
  | numeral n =>
    obtain ⟨noDigit, noFraction⟩ := Bool.or_eq_false_iff.1 stops
    refine Bool.or_eq_false_iff.2 ⟨head _ (Bool.or_eq_false_iff.1 outside).1 noDigit, ?_⟩
    rw [Bool.and_eq_false_iff] at noFraction ⊢
    exact noFraction.imp_right fraction
  | _ => rfl

/-- Where a segment has stopped, it stops as well in front of the same text with more behind it that
    starts with no digit; if there is nothing in front of that, it must stop there by itself. -/
theorem goesOn_append_cons {s : Segment} {rest : List Char} {c : Char} {more : List Char}
    (stops : s.goesOn rest = false) (alone : rest = [] → s.goesOn (c :: more) = false)
    (noDigit : c.isDigit = false) : s.goesOn (rest ++ c :: more) = false := by
  by_contra goesOn
  rw [Bool.not_eq_false] at goesOn
  obtain rfl | rfl := rest_of_goesOn_append stops goesOn
  · exact Bool.false_ne_true ((alone rfl).symm.trans goesOn)
  · -- Behind a point only a digit could make a difference.
    cases s with
    | numeral n =>
      simp [Segment.goesOn, Numeral.goesOn, Numeral.opensFraction, noDigit] at goesOn
    | _ => exact absurd (stops.symm.trans goesOn) Bool.false_ne_true

theorem goesOn_append_separator {s : Segment} {rest : List Char} {c : Char}
    (stops : s.goesOn rest = false) (ended : s.isEndedBy c = true) (more : List Char) :
    s.goesOn (rest ++ c :: more) = false := by
  have noDigit : c.isDigit = false := by
    obtain rfl | rfl | rfl | rfl := isSeparator_iff.1 (isSeparator_of_isEndedBy ended) <;> rfl
  exact goesOn_append_cons stops (fun _ => goesOn_separator ended more) noDigit

end Segment

/-- Where a character ends all segments of a text, they are not changed by what it starts. -/
theorem segments_append_of_isEndedBy {text : List Char} {c : Char}
    (ended : ∀ s ∈ segments text, s.isEndedBy c = true) (more : List Char) :
    segments (text ++ c :: more) = segments text ++ segments (c :: more) := by
  induction text using segments_induction with
  | nil => rw [segments_nil, List.nil_append, List.nil_append]
  | cons s rest wellFormed stops ih =>
    rw [segments_append wellFormed stops] at ended ⊢
    obtain ⟨first, others⟩ := List.forall_mem_cons.1 ended
    have stays := Segment.goesOn_append_separator stops first more
    rw [List.append_assoc, segments_append wellFormed stays, ih others, List.cons_append]

end LoxFront
