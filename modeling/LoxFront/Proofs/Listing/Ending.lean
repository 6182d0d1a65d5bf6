import LoxFront.Proofs.Listing.Diagnose
import LoxFront.Proofs.Segment.Shape

/-! # Line endings

A text in which every CR LF is written as a LF.  It has the same lines in the same order, and each
of them is displayed alike, since what is displayed of a line ends before the CRs at its end: what
stands in front of a place and what is displayed behind it do not change
(`lineBefore_lfEndings`, `shownAfter_lfEndings`).
-/

namespace LoxFront

namespace Text

/-- A text with every CR LF written as a LF. -/
def lfEndings : List Char → List Char
  | '\r' :: '\n' :: rest => '\n' :: lfEndings rest
  | c :: rest => c :: lfEndings rest
  | [] => []

@[simp] theorem lfEndings_nil : lfEndings [] = [] := by
  rw [lfEndings]

@[simp] theorem lfEndings_crlf (rest : List Char) :
    lfEndings ('\r' :: '\n' :: rest) = '\n' :: lfEndings rest := by
  rw [lfEndings]

theorem lfEndings_cons {c : Char} {rest : List Char}
    (apart : c = '\r' → rest.head? ≠ some '\n') :
    lfEndings (c :: rest) = c :: lfEndings rest := by
  rw [lfEndings]
  rintro tail rfl rfl
  exact apart rfl rfl

theorem lfEndings_cons_of_ne {c : Char} (other : c ≠ '\r') (rest : List Char) :
    lfEndings (c :: rest) = c :: lfEndings rest :=
  lfEndings_cons fun cr => absurd cr other

/-- Unless a CR LF stands across them, two texts are written with LFs apart from each other. -/
theorem lfEndings_append {a b : List Char}
    (apart : a.getLast? = some '\r' → b.head? ≠ some '\n') :
    lfEndings (a ++ b) = lfEndings a ++ lfEndings b := by
  fun_induction lfEndings a with
  | case1 rest ih =>
    rw [List.cons_append, List.cons_append, lfEndings_crlf, List.cons_append, ih]
    intro last
    exact apart (by rw [List.getLast?_cons, List.getLast?_cons, last]; rfl)
  | case2 c rest other ih =>
    have first : c = '\r' → (rest ++ b).head? ≠ some '\n' := by
      cases rest with
      | nil => exact fun cr => apart (by rw [cr]; rfl)
      | cons d rest =>
        intro cr head
        obtain rfl : d = '\n' := by simpa using head
        exact other rest cr rfl
    rw [List.cons_append, lfEndings_cons first, List.cons_append, ih]
    intro last
    exact apart (by rw [List.getLast?_cons, last]; rfl)
  | case3 => rfl

/-- A text without a CR stays as it is, whatever stands behind it. -/
theorem lfEndings_append_left {a : List Char} (inside : '\r' ∉ a) (b : List Char) :
    lfEndings (a ++ b) = a ++ lfEndings b := by
  induction a with
  | nil => rfl
  | cons c rest ih =>
    rw [List.mem_cons, not_or] at inside
    rw [List.cons_append, lfEndings_cons_of_ne (Ne.symm inside.1), ih inside.2, List.cons_append]

theorem lfEndings_eq_self {text : List Char} (inside : '\n' ∉ text) : lfEndings text = text := by
  induction text with
  | nil => exact lfEndings_nil
  | cons c rest ih =>
    rw [List.mem_cons, not_or] at inside
    rw [lfEndings_cons, ih inside.2]
    intro _ head
    exact inside.2 (List.mem_of_mem_head? head)

/-- Only CRs are left out. -/
theorem count_lfEndings {c : Char} (other : c ≠ '\r') (text : List Char) :
    (lfEndings text).count c = text.count c := by
  fun_induction lfEndings text with
  | case1 rest ih => simp [List.count_cons, ih, other.symm]
  | case2 d rest _ ih => simp [List.count_cons, ih]
  | case3 => rfl

theorem mem_lfEndings {c : Char} (other : c ≠ '\r') (text : List Char) :
    c ∈ lfEndings text ↔ c ∈ text := by
  rw [← List.count_pos_iff, count_lfEndings other, List.count_pos_iff]

theorem newlines_lfEndings (text : List Char) : newlines (lfEndings text) = newlines text :=
  count_lfEndings (by decide) text

/-- The first character stays or becomes a LF. -/
theorem any_head?_lfEndings {p : Char → Bool} {text : List Char} (newline : p '\n' = false)
    (outside : text.head?.any p = false) : (lfEndings text).head?.any p = false := by
  fun_cases lfEndings text with
  | case1 rest => simpa using newline
  | case2 c rest _ => simpa using outside
  | case3 => rfl

/-! ## Lines -/

theorem lineBefore_eq_self {text : List Char} (inside : '\n' ∉ text) : lineBefore text = text :=
  List.rtakeWhile_eq_self_iff.2 (forall_bne inside)

/-- The last line of a text is decided by its parts. -/
theorem lineBefore_append_congr {a b c d : List Char} (front : lineBefore a = lineBefore c)
    (back : lineBefore b = lineBefore d) (same : '\n' ∈ b ↔ '\n' ∈ d) :
    lineBefore (a ++ b) = lineBefore (c ++ d) := by
  rw [lineBefore_append, lineBefore_append]
  by_cases inside : '\n' ∈ b
  · rw [if_pos inside, if_pos (same.1 inside), back]
  · have inside' : '\n' ∉ d := fun member => inside (same.2 member)
    rw [lineBefore_eq_self inside, lineBefore_eq_self inside'] at back
    rw [if_neg inside, if_neg inside', front, back]

theorem lineBefore_lfEndings (text : List Char) :
    lineBefore (lfEndings text) = lineBefore text := by
  fun_induction lfEndings text with
  | case1 rest ih =>
    exact lineBefore_append_congr (a := ['\n']) (c := ['\r', '\n']) rfl ih
      (mem_lfEndings (by decide) rest)
  | case2 c rest _ ih =>
    exact lineBefore_append_congr (a := [c]) (c := [c]) rfl ih (mem_lfEndings (by decide) rest)
  | case3 => rfl

/-- What a line displays is decided by its first character and by what the rest displays. -/
theorem shownAfter_cons_congr (c : Char) {a b : List Char} (same : shownAfter a = shownAfter b) :
    shownAfter (c :: a) = shownAfter (c :: b) := by
  by_cases newline : c = '\n'
  · subst newline
    rfl
  · have first (rest : List Char) : lineAfter (c :: rest) = c :: lineAfter rest :=
      List.takeWhile_cons_of_pos (by simpa using newline)
    simp only [shownAfter, List.rdropWhile, List.reverse_inj] at same
    simp only [shownAfter, first, List.rdropWhile, List.reverse_cons, List.dropWhile_append, same]

theorem shownAfter_lfEndings (text : List Char) :
    shownAfter (lfEndings text) = shownAfter text := by
  fun_induction lfEndings text with
  | case1 rest ih => rfl
  | case2 c rest _ ih => exact shownAfter_cons_congr c ih
  | case3 => rfl

end Text

theorem Numeral.opensFraction_lfEndings {text : List Char} (closed : opensFraction text = false) :
    opensFraction (Text.lfEndings text) = false := by
  fun_cases Text.lfEndings text with
  | case1 rest => rfl
  | case2 c rest _ =>
    by_cases point : c = '.'
    · subst point
      have noDigit : rest.head?.any Char.isDigit = false := by simpa [opensFraction] using closed
      simp [opensFraction, Text.any_head?_lfEndings rfl noDigit]
    · simp [opensFraction, point]
  | case3 => rfl

end LoxFront
