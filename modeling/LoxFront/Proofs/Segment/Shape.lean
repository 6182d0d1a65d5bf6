import LoxFront.Segment.Cut
import Mathlib

/-! # The shape of segments

What a cut yields, said without the order in which the cut tries its cases.  A segment is well
formed when its own characters are of the right classes, and it goes on into the text behind it
when some of that text belongs to it as well.

* `cut_eq_iff` — a cut is the one way of writing a text as a well-formed segment and a rest into
  which the segment does not go on.
* `segments_eq_iff` — the same for a whole row: the segments of a text are the one row of
  well-formed segments that spells the text and in which none goes on into those behind it.

Nothing after this module needs to know how a cut is computed.
-/

namespace LoxFront

/-! ## Runs of characters -/

section Runs

variable {p : Char → Bool} {run rest : List Char}

theorem takeWhile_run (inside : ∀ c ∈ run, p c = true) (stops : rest.head?.any p = false) :
    (run ++ rest).takeWhile p = run := by
  rw [List.takeWhile_append_of_pos inside]
  cases rest with
  | nil => simp
  | cons c rest =>
    have : p c = false := stops
    simp [this]

theorem dropWhile_run (inside : ∀ c ∈ run, p c = true) (stops : rest.head?.any p = false) :
    (run ++ rest).dropWhile p = rest := by
  have parts : (run ++ rest).takeWhile p ++ (run ++ rest).dropWhile p = run ++ rest :=
    List.takeWhile_append_dropWhile
  rw [takeWhile_run inside stops] at parts
  exact List.append_cancel_left parts

/-- A run ends where the next character is of another class. -/
theorem head?_dropWhile_run (text : List Char) : (text.dropWhile p).head?.any p = false := by
  have := List.head?_dropWhile_not p text
  cases h : (text.dropWhile p).head? with
  | none => rfl
  | some c =>
    rw [h] at this
    simpa using this

theorem exists_of_head?_any (h : rest.head?.any p = true) :
    ∃ c tail, rest = c :: tail ∧ p c = true := by
  cases rest with
  | nil => simp at h
  | cons c tail => exact ⟨c, tail, rfl, h⟩

theorem forall_bne {c : Char} (outside : c ∉ run) : ∀ d ∈ run, (d != c) = true := by
  intro d member
  by_cases same : d = c
  · subst same
    exact absurd member outside
  · simpa using same

end Runs

/-! ## Characters -/

section Classes

variable {p : Char → Bool} {c d : Char}

/-- A class of characters tells one inside from one outside. -/
theorem ne_of_class (inside : p c = true) (outside : p d = false) : c ≠ d := by
  intro same
  subst same
  simp [inside] at outside

theorem isBlank_eq_false (inside : p c = true) (space : p ' ' = false) (cr : p '\r' = false)
    (tab : p '\t' = false) : isBlank c = false := by
  have noSpace := ne_of_class inside space
  have noCR := ne_of_class inside cr
  have noTab := ne_of_class inside tab
  simp [isBlank, noSpace, noCR, noTab]

end Classes

/-- Whether a character starts no segment but a stray one. -/
def startsNothing (c : Char) : Bool :=
  !(c == '\n' || isBlank c || c == '"' || c.isDigit || isWordStart c ||
    (Punct.ofSpelling? [c]).isSome)

/-- The first cases of a cut do not claim a digit. -/
theorem cases_of_isDigit {c : Char} (h : c.isDigit = true) :
    c ≠ '\n' ∧ isBlank c = false ∧ c ≠ '"' :=
  ⟨ne_of_class h rfl, isBlank_eq_false h rfl rfl rfl, ne_of_class h rfl⟩

theorem cases_of_isWordStart {c : Char} (h : isWordStart c = true) :
    c ≠ '\n' ∧ isBlank c = false ∧ c ≠ '"' ∧ c.isDigit = false := by
  have digit : c.isDigit = false := by
    simp only [isWordStart, Bool.or_eq_true, beq_iff_eq] at h
    obtain rfl | alpha := h
    · rfl
    · -- The letters of both cases come behind the digits.
      simp only [Char.isAlpha, Char.isUpper, Char.isLower, Bool.or_eq_true, Bool.and_eq_true,
        decide_eq_true_eq, ge_iff_le, UInt32.le_iff_toNat_le] at alpha
      simp only [Char.isDigit, Bool.and_eq_false_iff, decide_eq_false_iff_not, ge_iff_le,
        UInt32.le_iff_toNat_le]
      simp at alpha ⊢
      omega
  exact ⟨ne_of_class h rfl, isBlank_eq_false h rfl rfl rfl, ne_of_class h rfl, digit⟩

/-! ## Marks -/

namespace Punct

/-- Whether a character right behind a mark makes the two a longer mark, or opens a comment. -/
def joins : Punct → Char → Bool
  | bang, d | equal, d | greater, d | less, d => d == '='
  | slash, d => d == '/'
  | _, _ => false

theorem cases_of_spelling {p : Punct} {c : Char} {rest tail : List Char}
    (h : c :: rest = p.spelling ++ tail) :
    c ≠ '\n' ∧ isBlank c = false ∧ c ≠ '"' ∧ c.isDigit = false ∧ isWordStart c = false := by
  cases p <;> (obtain ⟨rfl, -⟩ := List.cons.inj h; decide)

theorem isSome_ofSpelling?_head {p : Punct} {c : Char} {rest tail : List Char}
    (h : c :: rest = p.spelling ++ tail) : (ofSpelling? [c]).isSome = true := by
  cases p <;> (obtain ⟨rfl, -⟩ := List.cons.inj h; decide)

/-- A pair of characters that is a mark is a shorter mark and a character that joins it. -/
theorem joins_of_spelling_pair {p q : Punct} {c d : Char} (hp : p.spelling = [c])
    (hq : q.spelling = [c, d]) : p.joins d = true := by
  cases q <;> simp [spelling] at hq <;> obtain ⟨rfl, rfl⟩ := hq <;>
    cases p <;> simp_all [spelling, joins]

theorem spelling_eq (p : Punct) : (∃ c, p.spelling = [c]) ∨ ∃ c d, p.spelling = [c, d] := by
  cases p <;> simp [spelling]

theorem cut?_spelling {p : Punct} {c : Char} {rest tail : List Char}
    (h : c :: rest = p.spelling ++ tail) (stops : tail.head?.any p.joins = false) :
    cut? c rest = some (p, tail) := by
  obtain ⟨e, he⟩ | ⟨e, d, he⟩ := p.spelling_eq
  · rw [he, List.singleton_append] at h
    obtain ⟨rfl, rfl⟩ := List.cons.inj h
    have single : ofSpelling? [c] = some p := ofSpelling?_eq_some_iff.2 he
    cases rest with
    | nil => simp [cut?, single]
    | cons d tail =>
      -- The pair is tried first, so it must not be a mark.
      have pair : ofSpelling? [c, d] = none := by
        cases hq : ofSpelling? [c, d] with
        | none => rfl
        | some q =>
          have := joins_of_spelling_pair he (ofSpelling?_eq_some_iff.1 hq)
          simp [this] at stops
      simp [cut?, single, pair]
  · rw [he] at h
    obtain ⟨rfl, rfl⟩ := List.cons.inj h
    have pair : ofSpelling? [c, d] = some p := ofSpelling?_eq_some_iff.2 he
    simp [cut?, pair]

/-- What is left behind a mark does not join it, except that a second slash joins a slash. -/
theorem joins_of_cut? {p : Punct} {c : Char} {rest tail : List Char}
    (h : cut? c rest = some (p, tail)) (slash : ¬(c = '/' ∧ rest.head? = some '/')) :
    tail.head?.any p.joins = false := by
  have text := spelling_cut? h
  cases tail with
  | nil => rfl
  | cons d tail =>
    cases joins : p.joins d with
    | false => exact joins
    | true =>
      -- Then the two make a longer mark, which the cut would have preferred.
      exfalso
      cases p <;> simp [Punct.joins, spelling] at joins text <;> obtain ⟨rfl, rfl⟩ := text <;>
        subst joins <;> simp [cut?, ofSpelling?, all, spelling] at h slash

end Punct

/-! ## Numerals -/

namespace Numeral

/-- A numeral has digits before the point, and digits only on both sides. -/
structure WellFormed (n : Numeral) : Prop where
  whole_ne_nil : n.whole ≠ []
  whole_isDigit : ∀ c ∈ n.whole, c.isDigit = true
  fraction_isDigit : ∀ c ∈ n.fraction, c.isDigit = true

def opensFraction (rest : List Char) : Bool :=
  rest.head? == some '.' && rest.tail.head?.any Char.isDigit

/-- Whether a numeral goes on into a text: into a digit, or from the whole part into a
    fraction. -/
def goesOn (n : Numeral) (rest : List Char) : Bool :=
  rest.head?.any Char.isDigit || (n.fraction.isEmpty && opensFraction rest)

theorem opensFraction_iff {rest : List Char} :
    opensFraction rest = true ↔ ∃ d tail, rest = '.' :: d :: tail ∧ d.isDigit = true := by
  constructor
  · intro h
    simp only [opensFraction, Bool.and_eq_true, beq_iff_eq] at h
    obtain ⟨point, digit⟩ := h
    obtain ⟨tail, rfl⟩ := List.head?_eq_some_iff.1 point
    obtain ⟨d, tail, rfl, digit⟩ := exists_of_head?_any (show tail.head?.any _ = true from digit)
    exact ⟨d, tail, rfl, digit⟩
  · intro h
    obtain ⟨d, tail, rfl, digit⟩ := h
    simpa [opensFraction] using digit

theorem cutFraction_of_not_opens {rest : List Char} (h : opensFraction rest = false) :
    cutFraction rest = ([], rest) := by
  cases rest with
  | nil => rfl
  | cons c tail =>
    have stays : ¬(c = '.' ∧ tail.takeWhile Char.isDigit ≠ []) := by
      intro h
      obtain ⟨rfl, digits⟩ := h
      cases tail with
      | nil => exact digits rfl
      | cons d tail =>
        have : d.isDigit = false := by simpa [opensFraction] using h
        simp [this] at digits
    simp only [cutFraction, stays, if_false]

theorem cutFraction_point {fraction rest : List Char} (nonempty : fraction ≠ [])
    (inside : ∀ c ∈ fraction, c.isDigit = true) (stops : rest.head?.any Char.isDigit = false) :
    cutFraction ('.' :: (fraction ++ rest)) = (fraction, rest) := by
  simp [cutFraction, takeWhile_run inside stops, dropWhile_run inside stops, nonempty]

theorem cut_text {n : Numeral} (wellFormed : n.WellFormed) {rest : List Char}
    (stops : n.goesOn rest = false) : cut (n.text ++ rest) = (n, rest) := by
  obtain ⟨whole, fraction⟩ := n
  obtain ⟨-, wholeDigits, fractionDigits⟩ := wellFormed
  simp only [goesOn, Bool.or_eq_false_iff] at stops
  obtain ⟨noDigit, noFraction⟩ := stops
  cases fraction with
  | nil =>
    simp only [text, cut, takeWhile_run wholeDigits noDigit, dropWhile_run wholeDigits noDigit]
    rw [cutFraction_of_not_opens (by simpa using noFraction)]
  | cons d fraction =>
    have point : ('.' :: (d :: fraction ++ rest)).head?.any Char.isDigit = false := rfl
    have taken := takeWhile_run wholeDigits point
    have dropped := dropWhile_run wholeDigits point
    have joined : text ⟨whole, d :: fraction⟩ ++ rest =
        whole ++ '.' :: (d :: fraction ++ rest) := by simp [text]
    simp only [joined, cut, taken, dropped]
    rw [cutFraction_point (List.cons_ne_nil d fraction) fractionDigits noDigit]

theorem wellFormed_cut {c : Char} (rest : List Char) (digit : c.isDigit = true) :
    (cut (c :: rest)).1.WellFormed := by
  refine ⟨by simp [cut, digit], fun d member => List.mem_takeWhile_imp member, ?_⟩
  intro d member
  unfold cut cutFraction at member
  split at member
  · exact absurd member List.not_mem_nil
  · split at member
    · exact List.mem_takeWhile_imp member
    · exact absurd member List.not_mem_nil

theorem goesOn_cut (text : List Char) : (cut text).1.goesOn (cut text).2 = false := by
  have whole := head?_dropWhile_run (p := Char.isDigit) text
  unfold cut
  generalize text.dropWhile Char.isDigit = rest at whole ⊢
  cases opens : opensFraction rest with
  | false =>
    rw [cutFraction_of_not_opens opens]
    simp [goesOn, whole, opens]
  | true =>
    obtain ⟨d, tail, rfl, digit⟩ := opensFraction_iff.1 opens
    have after := head?_dropWhile_run (p := Char.isDigit) tail
    simp [cutFraction, goesOn, digit, after]

theorem isDigit_or_point_of_mem_text {n : Numeral} (wellFormed : n.WellFormed) :
    ∀ c ∈ n.text, c.isDigit = true ∨ c = '.' := by
  intro c member
  unfold text at member
  split at member
  · exact .inl (wellFormed.whole_isDigit c member)
  · simp only [List.mem_append, List.mem_cons] at member
    obtain whole | point | fraction := member
    · exact .inl (wellFormed.whole_isDigit c whole)
    · exact .inr point
    · exact .inl (wellFormed.fraction_isDigit c fraction)

end Numeral

/-! ## Segments -/

namespace Segment

/-- The characters of a well-formed segment are of the classes that its kind asks for. -/
def WellFormed : Segment → Prop
  | blank c => isBlank c = true
  | newline => True
  | comment body => '\n' ∉ body
  | punct _ => True
  | word letters => letters.head?.any isWordStart = true ∧ ∀ c ∈ letters, isWordPart c = true
  | numeral n => n.WellFormed
  | string body => '"' ∉ body
  | openString body => '"' ∉ body
  | stray c => startsNothing c = true

/-- Whether a segment goes on into the text behind it. -/
def goesOn : Segment → List Char → Bool
  | comment _, rest => rest.head?.any (· != '\n')
  | punct p, rest => rest.head?.any p.joins
  | word _, rest => rest.head?.any isWordPart
  | numeral n, rest => n.goesOn rest
  | openString _, rest => !rest.isEmpty
  | _, _ => false

theorem WellFormed.text_ne_nil {s : Segment} (wellFormed : s.WellFormed) : s.text ≠ [] := by
  cases s with
  | word letters =>
    intro empty
    change letters = [] at empty
    subst empty
    simp [WellFormed] at wellFormed
  | numeral n => exact Numeral.text_ne_nil wellFormed.whole_ne_nil
  | punct p => exact Punct.spelling_ne_nil p
  | _ => simp [text]

theorem goesOn_nil (s : Segment) : s.goesOn [] = false := by
  cases s with
  | numeral n => simp [goesOn, Numeral.goesOn, Numeral.opensFraction]
  | _ => rfl

/-! ### A cut yields a well-formed segment -/

theorem wellFormed_cutString (rest : List Char) : (cutString rest).1.WellFormed := by
  have body : '"' ∉ rest.takeWhile (· != '"') := by
    intro member
    simpa using List.mem_takeWhile_imp member
  unfold cutString
  split <;> exact body

theorem wellFormed_cut (c : Char) (rest : List Char) : (cut c rest).1.WellFormed := by
  -- One split for each case of the cut, in the order in which it tries them.
  unfold cut
  split
  · trivial
  split
  · assumption
  split
  · exact wellFormed_cutString rest
  split
  · rename_i digit
    exact Numeral.wellFormed_cut rest digit
  split
  · rename_i start
    have part := isWordPart_of_isWordStart start
    exact ⟨by simp [part, start], fun d member => List.mem_takeWhile_imp member⟩
  split
  · intro member
    simpa using List.mem_takeWhile_imp member
  · cases h : Punct.cut? c rest with
    | some cutting => trivial
    | none =>
      -- A mark of one character would have been cut off, alone or as part of a longer one.
      have unmarked : Punct.ofSpelling? [c] = none := by
        cases single : Punct.ofSpelling? [c] with
        | none => rfl
        | some p =>
          exfalso
          cases rest with
          | nil => simp [Punct.cut?, single] at h
          | cons d tail => cases pair : Punct.ofSpelling? [c, d] <;> simp_all [Punct.cut?]
      simp_all [WellFormed, startsNothing]

theorem goesOn_cut (c : Char) (rest : List Char) :
    (cut c rest).1.goesOn (cut c rest).2 = false := by
  unfold cut
  split
  · rfl
  split
  · rfl
  split
  · unfold cutString
    split <;> rfl
  split
  · exact Numeral.goesOn_cut (c :: rest)
  split
  · exact head?_dropWhile_run (c :: rest)
  split
  · exact head?_dropWhile_run rest.tail
  · rename_i slash
    cases h : Punct.cut? c rest with
    | none => rfl
    | some cutting => exact Punct.joins_of_cut? h slash

/-! ### Nothing else is cut -/

theorem cutString_closed {body : List Char} (inside : '"' ∉ body) (tail : List Char) :
    cutString (body ++ '"' :: tail) = (string body, tail) := by
  have bodyChars := forall_bne inside
  have quote : ('"' :: tail).head?.any (· != '"') = false := rfl
  simp [cutString, takeWhile_run bodyChars quote, dropWhile_run bodyChars quote]

theorem cutString_open {body : List Char} (inside : '"' ∉ body) :
    cutString body = (openString body, []) := by
  have bodyChars := forall_bne inside
  simp [cutString, List.takeWhile_eq_self_iff.2 bodyChars, List.dropWhile_eq_nil_iff.2 bodyChars]

theorem cut_of_text {s : Segment} {c : Char} {rest tail : List Char}
    (text_eq : c :: rest = s.text ++ tail) (wellFormed : s.WellFormed)
    (stops : s.goesOn tail = false) : cut c rest = (s, tail) := by
  -- Each kind shows that the cases tried before its own do not claim its first character.
  cases s with
  | newline =>
    obtain ⟨rfl, rfl⟩ := List.cons.inj text_eq
    rfl
  | blank b =>
    obtain ⟨rfl, rfl⟩ := List.cons.inj text_eq
    have isBlank : isBlank c = true := wellFormed
    have noNewline : c ≠ '\n' := ne_of_class isBlank rfl
    simp [cut, noNewline, isBlank]
  | string body =>
    have closed : rest = body ++ '"' :: tail := by simpa [text] using (List.cons.inj text_eq).2
    obtain ⟨rfl, -⟩ := List.cons.inj text_eq
    rw [closed]
    exact cutString_closed wellFormed tail
  | openString body =>
    obtain rfl : tail = [] := by simpa [goesOn] using stops
    obtain ⟨rfl, rfl⟩ := List.cons.inj text_eq
    change cutString (body ++ []) = _
    rw [List.append_nil]
    exact cutString_open wellFormed
  | numeral n =>
    have digit : c.isDigit = true := by
      obtain ⟨d, whole, h⟩ := List.exists_cons_of_ne_nil wellFormed.whole_ne_nil
      have head : c = d := by
        simp only [text, Numeral.text] at text_eq
        split at text_eq <;> simp_all
      exact head ▸ wellFormed.whole_isDigit d (by simp [h])
    obtain ⟨noNewline, noBlank, noQuote⟩ := cases_of_isDigit digit
    simp only [cut, noNewline, noBlank, noQuote, digit, if_true, if_false, Bool.false_eq_true]
    rw [text_eq, show (numeral n).text = n.text from rfl, Numeral.cut_text wellFormed stops]
    rfl
  | word letters =>
    obtain ⟨start, part⟩ := wellFormed
    have head : isWordStart c = true := by
      obtain ⟨d, tail, rfl, start⟩ := exists_of_head?_any start
      exact (List.cons.inj text_eq).1 ▸ start
    obtain ⟨noNewline, noBlank, noQuote, noDigit⟩ := cases_of_isWordStart head
    simp only [cut, noNewline, noBlank, noQuote, noDigit, head, if_true, if_false,
      Bool.false_eq_true]
    rw [text_eq, show (word letters).text = letters from rfl, takeWhile_run part stops,
      dropWhile_run part stops]
  | comment body =>
    have bodyChars := forall_bne (show '\n' ∉ body from wellFormed)
    obtain ⟨rfl, rfl⟩ := List.cons.inj text_eq
    have slashes : cut '/' ('/' :: body ++ tail) =
        (comment ((body ++ tail).takeWhile (· != '\n')),
          (body ++ tail).dropWhile (· != '\n')) := rfl
    rw [takeWhile_run bodyChars stops, dropWhile_run bodyChars stops] at slashes
    exact slashes
  | punct p =>
    obtain ⟨noNewline, noBlank, noQuote, noDigit, noStart⟩ := Punct.cases_of_spelling text_eq
    have noComment : ¬(c = '/' ∧ rest.head? = some '/') := by
      intro h
      obtain ⟨rfl, second⟩ := h
      cases p <;> simp [text, Punct.spelling] at text_eq
      subst text_eq
      simp [goesOn, second, Punct.joins] at stops
    simp [cut, noNewline, noBlank, noQuote, noDigit, noStart, noComment,
      Punct.cut?_spelling text_eq stops]
  | stray d =>
    obtain ⟨rfl, rfl⟩ := List.cons.inj text_eq
    simp only [WellFormed, startsNothing, Bool.not_eq_true', Bool.or_eq_false_iff,
      beq_eq_false_iff_ne] at wellFormed
    obtain ⟨⟨⟨⟨⟨noNewline, noBlank⟩, noQuote⟩, noDigit⟩, noStart⟩, noMark⟩ := wellFormed
    have noSlash : c ≠ '/' := by
      intro slash
      subst slash
      simp [show (Punct.ofSpelling? ['/']).isSome = true from rfl] at noMark
    have noCut : Punct.cut? c rest = none := by
      cases h : Punct.cut? c rest with
      | none => rfl
      | some cutting =>
        have := Punct.isSome_ofSpelling?_head (Punct.spelling_cut? h).symm
        simp [this] at noMark
    simp [cut, noNewline, noBlank, noQuote, noDigit, noStart, noSlash, noCut]

/-- A cut is the one way of writing a text as a well-formed segment and a rest into which the
    segment does not go on. -/
theorem cut_eq_iff {c : Char} {rest tail : List Char} {s : Segment} :
    cut c rest = (s, tail) ↔
      c :: rest = s.text ++ tail ∧ s.WellFormed ∧ s.goesOn tail = false := by
  constructor
  · intro h
    have text_eq := text_cut c rest
    have wellFormed := wellFormed_cut c rest
    have stops := goesOn_cut c rest
    rw [h] at text_eq wellFormed stops
    exact ⟨text_eq.symm, wellFormed, stops⟩
  · intro h
    obtain ⟨text_eq, wellFormed, stops⟩ := h
    exact cut_of_text text_eq wellFormed stops

end Segment

/-! ## Rows of segments -/

/-- Every segment of a row is well formed, and none goes on into the text of those behind it. -/
def Fits : List Segment → Prop
  | [] => True
  | s :: row => s.WellFormed ∧ s.goesOn (row.flatMap Segment.text) = false ∧ Fits row

theorem segments_append {s : Segment} (wellFormed : s.WellFormed) {tail : List Char}
    (stops : s.goesOn tail = false) : segments (s.text ++ tail) = s :: segments tail := by
  obtain ⟨c, rest, h⟩ := List.exists_cons_of_ne_nil
    (show s.text ++ tail ≠ [] by simp [wellFormed.text_ne_nil])
  rw [h, segments_cons, Segment.cut_eq_iff.2 ⟨h.symm, wellFormed, stops⟩]

/-- What holds of the empty text, and of a text with one more segment in front that does not go on
    into it, holds of every text. -/
@[elab_as_elim]
theorem segments_induction {motive : List Char → Prop} (text : List Char) (nil : motive [])
    (cons : ∀ (s : Segment) (rest : List Char), s.WellFormed → s.goesOn rest = false →
      motive rest → motive (s.text ++ rest)) : motive text := by
  fun_induction segments text with
  | case1 => exact nil
  | case2 c rest ih =>
    rw [← Segment.text_cut c rest]
    exact cons _ _ (Segment.wellFormed_cut c rest) (Segment.goesOn_cut c rest) ih

theorem fits_segments (text : List Char) : Fits (segments text) := by
  induction text using segments_induction with
  | nil =>
    rw [segments_nil]
    trivial
  | cons s rest wellFormed stops ih =>
    rw [segments_append wellFormed stops]
    refine ⟨wellFormed, ?_, ih⟩
    rw [flatMap_text_segments]
    exact stops

/-- The segments of a text are the one row of well-formed segments that spells it and in which
    none goes on into those behind it. -/
theorem segments_eq_iff {text : List Char} {row : List Segment} :
    segments text = row ↔ row.flatMap Segment.text = text ∧ Fits row := by
  constructor
  · rintro rfl
    exact ⟨flatMap_text_segments text, fits_segments text⟩
  · intro h
    obtain ⟨rfl, fits⟩ := h
    induction row with
    | nil => exact segments_nil
    | cons s row ih =>
      obtain ⟨wellFormed, stops, fits⟩ := fits
      rw [List.flatMap_cons, segments_append wellFormed stops, ih fits]

end LoxFront
