import LoxFront.Segment.Basic

/-! # Cutting a text into segments

The first segment of a text is the longest one that its beginning allows: a run goes on while it
can, and a punctuation mark of two characters is preferred to one of a single character.  Nothing
is skipped and nothing is read twice (`text_cut`), so the segments of a text spell it
(`flatMap_text_segments`).
-/

namespace LoxFront

/-! ## Character classes -/

/-- Whether a character separates tokens without ending a line. -/
def isBlank (c : Char) : Bool :=
  c == ' ' || c == '\t' || c == '\r'

def isWordStart (c : Char) : Bool :=
  c == '_' || c.isAlpha

def isWordPart (c : Char) : Bool :=
  c == '_' || c.isAlphanum

theorem isWordPart_of_isWordStart {c : Char} (h : isWordStart c = true) : isWordPart c = true := by
  simp [isWordStart, isWordPart, Char.isAlphanum] at h ⊢
  exact h.imp_right .inl

/-! ## The longest beginnings -/

/-- The fraction that the point at the front of a text starts.  Without a digit after it the point
    is left alone. -/
def Numeral.cutFraction : List Char → List Char × List Char
  | [] => ([], [])
  | c :: tail =>
      if c = '.' ∧ tail.takeWhile Char.isDigit ≠ [] then
        (tail.takeWhile Char.isDigit, tail.dropWhile Char.isDigit)
      else ([], c :: tail)

def Numeral.cut (text : List Char) : Numeral × List Char :=
  let fraction := cutFraction (text.dropWhile Char.isDigit)
  (⟨text.takeWhile Char.isDigit, fraction.1⟩, fraction.2)

def Punct.cut? (c : Char) (rest : List Char) : Option (Punct × List Char) :=
  let single := (ofSpelling? [c]).map fun p => (p, rest)
  match rest with
  | [] => single
  | d :: tail => (ofSpelling? [c, d]).elim single fun p => some (p, tail)

theorem Numeral.text_cut (text : List Char) :
    (Numeral.cut text).1.text ++ (Numeral.cut text).2 = text := by
  have whole := List.takeWhile_append_dropWhile (p := Char.isDigit) (l := text)
  unfold Numeral.cut
  generalize List.dropWhile Char.isDigit text = rest at whole ⊢
  cases rest with
  | nil => simpa [Numeral.text, cutFraction] using whole
  | cons c tail =>
    have fraction := List.takeWhile_append_dropWhile (p := Char.isDigit) (l := tail)
    by_cases h : c = '.' ∧ tail.takeWhile Char.isDigit ≠ []
    · obtain ⟨rfl, digits⟩ := h
      simp [Numeral.text, cutFraction, digits, fraction, whole]
    · simp only [cutFraction, h, if_false]
      simpa [Numeral.text] using whole

theorem Numeral.text_ne_nil {n : Numeral} (h : n.whole ≠ []) : n.text ≠ [] := by
  unfold Numeral.text
  split <;> simp [h]

theorem Punct.spelling_ne_nil (p : Punct) : p.spelling ≠ [] := by
  cases p <;> simp [spelling]

theorem Punct.spelling_cut? {c : Char} {rest tail : List Char} {p : Punct}
    (h : Punct.cut? c rest = some (p, tail)) : p.spelling ++ tail = c :: rest := by
  -- A mark of one character leaves the whole rest.
  have single : ∀ {q}, ofSpelling? [c] = some q → q.spelling ++ rest = c :: rest := by
    intro q hq
    simp [ofSpelling?_eq_some_iff.1 hq]
  cases rest with
  | nil =>
    obtain ⟨q, hq, he⟩ := Option.map_eq_some_iff.1 h
    obtain ⟨rfl, rfl⟩ := Prod.mk.inj he
    exact single hq
  | cons d rest =>
    simp only [cut?] at h
    cases hd : ofSpelling? [c, d] with
    | none =>
      rw [hd] at h
      obtain ⟨q, hq, he⟩ := Option.map_eq_some_iff.1 h
      obtain ⟨rfl, rfl⟩ := Prod.mk.inj he
      exact single hq
    | some q =>
      rw [hd] at h
      obtain ⟨rfl, rfl⟩ := Prod.mk.inj (Option.some.inj h)
      simp [ofSpelling?_eq_some_iff.1 hd]

namespace Segment

/-- The string that a quote opens: up to the next quote, or to the end if there is none. -/
def cutString (rest : List Char) : Segment × List Char :=
  let body := rest.takeWhile (· != '"')
  match rest.dropWhile (· != '"') with
  | [] => (openString body, [])
  | _ :: tail => (string body, tail)

/-- Cut the first segment off a text that starts with `c`. -/
def cut (c : Char) (rest : List Char) : Segment × List Char :=
  if c = '\n' then (newline, rest)
  else if isBlank c then (blank c, rest)
  else if c = '"' then cutString rest
  else if c.isDigit then (Numeral.cut (c :: rest)).map numeral id
  else if isWordStart c then
    (word ((c :: rest).takeWhile isWordPart), (c :: rest).dropWhile isWordPart)
  -- Two slashes are a comment, and only a slash that no other follows is a mark.
  else if c = '/' ∧ rest.head? = some '/' then
    (comment (rest.tail.takeWhile (· != '\n')), rest.tail.dropWhile (· != '\n'))
  else ((Punct.cut? c rest).map fun (p, tail) => (punct p, tail)).getD (stray c, rest)

/-! ## The row of segments -/

theorem text_cutString (rest : List Char) :
    (cutString rest).1.text ++ (cutString rest).2 = '"' :: rest := by
  have body := List.takeWhile_append_dropWhile (p := (· != '"')) (l := rest)
  unfold cutString
  split
  · rename_i h
    simpa [h, text] using body
  · rename_i quote tail h
    -- The run in front of it ended, so the character behind the body is the quote.
    have : quote = '"' := by
      have := List.head?_dropWhile_not (· != '"') rest
      simpa [h] using this
    subst this
    simpa [h, text] using body

theorem text_cut (c : Char) (rest : List Char) :
    (cut c rest).1.text ++ (cut c rest).2 = c :: rest := by
  unfold cut
  split
  · rename_i h
    simp [text, h]
  split
  · simp [text]
  split
  · rename_i h
    rw [h, text_cutString]
  split
  · exact Numeral.text_cut (c :: rest)
  split
  · exact List.takeWhile_append_dropWhile
  split
  · rename_i h
    obtain ⟨rfl, h⟩ := h
    obtain ⟨tail, rfl⟩ := List.head?_eq_some_iff.1 h
    simp [text]
  · cases h : Punct.cut? c rest with
    | none => simp [text]
    | some cutting => simpa [text] using Punct.spelling_cut? h

theorem text_cut_ne_nil (c : Char) (rest : List Char) : (cut c rest).1.text ≠ [] := by
  unfold cut
  split
  · simp [text]
  split
  · simp [text]
  split
  · unfold cutString
    split <;> simp [text]
  split
  · rename_i h
    exact Numeral.text_ne_nil (by simp [h])
  split
  · rename_i h
    simp [text, isWordPart_of_isWordStart h]
  split
  · simp [text]
  · cases h : Punct.cut? c rest with
    | none => simp [text]
    | some cutting => simpa [text] using Punct.spelling_ne_nil cutting.1

theorem length_cut_le (c : Char) (rest : List Char) :
    (cut c rest).2.length ≤ rest.length := by
  have h := congrArg List.length (text_cut c rest)
  have := List.length_pos_iff.2 (text_cut_ne_nil c rest)
  simp at h
  omega

end Segment

open Segment in
def segments : List Char → List Segment
  | [] => []
  | c :: rest => (cut c rest).1 :: segments (cut c rest).2
termination_by text => text.length
decreasing_by exact Nat.lt_succ_of_le (length_cut_le c rest)

@[simp] theorem segments_nil : segments [] = [] := by
  rw [segments]

theorem segments_cons (c : Char) (rest : List Char) :
    segments (c :: rest) = (Segment.cut c rest).1 :: segments (Segment.cut c rest).2 := by
  rw [segments]

/-- The segments of a text spell the text. -/
theorem flatMap_text_segments (text : List Char) :
    (segments text).flatMap Segment.text = text := by
  fun_induction segments text with
  | case1 => rfl
  | case2 c rest ih => rw [List.flatMap_cons, ih, Segment.text_cut]

end LoxFront
