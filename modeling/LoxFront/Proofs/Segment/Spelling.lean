import LoxFront.Proofs.Segment.Shape

/-! # How segments are spelled

The spellings of tokens, comments and separators as regular languages, without any mention of how
a text is cut.  The main statements, `mem_unit_iff` and `mem_token_iff`, say that the words of
these languages are the texts of the well-formed segments of the same kinds; the two kinds of
segment that no language matches are left out.
-/

namespace LoxFront

open Computability

namespace Spelling

/-! ## The languages -/

/-- The one-character words over a class of characters. -/
def one (p : Char → Prop) : Language Char :=
  {w | ∃ c, p c ∧ w = [c]}

/-- The marks: `( ) { } , . - + ; * / ! != = == < <= > >=`. -/
def mark : Language Char :=
  {w | w ∈ [['('], [')'], ['{'], ['}'], [','], ['.'], ['-'], ['+'], [';'], ['*'], ['/'],
    ['!'], ['!', '='], ['='], ['=', '='], ['<'], ['<', '='], ['>'], ['>', '=']]}

/-- `[0-9]`. -/
def digit : Language Char :=
  one fun c => '0' ≤ c ∧ c ≤ '9'

/-- `[A-Za-z_]`. -/
def letter : Language Char :=
  one fun c => ('A' ≤ c ∧ c ≤ 'Z') ∨ ('a' ≤ c ∧ c ≤ 'z') ∨ c = '_'

/-- `[0-9]+(\.[0-9]+)?`. -/
def number : Language Char :=
  digit * digit∗ * (1 + {['.']} * (digit * digit∗))

/-- `[A-Za-z_][A-Za-z0-9_]*`. -/
def word : Language Char :=
  letter * (letter + digit)∗

/-- `"[^"]*"`. -/
def string : Language Char :=
  {['"']} * (one (· ≠ '"'))∗ * {['"']}

/-- `//[^\n]*`. -/
def comment : Language Char :=
  {['/', '/']} * (one (· ≠ '\n'))∗

/-- One space, tab, CR or LF. -/
def separator : Language Char :=
  one fun c => c = ' ' ∨ c = '\t' ∨ c = '\r' ∨ c = '\n'

def token : Language Char :=
  mark + number + word + string

/-- The spellings of tokens, comments and separators. -/
def unit : Language Char :=
  token + comment + separator

/-! ## Their words -/

theorem mem_one {p : Char → Prop} {w : List Char} : w ∈ one p ↔ ∃ c, p c ∧ w = [c] :=
  Iff.rfl

theorem mem_kstar_one {p : Char → Prop} {w : List Char} : w ∈ (one p)∗ ↔ ∀ c ∈ w, p c := by
  constructor
  · intro h
    obtain ⟨words, rfl, each⟩ := Language.mem_kstar.1 h
    intro c member
    obtain ⟨v, hv, hc⟩ := List.mem_flatten.1 member
    obtain ⟨d, hd, rfl⟩ := each v hv
    exact List.mem_singleton.1 hc ▸ hd
  · intro h
    -- One word for each character.
    refine Language.mem_kstar.2 ⟨w.map fun c => [c], by simp [← List.flatMap_def], ?_⟩
    intro v member
    obtain ⟨c, hc, rfl⟩ := List.mem_map.1 member
    exact ⟨c, h c hc, rfl⟩

theorem mem_one_mul_kstar {p q : Char → Prop} {w : List Char} :
    w ∈ one p * (one q)∗ ↔ ∃ c rest, w = c :: rest ∧ p c ∧ ∀ d ∈ rest, q d := by
  constructor
  · intro h
    obtain ⟨_, ⟨c, hc, rfl⟩, rest, hrest, rfl⟩ := Language.mem_mul.1 h
    exact ⟨c, rest, rfl, hc, mem_kstar_one.1 hrest⟩
  · intro h
    obtain ⟨c, rest, rfl, hc, hrest⟩ := h
    exact Language.mem_mul.2 ⟨[c], ⟨c, hc, rfl⟩, rest, mem_kstar_one.2 hrest, rfl⟩

theorem isDigit_iff {c : Char} : c.isDigit = true ↔ '0' ≤ c ∧ c ≤ '9' := by
  simp [Char.isDigit, Char.le_def]

theorem isWordStart_iff {c : Char} :
    isWordStart c = true ↔ ('A' ≤ c ∧ c ≤ 'Z') ∨ ('a' ≤ c ∧ c ≤ 'z') ∨ c = '_' := by
  simp only [isWordStart, Char.isAlpha, Char.isUpper, Char.isLower, Bool.or_eq_true,
    Bool.and_eq_true, decide_eq_true_eq, beq_iff_eq, Char.le_def, ge_iff_le]
  tauto

theorem isWordPart_iff {c : Char} :
    isWordPart c = true ↔ isWordStart c = true ∨ c.isDigit = true := by
  simp only [isWordPart, isWordStart, Char.isAlphanum, Bool.or_eq_true]
  tauto

theorem letter_add_digit :
    letter + digit = one fun c => isWordPart c = true := by
  ext w
  simp only [Language.mem_add, letter, digit, mem_one, isWordPart_iff, isWordStart_iff,
    isDigit_iff]
  constructor
  · rintro (⟨c, hc, rfl⟩ | ⟨c, hc, rfl⟩)
    · exact ⟨c, .inl hc, rfl⟩
    · exact ⟨c, .inr hc, rfl⟩
  · rintro ⟨c, hc | hc, rfl⟩
    · exact .inl ⟨c, hc, rfl⟩
    · exact .inr ⟨c, hc, rfl⟩

theorem mem_mark_iff {w : List Char} : w ∈ mark ↔ ∃ p : Punct, p.spelling = w := by
  constructor
  · intro h
    have listed : (Punct.ofSpelling? w).isSome = true := by
      change w ∈ List.cons _ _ at h
      simp only [List.mem_cons, List.not_mem_nil, or_false] at h
      casesm* _ ∨ _ <;> subst w <;> decide
    obtain ⟨p, hp⟩ := Option.isSome_iff_exists.1 listed
    exact ⟨p, Punct.ofSpelling?_eq_some_iff.1 hp⟩
  · intro h
    obtain ⟨p, rfl⟩ := h
    change p.spelling ∈ List.cons _ _
    cases p <;> simp [Punct.spelling]

theorem mem_word_iff {w : List Char} : w ∈ word ↔ (Segment.word w).WellFormed := by
  rw [word, letter_add_digit, letter, mem_one_mul_kstar]
  constructor
  · intro h
    obtain ⟨c, rest, rfl, start, part⟩ := h
    have start := isWordStart_iff.2 start
    refine ⟨start, ?_⟩
    intro d member
    obtain rfl | member := List.mem_cons.1 member
    · exact isWordPart_of_isWordStart start
    · exact part d member
  · intro h
    obtain ⟨start, part⟩ := h
    cases w with
    | nil => simp at start
    | cons c rest =>
      exact ⟨c, rest, rfl, isWordStart_iff.1 start, fun d member => part d (.tail c member)⟩

theorem mem_string_iff {w : List Char} :
    w ∈ string ↔ ∃ body, '"' ∉ body ∧ w = '"' :: (body ++ ['"']) := by
  constructor
  · intro h
    obtain ⟨_, hopen, _, rfl, rfl⟩ := Language.mem_mul.1 h
    obtain ⟨_, rfl, body, hbody, rfl⟩ := Language.mem_mul.1 hopen
    have inside := mem_kstar_one.1 hbody
    exact ⟨body, fun member => inside _ member rfl, rfl⟩
  · intro h
    obtain ⟨body, inside, rfl⟩ := h
    have hbody : body ∈ (one (· ≠ '"'))∗ :=
      mem_kstar_one.2 fun c member equal => inside (equal ▸ member)
    have opened : '"' :: body ∈ ({['"']} : Language Char) * (one (· ≠ '"'))∗ :=
      Language.mem_mul.2 ⟨['"'], rfl, body, hbody, rfl⟩
    exact Language.mem_mul.2 ⟨'"' :: body, opened, ['"'], rfl, rfl⟩

theorem mem_comment_iff {w : List Char} :
    w ∈ comment ↔ ∃ body, '\n' ∉ body ∧ w = '/' :: '/' :: body := by
  constructor
  · intro h
    obtain ⟨_, rfl, body, hbody, rfl⟩ := Language.mem_mul.1 h
    have inside := mem_kstar_one.1 hbody
    exact ⟨body, fun member => inside _ member rfl, rfl⟩
  · intro h
    obtain ⟨body, inside, rfl⟩ := h
    have hbody : body ∈ (one (· ≠ '\n'))∗ :=
      mem_kstar_one.2 fun c member equal => inside (equal ▸ member)
    exact Language.mem_mul.2 ⟨['/', '/'], rfl, body, hbody, rfl⟩

theorem mem_digits_iff {w : List Char} :
    w ∈ digit * digit∗ ↔ w ≠ [] ∧ ∀ c ∈ w, c.isDigit = true := by
  rw [digit, mem_one_mul_kstar]
  simp only [← isDigit_iff]
  constructor
  · intro h
    obtain ⟨c, rest, rfl, head, tail⟩ := h
    exact ⟨List.cons_ne_nil c rest, List.forall_mem_cons.2 ⟨head, tail⟩⟩
  · intro h
    obtain ⟨nonempty, inside⟩ := h
    obtain ⟨c, rest, rfl⟩ := List.exists_cons_of_ne_nil nonempty
    obtain ⟨head, tail⟩ := List.forall_mem_cons.1 inside
    exact ⟨c, rest, rfl, head, tail⟩

theorem mem_number_iff {w : List Char} :
    w ∈ number ↔ ∃ n : Numeral, n.WellFormed ∧ w = n.text := by
  constructor
  · intro h
    obtain ⟨whole, hwhole, fraction, hfraction, rfl⟩ := Language.mem_mul.1 h
    obtain ⟨nonempty, wholeDigits⟩ := mem_digits_iff.1 hwhole
    obtain rfl | hfraction := (Language.mem_add _ _ _).1 hfraction
    · exact ⟨⟨whole, []⟩, ⟨nonempty, wholeDigits, by simp⟩, by simp [Numeral.text]⟩
    · obtain ⟨_, rfl, digits, hdigits, rfl⟩ := Language.mem_mul.1 hfraction
      obtain ⟨some, fractionDigits⟩ := mem_digits_iff.1 hdigits
      refine ⟨⟨whole, digits⟩, ⟨nonempty, wholeDigits, fractionDigits⟩, ?_⟩
      obtain ⟨c, rest, rfl⟩ := List.exists_cons_of_ne_nil some
      rfl
  · intro h
    obtain ⟨⟨whole, fraction⟩, ⟨nonempty, wholeDigits, fractionDigits⟩, rfl⟩ := h
    have hwhole := mem_digits_iff.2 ⟨nonempty, wholeDigits⟩
    cases fraction with
    | nil =>
      exact Language.mem_mul.2 ⟨whole, hwhole, [], .inl rfl, List.append_nil whole⟩
    | cons c rest =>
      have hfraction := mem_digits_iff.2 ⟨List.cons_ne_nil c rest, fractionDigits⟩
      have pointed : '.' :: c :: rest ∈ ({['.']} : Language Char) * (digit * digit∗) :=
        Language.mem_mul.2 ⟨['.'], rfl, c :: rest, hfraction, rfl⟩
      exact Language.append_mem_mul hwhole (.inr pointed)

theorem mem_separator_iff {w : List Char} :
    w ∈ separator ↔ w = ['\n'] ∨ ∃ c, isBlank c = true ∧ w = [c] := by
  simp only [separator, mem_one, isBlank, Bool.or_eq_true, beq_iff_eq]
  constructor
  · rintro ⟨c, rfl | rfl | rfl | rfl, rfl⟩ <;> simp
  · rintro (rfl | ⟨c, (rfl | rfl) | rfl, rfl⟩) <;> simp

/-! ## The segments that they are the texts of -/

end Spelling

/-- Whether a segment is one that a language matches: any but an open string and a stray
    character. -/
def Segment.isMatched : Segment → Bool
  | openString _ | stray _ => false
  | _ => true

namespace Spelling

theorem mem_token_iff {w : List Char} :
    w ∈ token ↔ ∃ s : Segment, s.WellFormed ∧ s.kind?.isSome = true ∧ s.text = w := by
  constructor
  · intro h
    simp only [token, Language.mem_add] at h
    obtain ((h | h) | h) | h := h
    · obtain ⟨p, rfl⟩ := mem_mark_iff.1 h
      exact ⟨.punct p, trivial, rfl, rfl⟩
    · obtain ⟨n, wellFormed, rfl⟩ := mem_number_iff.1 h
      exact ⟨.numeral n, wellFormed, rfl, rfl⟩
    · exact ⟨.word w, mem_word_iff.1 h, rfl, rfl⟩
    · obtain ⟨body, inside, rfl⟩ := mem_string_iff.1 h
      exact ⟨.string body, inside, rfl, rfl⟩
  · intro h
    obtain ⟨s, wellFormed, isToken, rfl⟩ := h
    simp only [token, Language.mem_add]
    cases s with
    | punct p => exact .inl (.inl (.inl (mem_mark_iff.2 ⟨p, rfl⟩)))
    | numeral n => exact .inl (.inl (.inr (mem_number_iff.2 ⟨n, wellFormed, rfl⟩)))
    | word letters => exact .inl (.inr (mem_word_iff.2 wellFormed))
    | string body => exact .inr (mem_string_iff.2 ⟨body, wellFormed, rfl⟩)
    | _ => simp [Segment.kind?] at isToken

/-- The words of the whole language are the texts of the well-formed segments that it
    matches. -/
theorem mem_unit_iff {w : List Char} :
    w ∈ unit ↔ ∃ s : Segment, s.WellFormed ∧ s.isMatched = true ∧ s.text = w := by
  constructor
  · intro h
    simp only [unit, Language.mem_add] at h
    obtain (h | h) | h := h
    · obtain ⟨s, wellFormed, isToken, rfl⟩ := mem_token_iff.1 h
      refine ⟨s, wellFormed, ?_, rfl⟩
      cases s <;> simp_all [Segment.kind?, Segment.isMatched]
    · obtain ⟨body, inside, rfl⟩ := mem_comment_iff.1 h
      exact ⟨.comment body, inside, rfl, rfl⟩
    · obtain rfl | ⟨c, blank, rfl⟩ := mem_separator_iff.1 h
      · exact ⟨.newline, trivial, rfl, rfl⟩
      · exact ⟨.blank c, blank, rfl, rfl⟩
  · intro h
    obtain ⟨s, wellFormed, isMatched, rfl⟩ := h
    simp only [unit, Language.mem_add]
    cases s with
    | blank c => exact .inr (mem_separator_iff.2 (.inr ⟨c, wellFormed, rfl⟩))
    | newline => exact .inr (mem_separator_iff.2 (.inl rfl))
    | comment body => exact .inl (.inr (mem_comment_iff.2 ⟨body, wellFormed, rfl⟩))
    | openString body => simp [Segment.isMatched] at isMatched
    | stray c => simp [Segment.isMatched] at isMatched
    | _ => exact .inl (.inl (mem_token_iff.2 ⟨_, wellFormed, rfl, rfl⟩))

end Spelling

end LoxFront
