import LoxFront.Proofs.Segment.Spelling
import LoxFront.Scan

/-! # Maximal munch

A scan cuts its source into units, each the longest beginning of what is left that the languages of
`Spelling` allow.  The argument is by extension: a segment that goes on into the text behind it is
part of a longer one (`exists_longer`), so the beginnings that a language allows lead up to one
that does not go on, and that one is the cut.

* `munches_cut` — one cut.
* `tiles_units_iff` — the units of a source are the one row that maximal munch allows.
* `maximal_munch` — the whole scan, with its tokens.
-/

namespace LoxFront

/-! ## Longer segments -/

theorem forall_mem_concat {p : Char → Bool} {run : List Char} {d : Char}
    (inside : ∀ c ∈ run, p c = true) (last : p d = true) : ∀ c ∈ run ++ [d], p c = true :=
  List.forall_mem_append.2 ⟨inside, List.forall_mem_singleton.2 last⟩

theorem Numeral.WellFormed.exists_longer {n : Numeral} {rest : List Char}
    (wellFormed : n.WellFormed) (goesOn : n.goesOn rest = true) :
    ∃ (n' : Numeral) (rest' : List Char), n'.WellFormed ∧ n'.text ++ rest' = n.text ++ rest ∧
      n.text.length < n'.text.length := by
  obtain ⟨whole, fraction⟩ := n
  obtain ⟨nonempty, wholeDigits, fractionDigits⟩ := wellFormed
  simp only [Numeral.goesOn, Bool.or_eq_true, Bool.and_eq_true, List.isEmpty_iff] at goesOn
  obtain digit | ⟨noFraction, opens⟩ := goesOn
  · -- One more digit, in the fraction if there is one.
    obtain ⟨d, tail, rfl, digit⟩ := exists_of_head?_any digit
    cases fraction with
    | nil =>
      have digits := forall_mem_concat wholeDigits digit
      exact ⟨⟨whole ++ [d], []⟩, tail, ⟨by simp, digits, by simp⟩, by simp [text], by simp [text]⟩
    | cons e fraction =>
      have digits := forall_mem_concat fractionDigits digit
      exact ⟨⟨whole, e :: fraction ++ [d]⟩, tail, ⟨nonempty, wholeDigits, digits⟩, by simp [text],
        by simp [text]⟩
  · obtain ⟨d, tail, rfl, digit⟩ := opensFraction_iff.1 opens
    subst noFraction
    exact ⟨⟨whole, [d]⟩, tail, ⟨nonempty, wholeDigits, by simpa using digit⟩, by simp [text],
      by simp [text]⟩

namespace Segment

/-- A matched segment that goes on into a text is part of a longer one. -/
theorem exists_longer {s : Segment} {rest : List Char} (wellFormed : s.WellFormed)
    (matched : s.isMatched = true) (goesOn : s.goesOn rest = true) :
    ∃ (s' : Segment) (rest' : List Char), s'.WellFormed ∧ s'.isMatched = true ∧
      s'.text ++ rest' = s.text ++ rest ∧ s.text.length < s'.text.length := by
  cases s with
  | blank c => simp [Segment.goesOn] at goesOn
  | newline => simp [Segment.goesOn] at goesOn
  | string body => simp [Segment.goesOn] at goesOn
  | openString body => simp [isMatched] at matched
  | stray c => simp [isMatched] at matched
  | comment body =>
    obtain ⟨d, tail, rfl, other⟩ := exists_of_head?_any goesOn
    refine ⟨comment (body ++ [d]), tail, ?_, rfl, by simp [text], by simp [text]⟩
    have newline : '\n' ≠ d := (bne_iff_ne.1 other).symm
    simpa [WellFormed, newline] using wellFormed
  | word letters =>
    obtain ⟨d, tail, rfl, part⟩ := exists_of_head?_any goesOn
    obtain ⟨start, inside⟩ := wellFormed
    obtain ⟨c, letters, rfl, start⟩ := exists_of_head?_any start
    exact ⟨word (c :: letters ++ [d]), tail, ⟨start, forall_mem_concat inside part⟩, rfl,
      by simp [text], by simp [text]⟩
  | punct p =>
    obtain ⟨d, tail, rfl, joined⟩ := exists_of_head?_any goesOn
    -- A second slash makes a comment, the other four marks become longer ones.
    cases p <;> simp [Punct.joins] at joined <;> subst joined
    case slash => exact ⟨comment [], tail, by simp [WellFormed], rfl, rfl, Nat.lt_add_one 1⟩
    case bang => exact ⟨punct .bangEqual, tail, trivial, rfl, rfl, Nat.lt_add_one 1⟩
    case equal => exact ⟨punct .equalEqual, tail, trivial, rfl, rfl, Nat.lt_add_one 1⟩
    case greater => exact ⟨punct .greaterEqual, tail, trivial, rfl, rfl, Nat.lt_add_one 1⟩
    case less => exact ⟨punct .lessEqual, tail, trivial, rfl, rfl, Nat.lt_add_one 1⟩
  | numeral n =>
    obtain ⟨n', rest', wellFormed', spelled, longer⟩ := wellFormed.exists_longer goesOn
    exact ⟨numeral n', rest', wellFormed', rfl, spelled, longer⟩

/-- A matched segment at the front of a text leads up to one that does not go on. -/
theorem exists_stopping {s : Segment} (rest : List Char) (wellFormed : s.WellFormed)
    (matched : s.isMatched = true) :
    ∃ (s' : Segment) (rest' : List Char), s'.WellFormed ∧ s'.isMatched = true ∧
      s'.goesOn rest' = false ∧ s'.text ++ rest' = s.text ++ rest ∧
      s.text.length ≤ s'.text.length := by
  -- Every longer segment leaves less text behind it.
  induction size : rest.length using Nat.strong_induction_on generalizing s rest with
  | _ n ih =>
    cases goesOn : s.goesOn rest with
    | false => exact ⟨s, rest, wellFormed, matched, goesOn, rfl, Nat.le_refl _⟩
    | true =>
      obtain ⟨s₁, rest₁, wellFormed₁, matched₁, spelled₁, longer⟩ :=
        exists_longer wellFormed matched goesOn
      have sizes := congrArg List.length spelled₁
      simp only [List.length_append] at sizes
      obtain ⟨s₂, rest₂, wellFormed₂, matched₂, stops, spelled₂, atLeast⟩ :=
        ih rest₁.length (by omega) rest₁ wellFormed₁ matched₁ rfl
      exact ⟨s₂, rest₂, wellFormed₂, matched₂, stops, spelled₂.trans spelled₁, by omega⟩

/-- Where a matched segment stands at the front of a text, the cut is matched and at least as
    long. -/
theorem cut_of_matched {s : Segment} {c : Char} {rest tail : List Char}
    (spelled : s.text ++ tail = c :: rest) (wellFormed : s.WellFormed)
    (matched : s.isMatched = true) :
    (cut c rest).1.isMatched = true ∧ s.text.length ≤ (cut c rest).1.text.length := by
  obtain ⟨s', rest', wellFormed', matched', stops, spelled', atLeast⟩ :=
    exists_stopping tail wellFormed matched
  rw [cut_eq_iff.2 ⟨(spelled'.trans spelled).symm, wellFormed', stops⟩]
  exact ⟨matched', atLeast⟩

theorem WellFormed.eq_of_text_eq {s s' : Segment} (wellFormed : s.WellFormed)
    (wellFormed' : s'.WellFormed) (same : s.text = s'.text) : s = s' := by
  have row := segments_append wellFormed s.goesOn_nil
  have row' := segments_append wellFormed' s'.goesOn_nil
  rw [same, row'] at row
  exact (List.cons.inj row).1.symm

end Segment

/-! ## Maximal munch, as a specification -/

namespace Spelling

/-- The longest beginning of a text that is a unit. -/
structure Longest (text u : List Char) : Prop where
  beginning : u <+: text
  mem_unit : u ∈ unit
  longest : ∀ v, v <+: text → v ∈ unit → v.length ≤ u.length

def Unmatched (text : List Char) : Prop :=
  ∀ v, v <+: text → v ∉ unit

/-- What is to be cut off a text: its longest beginning that is a unit; and where there is none,
    the whole text if it starts with a quote, or else one character. -/
inductive Munches : List Char → List Char → Prop where
  | longest {text u : List Char} : Longest text u → Munches text u
  | unclosed {rest : List Char} : Unmatched ('"' :: rest) → Munches ('"' :: rest) ('"' :: rest)
  | stray {c : Char} {rest : List Char} : Unmatched (c :: rest) → c ≠ '"' →
      Munches (c :: rest) [c]

/-- The row of units of a text, each cut off what the ones before it have left. -/
inductive Tiles : List Char → List (List Char) → Prop where
  | nil : Tiles [] []
  | cons {u rest : List Char} {row : List (List Char)} : u ≠ [] → Munches (u ++ rest) u →
      Tiles rest row → Tiles (u ++ rest) (u :: row)

theorem Longest.eq {text u v : List Char} (hu : Longest text u) (hv : Longest text v) : u = v := by
  have atMost := hv.longest u hu.beginning hu.mem_unit
  have atLeast := hu.longest v hv.beginning hv.mem_unit
  exact (List.prefix_of_prefix_length_le hu.beginning hv.beginning atMost).eq_of_length
    (Nat.le_antisymm atMost atLeast)

theorem Munches.eq {text u v : List Char} (hu : Munches text u) (hv : Munches text v) : u = v := by
  cases hu with
  | longest hu =>
    cases hv with
    | longest hv => exact hu.eq hv
    | unclosed none => exact absurd hu.mem_unit (none u hu.beginning)
    | stray none _ => exact absurd hu.mem_unit (none u hu.beginning)
  | unclosed none =>
    cases hv with
    | longest hv => exact absurd hv.mem_unit (none v hv.beginning)
    | unclosed _ => rfl
    | stray _ other => exact absurd rfl other
  | stray none other =>
    cases hv with
    | longest hv => exact absurd hv.mem_unit (none v hv.beginning)
    | unclosed _ => exact absurd rfl other
    | stray _ _ => rfl

theorem Tiles.eq {text : List Char} {row row' : List (List Char)} (h : Tiles text row)
    (h' : Tiles text row') : row = row' := by
  induction h generalizing row' with
  | nil =>
    generalize empty : ([] : List Char) = text at h'
    cases h' with
    | nil => rfl
    | cons nonempty _ _ => exact absurd (List.nil_eq_append_iff.1 empty).1 nonempty
  | @cons u rest row nonempty munches _ ih =>
    generalize whole : u ++ rest = text at h'
    cases h' with
    | nil => exact absurd (List.append_eq_nil_iff.1 whole).1 nonempty
    | cons _ munches' tiles =>
      -- Both rows begin with the same unit, so what they tile behind it is the same.
      rw [← whole] at munches'
      obtain rfl := munches.eq munches'
      obtain rfl := List.append_cancel_left whole
      rw [ih tiles]

end Spelling

/-! ## The scan meets the specification -/

open Spelling

namespace Segment

theorem unmatched_of_cut {c : Char} {rest : List Char} (h : (cut c rest).1.isMatched = false) :
    Unmatched (c :: rest) := by
  rintro v ⟨tail, spelled⟩ isUnit
  obtain ⟨s, wellFormed, matched, rfl⟩ := mem_unit_iff.1 isUnit
  have := (cut_of_matched spelled wellFormed matched).1
  rw [h] at this
  exact Bool.false_ne_true this

theorem munches_cut (c : Char) (rest : List Char) : Munches (c :: rest) (cut c rest).1.text := by
  have spelled := text_cut c rest
  have wellFormed := wellFormed_cut c rest
  have stops := goesOn_cut c rest
  cases matched : (cut c rest).1.isMatched with
  | true =>
    refine .longest ⟨⟨_, spelled⟩, mem_unit_iff.2 ⟨_, wellFormed, matched, rfl⟩, ?_⟩
    rintro v ⟨tail, beginning⟩ isUnit
    obtain ⟨s, wellFormed', matched', rfl⟩ := mem_unit_iff.1 isUnit
    exact (cut_of_matched beginning wellFormed' matched').2
  | false =>
    -- Only an open string and a stray character are not matched.
    have none := unmatched_of_cut matched
    generalize cut c rest = cutting at spelled wellFormed stops matched
    obtain ⟨s, tail⟩ := cutting
    cases s with
    | openString body =>
      obtain rfl : tail = [] := by simpa [goesOn] using stops
      have whole : '"' :: body = c :: rest := by simpa [text] using spelled
      rw [← whole] at none ⊢
      exact .unclosed none
    | stray d =>
      obtain ⟨rfl, rfl⟩ := List.cons.inj spelled
      refine .stray none ?_
      exact ne_of_class (show startsNothing d = true from wellFormed) rfl
    | _ => simp [isMatched] at matched

end Segment

theorem tiles_segments (text : List Char) : Tiles text ((segments text).map Segment.text) := by
  fun_induction segments text with
  | case1 => exact .nil
  | case2 c rest ih =>
    have spelled := Segment.text_cut c rest
    have munches := Segment.munches_cut c rest
    rw [← spelled] at munches ⊢
    exact .cons (Segment.text_cut_ne_nil c rest) munches ih

/-- The units into which a scan cuts its source, in order. -/
def units (source : String) : List (List Char) :=
  (placedSegments source).map fun s => s.segment.text

theorem units_eq (source : String) : units source = (segments source.toList).map Segment.text := by
  rw [← Placed.map_segment_layOut .start (segments source.toList), List.map_map]
  rfl

/-- The units of a source are the one row that maximal munch allows. -/
theorem tiles_units_iff {source : String} {row : List (List Char)} :
    Tiles source.toList row ↔ row = units source := by
  rw [units_eq]
  constructor
  · intro tiles
    exact tiles.eq (tiles_segments source.toList)
  · rintro rfl
    exact tiles_segments source.toList

theorem Spelling.Tiles.flatten_eq {text : List Char} {row : List (List Char)}
    (tiles : Tiles text row) : row.flatten = text := by
  induction tiles with
  | nil => rfl
  | cons _ _ _ ih => rw [List.flatten_cons, ih]

theorem Spelling.Tiles.munches {text u : List Char} {before after : List (List Char)}
    (tiles : Tiles text (before ++ u :: after)) : u ≠ [] ∧ Munches (u ++ after.flatten) u := by
  induction before generalizing text with
  | nil =>
    cases tiles with
    | cons nonempty munches tiles => exact ⟨nonempty, tiles.flatten_eq ▸ munches⟩
  | cons v before ih =>
    cases tiles with
    | cons _ _ tiles => exact ih tiles

/-! ## Tokens -/

/-- The lexemes that a token of the given kind can have. -/
def TokenKind.spellings : TokenKind → Language Char
  | punct p => {p.spelling}
  | identifier => {w | w ∈ Spelling.word ∧ ∀ k : Keyword, k.spelling ≠ w}
  | string => Spelling.string
  | number => Spelling.number
  | keyword k => {k.spelling}
  | endOfText => {[]}

theorem wellFormed_of_fits {row : List Segment} (fits : Fits row) : ∀ s ∈ row, s.WellFormed := by
  induction row with
  | nil => simp
  | cons s row ih => exact List.forall_mem_cons.2 ⟨fits.1, ih fits.2.2⟩

/-- A text is spelled like a token when a scan of it finds one token and nothing else. -/
theorem mem_token_iff_segments {w : List Char} :
    w ∈ Spelling.token ↔ (segments w).map (·.kind?.isSome) = [true] := by
  constructor
  · intro h
    obtain ⟨s, wellFormed, isToken, rfl⟩ := mem_token_iff.1 h
    have row : segments s.text = [s] :=
      segments_eq_iff.2 ⟨List.flatMap_singleton _ s, wellFormed, s.goesOn_nil, trivial⟩
    rw [row, List.map_singleton, isToken]
  · intro h
    obtain ⟨s, row, isToken⟩ := List.map_eq_singleton_iff.1 h
    obtain ⟨spelled, wellFormed, -, -⟩ := segments_eq_iff.1 row
    rw [List.flatMap_singleton] at spelled
    exact mem_token_iff.2 ⟨s, wellFormed, isToken, spelled⟩

instance : DecidablePred (· ∈ Spelling.token) :=
  fun _ => decidable_of_iff _ mem_token_iff_segments.symm

theorem text_mem_token_iff {s : Segment} (wellFormed : s.WellFormed) :
    s.text ∈ Spelling.token ↔ s.kind?.isSome = true := by
  rw [mem_token_iff]
  constructor
  · intro h
    obtain ⟨s', wellFormed', isToken, same⟩ := h
    exact wellFormed.eq_of_text_eq wellFormed' same.symm ▸ isToken
  · intro isToken
    exact ⟨s, wellFormed, isToken, rfl⟩

theorem text_mem_spellings {s : Segment} (wellFormed : s.WellFormed) {kind : TokenKind}
    (h : s.kind? = some kind) : kind ≠ .endOfText ∧ s.text ∈ kind.spellings := by
  cases s with
  | punct p =>
    obtain rfl := Option.some.inj h
    exact ⟨by simp, rfl⟩
  | numeral n =>
    obtain rfl := Option.some.inj h
    exact ⟨by simp, mem_number_iff.2 ⟨n, wellFormed, rfl⟩⟩
  | string body =>
    obtain rfl := Option.some.inj h
    exact ⟨by simp, mem_string_iff.2 ⟨body, wellFormed, rfl⟩⟩
  | word letters =>
    obtain rfl := Option.some.inj h
    cases reserved : Keyword.ofSpelling? letters with
    | some k => exact ⟨by simp, (Keyword.ofSpelling?_eq_some_iff.1 reserved).symm⟩
    | none =>
      refine ⟨by simp, mem_word_iff.2 wellFormed, ?_⟩
      intro k spelled
      have found : Keyword.ofSpelling? letters = some k := Keyword.ofSpelling?_eq_some_iff.2 spelled
      rw [reserved] at found
      simp at found
  | _ => simp [Segment.kind?] at h

/-- The tokens of a row of well-formed segments have, in order, the texts that are spelled like
    tokens for their lexemes. -/
theorem lexemes_layOut {row : List Segment} (wellFormed : ∀ s ∈ row, s.WellFormed) (p : Place) :
    ((Placed.layOut p row).filterMap Placed.token?).map (·.lexeme.toList) =
      (row.map Segment.text).filter (· ∈ Spelling.token) := by
  induction row generalizing p with
  | nil => rfl
  | cons s row ih =>
    obtain ⟨first, others⟩ := List.forall_mem_cons.1 wellFormed
    -- The segment is kept by both filters or by neither.
    have isToken := text_mem_token_iff first
    have ih := ih others (p.after s.text)
    cases kind : s.kind? with
    | none => simp_all [Placed.layOut, Placed.token?, Segment.token?]
    | some k => simp_all [Placed.layOut, Placed.token?, Segment.token?]

/-- A scan cuts its source into non-empty units without gap or overlap.  Each is the longest
    beginning of what is left that is spelled like a token, a comment or a separator; where there
    is none, it is all that is left behind a quote, and one character otherwise.  No other row
    of units is so.  The tokens are the units that are spelled like tokens, in order, each of a
    kind that is spelled so, and behind them one token with an empty lexeme that ends the text. -/
theorem maximal_munch (source : String) :
    (units source).flatten = source.toList ∧
    (∀ (before : List (List Char)) (u : List Char) (after : List (List Char)),
      units source = before ++ u :: after → u ≠ [] ∧ Munches (u ++ after.flatten) u) ∧
    (∀ row, Tiles source.toList row → row = units source) ∧
    ∃ tokens : List Token, (scan source).tokens = tokens ++ [.endOfText (lastLine source)] ∧
      tokens.map (·.lexeme.toList) = (units source).filter (· ∈ Spelling.token) ∧
      ∀ t ∈ tokens, t.kind ≠ .endOfText ∧ t.lexeme.toList ∈ t.kind.spellings := by
  have tiles : Tiles source.toList (units source) := tiles_units_iff.2 rfl
  have wellFormed := wellFormed_of_fits (fits_segments source.toList)
  refine ⟨tiles.flatten_eq, ?_, fun row => tiles_units_iff.1,
    (placedSegments source).filterMap Placed.token?, rfl, ?_, ?_⟩
  · intro before u after split
    exact (split ▸ tiles).munches
  · rw [units_eq]
    exact lexemes_layOut wellFormed .start
  · intro t member
    obtain ⟨s, placed, isToken⟩ := List.mem_filterMap.1 member
    have found : s.segment ∈ segments source.toList := by
      rw [← Placed.map_segment_layOut .start (segments source.toList)]
      exact List.mem_map_of_mem placed
    obtain ⟨kind, hkind, rfl⟩ := Option.map_eq_some_iff.1 isToken
    have spelled := text_mem_spellings (wellFormed s.segment found) hkind
    simpa using spelled

end LoxFront
