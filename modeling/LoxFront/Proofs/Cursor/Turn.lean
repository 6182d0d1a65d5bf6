import LoxFront.Proofs.Cursor.Stand
import LoxFront.Proofs.Segment.Munch

/-! # Turns of a cursor

What every turn keeps is `Follows`: behind the segments that the cursor has finished the segments of
the source go on with those of the text from its lexeme on, and the lexeme so far is a beginning of
one of the kind that the loop reads.  A loop stops where that segment does not go on, so the cursor
finishes exactly the segments of the source.  There is one lemma for each loop, and
`Follows.exists_turn` collects them: until the cursor is done, it has a turn, which leads on.
-/

namespace LoxFront

namespace Punct

theorem joins_of_withEqual?_eq_none {p : Punct} (short : p.withEqual? = none)
    (notSlash : p ≠ slash) (d : Char) : p.joins d = false := by
  cases p with
  | slash => exact absurd rfl notSlash
  | bang | equal | greater | less => cases short
  | _ => rfl

theorem spelling_of_withEqual? {p longer : Punct} (h : p.withEqual? = some longer) :
    longer.spelling = p.spelling ++ ['='] ∧ (∀ d, p.joins d = (d == '=')) ∧
      ∀ d, longer.joins d = false := by
  cases p with
  | bang | equal | greater | less =>
    obtain rfl := Option.some.inj h
    exact ⟨rfl, fun _ => rfl, fun _ => rfl⟩
  | _ => cases h

end Punct

namespace Cursor

/-! ## What a cursor has done -/

/-- What a loop has read of its lexeme, and what is ahead, when its test comes. -/
inductive Reads : Loop → List Char → List Char → Prop where
  | comment {body rest : List Char} (inside : '\n' ∉ body) :
      Reads .comment ('/' :: '/' :: body) rest
  | string {body rest : List Char} (inside : '"' ∉ body) : Reads .string ('"' :: body) rest
  | digits {whole rest : List Char} (wellFormed : Numeral.WellFormed ⟨whole, []⟩) :
      Reads .digits whole rest
  -- The point is taken only with a digit behind it.
  | fraction {n : Numeral} {rest : List Char} (wellFormed : n.WellFormed)
      (opened : n.fraction = [] → rest.head?.any Char.isDigit = true) :
      Reads .fraction (n.whole ++ '.' :: n.fraction) rest
  | word {letters rest : List Char} (wellFormed : (Segment.word letters).WellFormed) :
      Reads .word letters rest

/-- A cursor in a lexeme, behind a row of finished segments. -/
structure Within (source : List Char) (row : List Segment) (s : Cursor) (read rest : List Char) :
    Prop where
  stands : Stands source s (row.flatMap Segment.text) read rest
  cut : segments source = row ++ segments (read ++ rest)
  found : s.found = Placed.found (Placed.layOut .start row)

/-- A cursor that has begun so many lexemes of a source and finished all of them, or all but the one
    that it is in. -/
inductive Follows (source : List Char) : Nat → Cursor → Prop where
  | between {row : List Segment} {s : Cursor} {before read rest : List Char}
      (loop : s.loop = .lexemes) (stands : Stands source s before read rest)
      (spelled : row.flatMap Segment.text = before ++ read)
      (cut : segments source = row ++ segments rest)
      (found : s.found = Placed.found (Placed.layOut .start row))
      (moved : row ≠ [] → read ≠ []) : Follows source row.length s
  | inside {row : List Segment} {s : Cursor} {read rest : List Char}
      (within : Within source row s read rest) (reads : Reads s.loop read rest) :
      Follows source (row.length + 1) s

/-- A turn of a loop that leads on.  It begins a lexeme, or it leaves the start of the lexeme alone;
    and it moves, or it comes back to the loop over the lexemes. -/
structure Turns (source : List Char) (begun : Nat) (s s' : Cursor) : Prop where
  follows : Follows source begun s'
  start_eq : s'.start = if s.loop = .lexemes then s.here else s.start
  onward : s.here.offset < s'.here.offset ∨
    s'.here = s.here ∧ s.loop ≠ .lexemes ∧ s'.loop = .lexemes

section Reads

variable {loop : Loop} {read rest : List Char} (reads : Reads loop read rest)
include reads

theorem Reads.ne_lexemes : loop ≠ .lexemes := by
  cases reads <;> exact Loop.noConfusion

theorem Reads.ne_nil : read ≠ [] := by
  cases reads with
  | digits wellFormed => exact wellFormed.whole_ne_nil
  | word wellFormed => exact wellFormed.text_ne_nil
  | _ => simp

end Reads

/-! ## In a lexeme -/

theorem here_lt_take (c : Char) (s : Cursor) : s.here.offset < (s.take c).here.offset := by
  have positive := Char.utf8Size_pos c
  change _ < s.here.offset + (c.utf8Size + 0)
  omega

namespace Within

variable {source : List Char} {row : List Segment} {s : Cursor} {read rest : List Char}

theorem take {c : Char} {tail : List Char} (within : Within source row s read (c :: tail)) :
    Within source row (s.take c) (read ++ [c]) tail where
  stands := within.stands.take
  cut := by rw [within.cut, List.append_assoc, List.singleton_append]
  found := within.found

theorem enter (within : Within source row s read rest) (loop : Loop) :
    Within source row { s with loop := loop } read rest where
  stands := ⟨within.stands.split, within.stands.start_eq, within.stands.here_eq⟩
  cut := within.cut
  found := within.found

/-- A lexeme that is a whole segment is finished where the segment does not go on. -/
theorem follows_finish (within : Within source row s read rest) (segment : Segment)
    (spelled : segment.text = read) (wellFormed : segment.WellFormed)
    (stops : segment.goesOn rest = false) :
    Follows source (row.length + 1) (s.finish (Placed.found [⟨segment, s.start⟩])) := by
  have finished : (row ++ [segment]).flatMap Segment.text = row.flatMap Segment.text ++ read := by
    rw [List.flatMap_append, List.flatMap_singleton, spelled]
  have cut : segments source = row ++ [segment] ++ segments rest := by
    rw [within.cut, ← spelled, segments_append wellFormed stops, List.append_assoc,
      List.singleton_append]
  have found : (s.finish (Placed.found [⟨segment, s.start⟩])).found =
      Placed.found (Placed.layOut .start (row ++ [segment])) := by
    rw [Placed.layOut_append, Placed.found_append, ← within.found, ← within.stands.start_eq]
    rfl
  have moved : row ++ [segment] ≠ [] → read ≠ [] := fun _ => spelled ▸ wellFormed.text_ne_nil
  have count : (row ++ [segment]).length = row.length + 1 := List.length_append
  rw [← count]
  exact .between rfl (within.stands.finish _) finished cut found moved

end Within

section Inner

variable {source : List Char} {row : List Segment} {s : Cursor} {read rest : List Char}

theorem turns_take {c : Char} {tail : List Char} (within : Within source row s read (c :: tail))
    (inner : s.loop ≠ .lexemes) (reads : Reads s.loop (read ++ [c]) tail) :
    Turns source (row.length + 1) s (s.take c) where
  follows := .inside within.take reads
  start_eq := (if_neg inner).symm
  onward := .inl (here_lt_take c s)

theorem turns_finish (within : Within source row s read rest) (inner : s.loop ≠ .lexemes)
    (segment : Segment) (spelled : segment.text = read) (wellFormed : segment.WellFormed)
    (stops : segment.goesOn rest = false) :
    Turns source (row.length + 1) s (s.finish (Placed.found [⟨segment, s.start⟩])) where
  follows := within.follows_finish segment spelled wellFormed stops
  start_eq := (if_neg inner).symm
  onward := .inr ⟨rfl, inner, rfl⟩

/-- A turn of a loop that passes the characters of a class leads on if it does so behind the last of
    them, and with each of them read the loop reads on. -/
theorem exists_turn_while {p : Char → Bool} {behind : Cursor → Except Misstep Cursor}
    (within : Within source row s read rest) (inner : s.loop ≠ .lexemes)
    (turn_eq : s.turn source = s.turnWhile source p behind) (notLF : p '\n' = false)
    (goesOn : ∀ c tail, rest = c :: tail → p c = true → Reads s.loop (read ++ [c]) tail)
    (stops : rest.head?.any p = false →
      ∃ s', behind s = .ok s' ∧ Turns source (row.length + 1) s s') :
    ∃ s', s.turn source = .ok s' ∧ Turns source (row.length + 1) s s' := by
  have ahead := within.stands.ahead_eq
  rw [turn_eq]
  cases next : rest.head?.any p with
  | true =>
    obtain ⟨c, tail, rfl, inside⟩ := exists_of_head?_any next
    rw [turnWhile_of_goesOn ahead inside, pass_eq_take (ne_of_class inside notLF)]
    exact ⟨_, rfl, turns_take within inner (goesOn c tail rfl inside)⟩
  | false =>
    rw [turnWhile_of_stops ahead next]
    exact stops next

theorem exists_turn_comment {body : List Char}
    (within : Within source row s ('/' :: '/' :: body) rest) (loop : s.loop = .comment)
    (inside : '\n' ∉ body) :
    ∃ s', s.turn source = .ok s' ∧ Turns source (row.length + 1) s s' := by
  have inner : s.loop ≠ .lexemes := loop ▸ Loop.noConfusion
  refine exists_turn_while within inner (by rw [turn, loop]) rfl ?_ ?_
  · intro c tail _ other
    rw [loop]
    exact .comment (by simp [inside, (bne_iff_ne.1 other).symm])
  · intro stops
    exact ⟨_, rfl, turns_finish within inner (.comment body) rfl inside stops⟩

theorem exists_turn_word (within : Within source row s read rest) (loop : s.loop = .word)
    (wellFormed : (Segment.word read).WellFormed) :
    ∃ s', s.turn source = .ok s' ∧ Turns source (row.length + 1) s s' := by
  have inner : s.loop ≠ .lexemes := loop ▸ Loop.noConfusion
  refine exists_turn_while within inner (by rw [turn, loop]) rfl ?_ ?_
  · intro c tail _ part
    obtain ⟨start, parts⟩ := wellFormed
    obtain ⟨d, letters, rfl, start⟩ := exists_of_head?_any start
    rw [loop]
    exact .word ⟨start, forall_mem_concat parts part⟩
  · intro stops
    exact ⟨_, within.stands.endWord_eq,
      turns_finish within inner (.word read) rfl wellFormed stops⟩

/-- A numeral is finished where it does not go on. -/
theorem exists_endNumber (within : Within source row s read rest) (inner : s.loop ≠ .lexemes)
    {n : Numeral} (spelled : n.text = read) (wellFormed : n.WellFormed)
    (stops : n.goesOn rest = false) :
    ∃ s', s.endNumber source = .ok s' ∧ Turns source (row.length + 1) s s' :=
  ⟨_, within.stands.endNumber_eq wellFormed spelled,
    turns_finish within inner (.numeral n) spelled wellFormed stops⟩

theorem exists_turn_fraction {n : Numeral}
    (within : Within source row s (n.whole ++ '.' :: n.fraction) rest) (loop : s.loop = .fraction)
    (wellFormed : n.WellFormed)
    (opened : n.fraction = [] → rest.head?.any Char.isDigit = true) :
    ∃ s', s.turn source = .ok s' ∧ Turns source (row.length + 1) s s' := by
  have inner : s.loop ≠ .lexemes := loop ▸ Loop.noConfusion
  refine exists_turn_while within inner (by rw [turn, loop]) rfl ?_ ?_
  · intro c tail _ digit
    have longer : Numeral.WellFormed ⟨n.whole, n.fraction ++ [c]⟩ :=
      ⟨wellFormed.whole_ne_nil, wellFormed.whole_isDigit,
        forall_mem_concat wellFormed.fraction_isDigit digit⟩
    have reads : Reads .fraction (n.whole ++ '.' :: (n.fraction ++ [c])) tail :=
      .fraction longer (by simp)
    rw [loop, List.append_assoc, List.cons_append]
    exact reads
  · intro stops
    -- There is a digit behind the point by now.
    obtain ⟨whole, fraction⟩ := n
    cases fraction with
    | nil => exact absurd (opened rfl) (Bool.eq_false_iff.1 stops)
    | cons d fraction =>
      refine exists_endNumber within inner rfl wellFormed ?_
      rw [Numeral.goesOn, stops]
      rfl

theorem exists_turn_digits (within : Within source row s read rest) (loop : s.loop = .digits)
    (wellFormed : Numeral.WellFormed ⟨read, []⟩) :
    ∃ s', s.turn source = .ok s' ∧ Turns source (row.length + 1) s s' := by
  have inner : s.loop ≠ .lexemes := loop ▸ Loop.noConfusion
  refine exists_turn_while within inner (by rw [turn, loop]) rfl ?_ ?_
  · intro c tail _ digit
    rw [loop]
    exact .digits ⟨by simp, forall_mem_concat wellFormed.whole_isDigit digit, by simp⟩
  · intro stops
    rw [endDigits, opensFraction_of_ahead within.stands.ahead_eq, ok_bind]
    cases opens : Numeral.opensFraction rest with
    | true =>
      obtain ⟨d, tail, rfl, digit⟩ := Numeral.opensFraction_iff.1 opens
      have point : '.' ≠ '\n' := by decide
      rw [if_pos rfl, advance_of_ahead within.stands.ahead_eq, ok_bind, pass_eq_take point]
      have reads : Reads .fraction (read ++ ['.']) (d :: tail) :=
        .fraction wellFormed fun _ => digit
      exact ⟨_, rfl, .inside (within.take.enter .fraction) reads, (if_neg inner).symm,
        .inl (here_lt_take '.' s)⟩
    | false =>
      rw [if_neg Bool.false_ne_true]
      refine exists_endNumber within inner rfl wellFormed ?_
      rw [Numeral.goesOn, stops, opens]
      rfl

theorem exists_turn_string {body : List Char} (within : Within source row s ('"' :: body) rest)
    (loop : s.loop = .string) (inside : '"' ∉ body) :
    ∃ s', s.turn source = .ok s' ∧ Turns source (row.length + 1) s s' := by
  have inner : s.loop ≠ .lexemes := loop ▸ Loop.noConfusion
  have ahead := within.stands.ahead_eq
  have turn_eq : s.turn source = s.turnString source := by rw [turn, loop]
  rw [turn_eq, turnString, peek_of_ahead ahead, ok_bind]
  cases rest with
  | nil =>
    exact ⟨_, within.stands.endString_of_end,
      turns_finish within inner (.openString body) rfl inside rfl⟩
  | cons c tail =>
    dsimp only [List.head?_cons]
    by_cases quote : c = '"'
    · subst quote
      rw [if_pos rfl]
      have follows := within.take.follows_finish (.string body) rfl inside rfl
      exact ⟨_, within.stands.endString_of_quote, follows, (if_neg inner).symm,
        .inl (here_lt_take '"' s)⟩
    · have reads : Reads s.loop ('"' :: body ++ [c]) tail := by
        rw [loop]
        exact .string (by simp [inside, Ne.symm quote])
      rw [if_neg quote]
      refine ⟨s.take c, ?_, turns_take within inner reads⟩
      by_cases newline : c = '\n'
      · subst newline
        have ahead' : s.newLine.ahead source = .ok ('\n' :: tail) := ahead
        rw [if_pos rfl, advance_of_ahead ahead', ok_bind, pass_newLine]
        rfl
      · rw [if_neg newline, advance_of_ahead ahead, ok_bind, pass_eq_take newline]
        rfl

end Inner

/-! ## The loop over the lexemes -/

/-- What follows the first character of a lexeme leads on: it leaves the start of the lexeme alone
    and does not go back. -/
structure Begins (source : List Char) (begun : Nat) (s s' : Cursor) : Prop where
  follows : Follows source begun s'
  start_eq : s'.start = s.start
  onward : s.here.offset ≤ s'.here.offset

section Begin

variable {source : List Char} {row : List Segment} {s : Cursor} {read rest : List Char}

theorem begins_finish (within : Within source row s read rest) (segment : Segment)
    (spelled : segment.text = read) (wellFormed : segment.WellFormed)
    (stops : segment.goesOn rest = false) :
    Begins source (row.length + 1) s (s.finish (Placed.found [⟨segment, s.start⟩])) :=
  ⟨within.follows_finish segment spelled wellFormed stops, rfl, Nat.le_refl _⟩

theorem begins_enter (within : Within source row s read rest) {loop : Loop}
    (reads : Reads loop read rest) : Begins source (row.length + 1) s { s with loop := loop } :=
  ⟨.inside (within.enter loop) reads, rfl, Nat.le_refl _⟩

theorem Begins.of_take {begun : Nat} {c : Char} {s' : Cursor}
    (begins : Begins source begun (s.take c) s') : Begins source begun s s' :=
  ⟨begins.follows, begins.start_eq, (here_lt_take c s).le.trans begins.onward⟩

/-- A mark that the next character does not go on with is pushed. -/
theorem exists_pushMark {p : Punct} (within : Within source row s p.spelling rest)
    (alone : ∀ d, rest.head? = some d → p.joins d = false) :
    ∃ s', s.pushToken source (.punct p) none = .ok s' ∧ Begins source (row.length + 1) s s' := by
  have stops : (Segment.punct p).goesOn rest = false := by
    cases rest with
    | nil => rfl
    | cons d tail => exact alone d rfl
  exact ⟨_, within.stands.pushToken_eq (.punct p) rfl rfl,
    begins_finish within (.punct p) rfl trivial stops⟩

theorem exists_beginSlash (within : Within source row s ['/'] rest) :
    ∃ s', s.beginSlash source = .ok s' ∧ Begins source (row.length + 1) s s' := by
  have ahead := within.stands.ahead_eq
  by_cases second : rest.head? = some '/'
  · obtain ⟨tail, rfl⟩ := List.head?_eq_some_iff.1 second
    have slash : '/' ≠ '\n' := by decide
    rw [beginSlash, matchChar_of_eq ahead, ok_bind, pass_eq_take slash]
    exact ⟨_, rfl, (begins_enter within.take (.comment List.not_mem_nil)).of_take⟩
  · rw [beginSlash, matchChar_of_ne ahead second, ok_bind]
    refine exists_pushMark within fun d next => ?_
    rw [next] at second
    simpa [Punct.joins] using second

theorem exists_beginMark {p : Punct} (within : Within source row s p.spelling rest)
    (notSlash : p ≠ .slash) :
    ∃ s', s.beginMark source p = .ok s' ∧ Begins source (row.length + 1) s s' := by
  rw [beginMark]
  cases short : p.withEqual? with
  | none =>
    exact exists_pushMark within fun d _ => Punct.joins_of_withEqual?_eq_none short notSlash d
  | some longer =>
    obtain ⟨spelled, joins, last⟩ := Punct.spelling_of_withEqual? short
    have ahead := within.stands.ahead_eq
    dsimp only
    by_cases equal : rest.head? = some '='
    · obtain ⟨tail, rfl⟩ := List.head?_eq_some_iff.1 equal
      have notLF : '=' ≠ '\n' := by decide
      have within' := within.take
      rw [← spelled] at within'
      obtain ⟨s', pushed, begins⟩ := exists_pushMark within' fun d _ => last d
      rw [matchChar_of_eq ahead, ok_bind, pass_eq_take notLF]
      exact ⟨s', pushed, begins.of_take⟩
    · rw [matchChar_of_ne ahead equal, ok_bind]
      refine exists_pushMark within fun d next => ?_
      rw [next] at equal
      simpa [joins] using equal

/-- The character is any but a LF, which ends a line as well. -/
theorem exists_beginWith {c : Char} (within : Within source row s [c] rest) (notLF : c ≠ '\n') :
    ∃ s', s.beginWith source c = .ok s' ∧ Begins source (row.length + 1) s s' := by
  cases mark : Punct.ofSpelling? [c] with
  | some p =>
    have spelled := Punct.ofSpelling?_eq_some_iff.1 mark
    by_cases slash : p = .slash
    · subst slash
      obtain ⟨rfl, -⟩ := List.cons.inj spelled
      exact exists_beginSlash within
    · rw [← spelled] at within
      have begins := exists_beginMark within slash
      have begin_eq : s.beginWith source c = s.beginMark source p := by
        simp only [beginWith, mark]
      rw [begin_eq]
      exact begins
  | none =>
    simp only [beginWith, mark, if_neg notLF]
    by_cases blank : isBlank c = true
    · rw [if_pos blank]
      exact ⟨_, rfl, begins_finish within (.blank c) rfl blank rfl⟩
    rw [if_neg blank]
    by_cases quote : c = '"'
    · subst quote
      exact ⟨_, rfl, begins_enter within (.string List.not_mem_nil)⟩
    rw [if_neg quote]
    by_cases digit : c.isDigit = true
    · rw [if_pos digit]
      exact ⟨_, rfl, begins_enter within (.digits ⟨by simp, by simpa using digit, by simp⟩)⟩
    rw [if_neg digit]
    by_cases start : isWordStart c = true
    · rw [if_pos start]
      have part := isWordPart_of_isWordStart start
      exact ⟨_, rfl, begins_enter within (.word ⟨start, by simpa using part⟩)⟩
    rw [if_neg start]
    have strange : startsNothing c = true := by
      simp [startsNothing, notLF, blank, quote, digit, start, mark]
    exact ⟨_, congrArg Except.ok (within.stands.report_stray notLF),
      begins_finish within (.stray c) rfl strange rfl⟩

theorem exists_turn_lexemes (within : Within source row s.restart [] rest)
    (between : s.loop = .lexemes) (notDone : rest ≠ []) :
    ∃ s', s.turn source = .ok s' ∧ Turns source (row.length + 1) s s' := by
  obtain ⟨c, tail, rfl⟩ := List.exists_cons_of_ne_nil notDone
  have turn_eq : s.turn source = (s.restart.pass c).beginWith source c := by
    rw [turn, between]
    change s.restart.beginLexeme source = _
    rw [beginLexeme, advance_of_ahead within.stands.ahead_eq, ok_bind]
  -- It is left to say that the lexeme leads on behind its first character.
  suffices begins : ∃ s', (s.restart.pass c).beginWith source c = .ok s' ∧
      Begins source (row.length + 1) (s.restart.take c) s' by
    obtain ⟨s', begun, begins⟩ := begins
    refine ⟨s', turn_eq.trans begun, begins.follows, ?_, .inl ?_⟩
    · rw [if_pos between, begins.start_eq]
      rfl
    · exact Nat.lt_of_lt_of_le (here_lt_take c s.restart) begins.onward
  by_cases newline : c = '\n'
  · subst newline
    have skipped : (s.restart.pass '\n').beginWith source '\n' =
        .ok (s.restart.pass '\n').newLine.skip := rfl
    rw [skipped, newLine_pass]
    exact ⟨_, rfl, begins_finish within.take .newline rfl trivial rfl⟩
  · rw [pass_eq_take newline]
    exact exists_beginWith within.take newline

end Begin

/-! ## All loops -/

theorem isDone_iff {source : List Char} {s : Cursor} {before read rest : List Char}
    (stands : Stands source s before read rest) (between : s.loop = .lexemes) :
    s.isDone source = true ↔ rest = [] := by
  rw [isDone, between, ← stands.atEnd_iff]
  simp

/-- A cursor that follows its source has a turn that leads on, until it is done. -/
theorem Follows.exists_turn {source : List Char} {begun : Nat} {s : Cursor}
    (follows : Follows source begun s) (notDone : s.isDone source = false) :
    ∃ s', s.turn source = .ok s' ∧
      Turns source (if s.loop = .lexemes then begun + 1 else begun) s s' := by
  cases follows with
  | @between row _ before read rest loop stands spelled cut found moved =>
    have within : Within source row s.restart [] rest := by
      refine ⟨⟨?_, ?_, rfl⟩, cut, found⟩
      · rw [stands.split, spelled, List.nil_append, List.append_assoc]
      · rw [restart, stands.here_eq, stands.start_eq, spelled, Place.after_append]
    have goesOn : rest ≠ [] := by
      intro none
      rw [(isDone_iff stands loop).2 none] at notDone
      cases notDone
    rw [if_pos loop]
    exact exists_turn_lexemes within loop goesOn
  | @inside row _ read rest within reads =>
    rw [if_neg reads.ne_lexemes]
    generalize loop : s.loop = l at reads
    cases reads with
    | comment inside => exact exists_turn_comment within loop inside
    | string inside => exact exists_turn_string within loop inside
    | digits wellFormed => exact exists_turn_digits within loop wellFormed
    | fraction wellFormed opened => exact exists_turn_fraction within loop wellFormed opened
    | word wellFormed => exact exists_turn_word within loop wellFormed

end Cursor

end LoxFront
