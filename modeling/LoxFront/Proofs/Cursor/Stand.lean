import LoxFront.Proofs.Cursor.Basic
import LoxFront.Proofs.Report.Check

/-! # Cursors that stand in a source

A cursor stands in a source when its two positions divide it in three: what is in front of its
lexeme, what it has read of it, and what is ahead.  Wherever it stands, it sees what is ahead, it
can cut its lexeme out, and it goes on standing when it passes a character.  So nothing that it does
there fails, and each lemma here says what it does instead.
-/

namespace LoxFront

open Text (byteLength newlines sliceBytes?)

namespace Cursor

/-- A cursor that has read a part of a source, with its lexeme behind other text. -/
structure Stands (source : List Char) (s : Cursor) (before read rest : List Char) : Prop where
  split : source = before ++ (read ++ rest)
  start_eq : s.start = Place.start.after before
  here_eq : s.here = s.start.after read

/-- Take a character into the lexeme, with the line that it may end. -/
def take (c : Char) (s : Cursor) : Cursor :=
  { s with here := s.here.after [c] }

theorem pass_eq_take {c : Char} (notLF : c ≠ '\n') (s : Cursor) : s.pass c = s.take c := by
  simp [pass, take, Place.after, notLF]

theorem pass_newLine (s : Cursor) : s.newLine.pass '\n' = s.take '\n' := by
  simp [pass, newLine, take, Place.after]

theorem newLine_pass (s : Cursor) : (s.pass '\n').newLine = s.take '\n' := by
  simp [pass, newLine, take, Place.after]

theorem ok_bind {α β : Type} (a : α) (next : α → Except Misstep β) :
    (Except.ok a >>= next) = next a := rfl

section Ahead

variable {source : List Char} {s : Cursor} {rest : List Char} (ahead : s.ahead source = .ok rest)
include ahead

theorem peek_of_ahead : s.peek source = .ok rest.head? := by
  rw [peek, ahead, ok_bind]
  rfl

theorem peekNext_of_ahead : s.peekNext source = .ok rest.tail.head? := by
  rw [peekNext, ahead, ok_bind]
  rfl

theorem matchChar_of_ne {c : Char} (other : rest.head? ≠ some c) :
    s.matchChar source c = .ok (false, s) := by
  rw [matchChar, peek_of_ahead ahead, ok_bind, if_neg other]
  rfl

theorem opensFraction_of_ahead : s.opensFraction source = .ok (Numeral.opensFraction rest) := by
  rw [opensFraction, peek_of_ahead ahead, peekNext_of_ahead ahead, ok_bind, ok_bind,
    Numeral.opensFraction]
  split
  · rename_i point
    rw [point, beq_self_eq_true, Bool.true_and]
    rfl
  · rename_i other
    rw [beq_eq_false_iff_ne.2 other, Bool.false_and]
    rfl

theorem turnWhile_of_stops {p : Char → Bool} (stops : rest.head?.any p = false)
    (behind : Cursor → Except Misstep Cursor) : s.turnWhile source p behind = behind s := by
  rw [turnWhile, peek_of_ahead ahead, ok_bind, if_neg (Bool.eq_false_iff.1 stops)]

end Ahead

section Passing

variable {source : List Char} {s : Cursor} {c : Char} {tail : List Char}
  (ahead : s.ahead source = .ok (c :: tail))
include ahead

theorem advance_of_ahead : s.advance source = .ok (some c, s.pass c) := by
  rw [advance, peek_of_ahead ahead, ok_bind]
  rfl

theorem matchChar_of_eq : s.matchChar source c = .ok (true, s.pass c) := by
  rw [matchChar, peek_of_ahead ahead, advance_of_ahead ahead, ok_bind, ok_bind, List.head?_cons,
    if_pos rfl]
  rfl

theorem turnWhile_of_goesOn {p : Char → Bool} (inside : p c = true)
    (behind : Cursor → Except Misstep Cursor) : s.turnWhile source p behind = .ok (s.pass c) := by
  have goesOn : (c :: tail).head?.any p = true := inside
  rw [turnWhile, peek_of_ahead ahead, advance_of_ahead ahead, ok_bind, ok_bind, if_pos goesOn]
  rfl

end Passing

namespace Stands

variable {source : List Char} {s : Cursor} {before read rest : List Char}

theorem here_offset (stands : Stands source s before read rest) :
    s.here.offset = byteLength before + byteLength read := by
  rw [stands.here_eq, stands.start_eq, Place.start_after]
  rfl

theorem ahead_eq (stands : Stands source s before read rest) : s.ahead source = .ok rest := by
  have cut : sliceBytes? s.here.offset (byteLength source) source = some rest := by
    refine Text.sliceBytes?_eq_some_iff.2 ⟨before ++ read, [], ?_, ?_, ?_⟩
    · rw [stands.split, List.append_nil, List.append_assoc]
    · rw [stands.here_offset, Text.byteLength_append]
    · rw [stands.here_offset, stands.split, Text.byteLength_append, Text.byteLength_append,
        Nat.add_assoc]
  rw [ahead, slice, cut]
  rfl

theorem slice_lexeme (stands : Stands source s before read rest) :
    sliceBytes? s.start.offset s.here.offset source = some read := by
  refine Text.sliceBytes?_eq_some_iff.2 ⟨before, rest, ?_, ?_, ?_⟩
  · rw [stands.split, List.append_assoc]
  · rw [stands.start_eq, Place.start_after]
  · rw [stands.here_eq]
    rfl

theorem lexeme_eq (stands : Stands source s before read rest) : s.lexeme source = .ok read := by
  rw [lexeme, slice, stands.slice_lexeme]
  rfl

theorem atEnd_iff (stands : Stands source s before read rest) :
    s.atEnd source = true ↔ rest = [] := by
  rw [atEnd, decide_eq_true_eq, stands.here_offset, stands.split, Text.byteLength_append,
    Text.byteLength_append, ← Text.byteLength_eq_zero]
  omega

theorem take {c : Char} {tail : List Char} (stands : Stands source s before read (c :: tail)) :
    Stands source (s.take c) before (read ++ [c]) tail where
  split := by rw [stands.split, List.append_assoc, List.singleton_append]
  start_eq := stands.start_eq
  here_eq := by
    change s.here.after [c] = _
    rw [stands.here_eq, ← Place.after_append]
    rfl

theorem finish (stands : Stands source s before read rest) (found : Scan) :
    Stands source (s.finish found) before read rest :=
  ⟨stands.split, stands.start_eq, stands.here_eq⟩

theorem report_stray {c : Char} (stands : Stands source s before [c] rest) (notLF : c ≠ '\n') :
    s.report (.unexpectedCharacter c s.here.line s.start.offset) =
      s.finish (Placed.found [⟨.stray c, s.start⟩]) := by
  have line : s.here.line = s.start.line := by
    rw [stands.here_eq]
    simp [Place.after, notLF]
  rw [line]
  rfl

/-- The lexeme of a token is pushed with the literal that the token has. -/
theorem pushToken_eq (stands : Stands source s before read rest) (segment : Segment)
    {kind : TokenKind} (spelled : segment.text = read) (isToken : segment.kind? = some kind) :
    s.pushToken source kind segment.literal? =
      .ok (s.finish (Placed.found [⟨segment, s.start⟩])) := by
  have token : Placed.token? ⟨segment, s.start⟩ =
      some ⟨kind, String.ofList segment.text, segment.literal?, s.start.line⟩ :=
    Option.map_eq_some_iff.2 ⟨kind, isToken, rfl⟩
  have fits : segment.literal?.isSome = kind.hasLiteral := isSome_literal_of_token? token
  rw [Placed.found_of_token? token, pushToken, stands.lexeme_eq, spelled, if_neg (not_not.2 fits)]
  rfl

theorem endNumber_eq (stands : Stands source s before read rest) {n : Numeral}
    (wellFormed : n.WellFormed) (spelled : n.text = read) :
    s.endNumber source = .ok (s.finish (Placed.found [⟨.numeral n, s.start⟩])) := by
  have value : Binary64.read? read = some n.value := by
    rw [Binary64.read?, Numeral.ofText?_eq_some_iff.2 ⟨wellFormed, spelled⟩]
    rfl
  rw [endNumber, stands.lexeme_eq, ok_bind, value]
  exact stands.pushToken_eq (.numeral n) spelled rfl

theorem endWord_eq (stands : Stands source s before read rest) :
    s.endWord source = .ok (s.finish (Placed.found [⟨.word read, s.start⟩])) := by
  rw [endWord, stands.lexeme_eq, ok_bind]
  exact stands.pushToken_eq (.word read) rfl rfl

/-- At the end of the source a string is open, and its length is what has been read of it. -/
theorem endString_of_end {body : List Char} (stands : Stands source s before ('"' :: body) []) :
    s.endString source = .ok (s.finish (Placed.found [⟨.openString body, s.start⟩])) := by
  have length : subtract s.here.offset s.start.offset = .ok (byteLength ('"' :: body)) := by
    rw [stands.here_eq, subtract]
    exact (if_pos (Nat.le_add_right _ _)).trans (congrArg _ (Nat.add_sub_cancel_left _ _))
  have here : s.here = Placed.stop ⟨.openString body, s.start⟩ := stands.here_eq
  rw [endString, if_pos (stands.atEnd_iff.2 rfl), length, here]
  rfl

/-- The value of a string lies between its quotes, one byte each. -/
theorem slice_value {body tail : List Char}
    (stands : Stands source s before ('"' :: body) ('"' :: tail)) :
    1 ≤ (s.take '"').here.offset ∧
      sliceBytes? (s.start.offset + 1) ((s.take '"').here.offset - 1) source = some body := by
  have start : s.start.offset = byteLength before := by rw [stands.start_eq, Place.start_after]
  have here : (s.take '"').here.offset = byteLength before + (1 + byteLength body) + 1 := by
    change s.here.offset + 1 = _
    rw [stands.here_offset]
    rfl
  refine ⟨by omega, Text.sliceBytes?_eq_some_iff.2 ⟨before ++ ['"'], '"' :: tail, ?_, ?_, ?_⟩⟩
  · rw [stands.split]
    simp
  · rw [start, Text.byteLength_append]
    rfl
  · omega

/-- A quote closes the string, which is taken with the quote. -/
theorem endString_of_quote {body tail : List Char}
    (stands : Stands source s before ('"' :: body) ('"' :: tail)) :
    s.endString source =
      .ok ((s.take '"').finish (Placed.found [⟨.string body, s.start⟩])) := by
  have notEnd : ¬s.atEnd source = true := by simp [stands.atEnd_iff]
  have passed := advance_of_ahead stands.ahead_eq
  rw [pass_eq_take (by decide)] at passed
  obtain ⟨positive, cut⟩ := stands.slice_value
  have stop : subtract (s.take '"').here.offset 1 = .ok ((s.take '"').here.offset - 1) :=
    if_pos positive
  have value : slice source (s.start.offset + 1) ((s.take '"').here.offset - 1) = .ok body := by
    rw [slice, cut]
    rfl
  have pushed := stands.take.pushToken_eq (.string body) rfl rfl
  rw [endString, if_neg notEnd, passed, ok_bind]
  dsimp only
  rw [stop, ok_bind]
  change (slice source (s.start.offset + 1) _ >>= _) = _
  rw [value, ok_bind]
  exact pushed

end Stands

end Cursor

end LoxFront
