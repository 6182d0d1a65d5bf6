import LoxFront.Proofs.Diagnostic.Rows

/-! # Diagnostics with colours

Colours add control sequences to a displayed diagnostic and change nothing else.  Where no text of
the diagnostic holds an ESC, a terminal that reads the coloured text piece by piece finds exactly
the sequences that styles were written with (`pieces_writeRows`): deleting them leaves the text
without colours, and every style is closed before the next one is opened (`display_coloured`).
-/

namespace LoxFront

/-! ## Control sequences -/

/-- Whether a character is one of the parameters of a control sequence. -/
def isParameter (c : Char) : Bool :=
  c.isDigit || c == ';'

/-- The parameters of the control sequence at the front of a text, and the text behind it.  A
    sequence is ESC, `[`, any number of digits and semicolons, and `m`. -/
def cutSequence? : List Char → Option (List Char × List Char)
  | '\x1b' :: '[' :: text =>
      match text.dropWhile isParameter with
      | 'm' :: rest => some (text.takeWhile isParameter, rest)
      | _ => none
  | _ => none

/-- A piece of text for a terminal: a character that is shown, or a control sequence. -/
inductive Piece where
  | char (c : Char)
  | sequence (parameters : List Char)
deriving DecidableEq, Repr

def Piece.char? : Piece → Option Char
  | char c => some c
  | sequence _ => none

theorem length_lt_of_cutSequence? {text parameters rest : List Char}
    (found : cutSequence? text = some (parameters, rest)) : rest.length < text.length := by
  unfold cutSequence? at found
  split at found
  next text =>
    have short := (List.dropWhile_suffix isParameter (l := text)).length_le
    split at found
    next behind =>
      obtain ⟨-, rfl⟩ := Prod.mk.inj (Option.some.inj found)
      rw [behind] at short
      simp only [List.length_cons] at short ⊢
      omega
    next => cases found
  next => cases found

/-- The pieces of a text, read from the front. -/
def pieces : List Char → List Piece
  | [] => []
  | c :: text =>
      match _ : cutSequence? (c :: text) with
      | some (parameters, rest) => .sequence parameters :: pieces rest
      | none => .char c :: pieces text
termination_by text => text.length
decreasing_by
  · exact length_lt_of_cutSequence? ‹_›
  · exact Nat.lt_succ_self _

/-- Delete all control sequences from a text. -/
def withoutSequences (text : List Char) : List Char :=
  (pieces text).filterMap Piece.char?

theorem pieces_nil : pieces [] = [] := by
  rw [pieces]

theorem pieces_of_some {c : Char} {text parameters rest : List Char}
    (found : cutSequence? (c :: text) = some (parameters, rest)) :
    pieces (c :: text) = .sequence parameters :: pieces rest := by
  rw [pieces]
  split
  next same =>
    obtain ⟨rfl, rfl⟩ := Prod.mk.inj (Option.some.inj (found.symm.trans same))
    rfl
  next none => cases found.symm.trans none

theorem pieces_of_none {c : Char} {text : List Char} (none : cutSequence? (c :: text) = none) :
    pieces (c :: text) = .char c :: pieces text := by
  rw [pieces]
  split
  next found => cases none.symm.trans found
  next => rfl

/-- Only an ESC can begin a sequence. -/
theorem pieces_append_of_notMem {text : List Char} (noEscape : '\x1b' ∉ text) (rest : List Char) :
    pieces (text ++ rest) = text.map .char ++ pieces rest := by
  induction text with
  | nil => rfl
  | cons c text ih =>
    obtain ⟨first, others⟩ := not_or.1 (List.mem_cons.not.1 noEscape)
    have none : cutSequence? (c :: (text ++ rest)) = none := by
      unfold cutSequence?
      split
      next same => exact absurd (List.cons.inj same).1.symm first
      next => rfl
    rw [List.cons_append, pieces_of_none none, ih others]
    rfl

theorem pieces_sequence {parameters : List Char} (inside : parameters.all isParameter = true)
    (rest : List Char) :
    pieces ('\x1b' :: '[' :: (parameters ++ 'm' :: rest)) =
      .sequence parameters :: pieces rest := by
  have all := List.all_eq_true.1 inside
  have dropped : (parameters ++ 'm' :: rest).dropWhile isParameter = 'm' :: rest :=
    List.dropWhile_append_of_pos all
  have taken : (parameters ++ 'm' :: rest).takeWhile isParameter = parameters := by
    rw [List.takeWhile_append_of_pos all]
    exact List.append_nil parameters
  refine pieces_of_some ?_
  unfold cutSequence?
  split
  next text same =>
    obtain rfl := (List.cons.inj (List.cons.inj same).2).2
    rw [dropped, taken]
    rfl
  next other => exact absurd rfl (other _)

/-! ## Styles that are closed -/

/-- The parameters of the sequence that ends all styles. -/
def reset : List Char :=
  ['0']

/-- Pieces in which every style is closed before another one is opened; the characters shown in a
    style are all in a class. -/
inductive Balanced (inside : Char → Prop) : List Piece → Prop where
  | nil : Balanced inside []
  | char (c : Char) {rest : List Piece} : Balanced inside rest → Balanced inside (.char c :: rest)
  | style {opening text : List Char} {rest : List Piece} (opens : opening ≠ reset)
      (shown : ∀ c ∈ text, inside c) : Balanced inside rest →
      Balanced inside (.sequence opening :: (text.map .char ++ .sequence reset :: rest))

namespace Balanced

variable {inside : Char → Prop}

theorem append {a b : List Piece} (front : Balanced inside a) (behind : Balanced inside b) :
    Balanced inside (a ++ b) := by
  induction front with
  | nil => exact behind
  | char c _ ih => exact .char c ih
  | style opens shown _ ih =>
    rw [List.cons_append, List.append_assoc, List.cons_append]
    exact .style opens shown ih

theorem chars (text : List Char) : Balanced inside (text.map .char) := by
  induction text with
  | nil => exact .nil
  | cons c text ih => exact .char c ih

theorem flatMap {α : Type} {items : List α} {f : α → List Piece}
    (each : ∀ item ∈ items, Balanced inside (f item)) : Balanced inside (items.flatMap f) := by
  induction items with
  | nil => exact .nil
  | cons item items ih =>
    obtain ⟨first, others⟩ := List.forall_mem_cons.1 each
    exact first.append (ih others)

end Balanced

/-! ## Spans -/

namespace Style

def parameters (style : Style) : List Char :=
  (if style.bold then ['1', ';'] else []) ++ style.colour.parameter

theorem all_isParameter (style : Style) : style.parameters.all isParameter = true := by
  obtain ⟨colour, bold⟩ := style
  cases colour <;> cases bold <;> rfl

theorem parameters_ne_reset (style : Style) : style.parameters ≠ reset := by
  obtain ⟨colour, bold⟩ := style
  cases colour <;> cases bold <;> decide

theorem opening_append (style : Style) (rest : List Char) :
    style.opening ++ rest = '\x1b' :: '[' :: (style.parameters ++ 'm' :: rest) := by
  simp [opening, parameters]

/-- A text without an ESC does not end its style. -/
theorem reopen_eq_self (opening : List Char) {text : List Char} (noEscape : '\x1b' ∉ text) :
    reopen opening text = text := by
  fun_induction reopen opening text with
  | case1 text ih => exact absurd List.mem_cons_self noEscape
  | case2 c text _ ih => rw [ih (fun member => noEscape (.tail c member))]
  | case3 => rfl

end Style

namespace Span

def text : Span → List Char
  | plain text => text
  | styled _ text => text

/-- The pieces that a span is written with in colours. -/
def pieces : Span → List Piece
  | plain text => text.map .char
  | styled style text =>
      .sequence style.parameters :: (text.map .char ++ [.sequence reset])

theorem write_false (span : Span) : span.write false = span.text := by
  cases span <;> rfl

theorem notMem_text {c : Char} {row : List Span} (lacks : c ∉ shown row) {span : Span}
    (member : span ∈ row) : c ∉ span.text := by
  intro inside
  refine lacks (List.mem_flatMap.2 ⟨span, member, ?_⟩)
  rw [write_false]
  exact inside

theorem pieces_write {span : Span} (noEscape : '\x1b' ∉ span.text) (rest : List Char) :
    LoxFront.pieces (span.write true ++ rest) = span.pieces ++ LoxFront.pieces rest := by
  cases span with
  | plain text => exact pieces_append_of_notMem noEscape rest
  | styled style text =>
    have noEscape : '\x1b' ∉ text := noEscape
    have closing : LoxFront.pieces (Style.closing ++ rest) =
        .sequence reset :: LoxFront.pieces rest :=
      pieces_sequence (by decide : reset.all isParameter = true) rest
    have written : (styled style text).write true ++ rest =
        style.opening ++ (text ++ (Style.closing ++ rest)) := by
      simp only [write, if_true, Style.reopen_eq_self _ noEscape, List.append_assoc]
    rw [written, Style.opening_append, pieces_sequence style.all_isParameter,
      pieces_append_of_notMem noEscape, closing]
    simp [pieces]

theorem filterMap_pieces (span : Span) : span.pieces.filterMap Piece.char? = span.text := by
  have chars : ∀ text : List Char, (text.map Piece.char).filterMap Piece.char? = text := by
    intro text
    rw [List.filterMap_map]
    exact List.filterMap_some
  cases span with
  | plain text => exact chars text
  | styled style text =>
    rw [pieces, List.filterMap_cons_none rfl, List.filterMap_append, chars]
    exact List.append_nil text

theorem balanced_pieces {inside : Char → Prop} {span : Span}
    (shown : ∀ c ∈ span.text, inside c) : Balanced inside span.pieces := by
  cases span with
  | plain text => exact .chars text
  | styled style text => exact .style style.parameters_ne_reset shown .nil

/-! ## Rows -/

def rowPieces (row : List Span) : List Piece :=
  row.flatMap pieces ++ [.char '\n']

theorem pieces_writeRow {row : List Span} (noEscape : '\x1b' ∉ shown row) (rest : List Char) :
    LoxFront.pieces (writeRow true row ++ rest) = rowPieces row ++ LoxFront.pieces rest := by
  rw [writeRow, rowPieces, List.append_assoc, List.append_assoc]
  induction row with
  | nil => exact pieces_append_of_notMem (by decide : '\x1b' ∉ ['\n']) rest
  | cons span row ih =>
    have others : '\x1b' ∉ shown row := fun member =>
      noEscape (List.mem_append_right (span.write false) member)
    rw [List.flatMap_cons, List.append_assoc,
      pieces_write (notMem_text noEscape List.mem_cons_self), ih others, List.flatMap_cons,
      List.append_assoc]

/-- Read from the front, rows without an ESC are the pieces that they were written with. -/
theorem pieces_writeRows {rows : List (List Span)} (noEscape : ∀ row ∈ rows, '\x1b' ∉ shown row) :
    LoxFront.pieces (writeRows true rows) = rows.flatMap rowPieces := by
  induction rows with
  | nil => exact pieces_nil
  | cons row rows ih =>
    obtain ⟨first, others⟩ := List.forall_mem_cons.1 noEscape
    rw [writeRows, List.flatMap_cons, pieces_writeRow first, List.flatMap_cons]
    exact congrArg (rowPieces row ++ ·) (ih others)

theorem filterMap_rowPieces (row : List Span) :
    (rowPieces row).filterMap Piece.char? = writeRow false row := by
  rw [rowPieces, List.filterMap_append, List.filterMap_flatMap, writeRow]
  refine congrArg (· ++ ['\n']) (List.flatMap_congr ?_)
  intro span _
  rw [filterMap_pieces, write_false]

theorem balanced_rowPieces {inside : Char → Prop} {row : List Span}
    (each : ∀ c ∈ shown row, inside c) : Balanced inside (rowPieces row) := by
  refine Balanced.append (Balanced.flatMap ?_) (.char '\n' .nil)
  intro span member
  refine balanced_pieces ?_
  intro c inText
  refine each c (List.mem_flatMap.2 ⟨span, member, ?_⟩)
  rw [write_false]
  exact inText

end Span

/-! ## Diagnostics -/

/-- Colours add nothing but control sequences to a diagnostic in whose texts there is no ESC, no
    matter how it was built up: without the sequences its display is that without colours.  Every
    style is closed before another one is opened, and, if there is no LF in the texts either, in
    the row in which it was opened. -/
theorem display_coloured (d : Diagnostic) (noEscape : d.Lacks '\x1b') :
    withoutSequences (d.display true).toList = (d.display false).toList ∧
    Balanced (fun _ => True) (pieces (d.display true).toList) ∧
    (d.Lacks '\n' → Balanced (· ≠ '\n') (pieces (d.display true).toList)) := by
  have read : pieces (d.display true).toList = d.rows.flatMap Span.rowPieces := by
    rw [Diagnostic.display, String.toList_ofList]
    exact Span.pieces_writeRows (noEscape.rows rfl)
  refine ⟨?_, ?_, ?_⟩
  · rw [withoutSequences, read, List.filterMap_flatMap, Diagnostic.display, String.toList_ofList]
    exact List.flatMap_congr fun row _ => Span.filterMap_rowPieces row
  · rw [read]
    exact Balanced.flatMap fun row _ => Span.balanced_rowPieces fun _ _ => trivial
  · intro oneLine
    rw [read]
    refine Balanced.flatMap ?_
    intro row member
    refine Span.balanced_rowPieces ?_
    rintro c inRow rfl
    exact oneLine.rows rfl row member inRow

/-- What looks like the rest of a control sequence in a text is left alone, and a style may be
    opened and closed around nothing. -/
theorem display_coloured_nothing :
    ∃ d : Diagnostic, d.Lacks '\x1b' ∧ d.Lacks '\n' ∧
      (d.display false) = "error[]: [31m\n  --> f:12:0\n" ++
        "   |\n12 | é;1m\n   | ^\n   |  ^^ m\n   |\n   = help: 0m\n   = note: \n" ∧
      withoutSequences (d.display true).toList = (d.display false).toList ∧
      Balanced (· ≠ '\n') (pieces (d.display true).toList) := by
  let d := Diagnostic.ofMessage "" "[31m" |>.setLocation ⟨"f", 12, 0, 0⟩ |>.setSourceLine "é;1m"
    |>.addLabel ⟨0, 0, ""⟩ |>.addLabel ⟨2, 2, "m"⟩ |>.setHelp "0m" |>.addNote ""
  have noEscape : d.Lacks '\x1b' := by decide +kernel
  have oneLine : d.Lacks '\n' := by decide +kernel
  obtain ⟨plain, -, balanced⟩ := display_coloured d noEscape
  exact ⟨d, noEscape, oneLine, by decide +kernel, plain, balanced oneLine⟩

end LoxFront
