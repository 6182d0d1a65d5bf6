import LoxFront.Diagnostic.Basic
import LoxFront.Diagnostic.Span

/-! # Diagnostics as they are displayed

A diagnostic is displayed as rows: the message, then for a located one a block behind a gutter as
wide as its line number, with the location, the line and one row of carets for each label, and
last the help and the notes.  The gutter bars of the block stand one below the other, and the line
starts at the same character in its own row and in the rows of carets, so that carets stand below
what they underline.
-/

namespace LoxFront

namespace Diagnostic

def spaces (count : Nat) : List Char :=
  List.replicate count ' '

def messageRow (d : Diagnostic) : List Span :=
  [.styled (.strong .red) "error".toList, .plain ['['], .styled (.plain .cyan) d.code.toList,
   .plain ([']', ':', ' '] ++ d.message.toList)]

/-- The characters of a line number, which decide the width of the gutter. -/
def gutterNumber (line : Nat) : List Char :=
  Nat.toDigits 10 line

def bar : Span :=
  .styled (.plain .blue) ['|']

/-- The gutter of a row that has no line number, and its bar. -/
def emptyGutter (line : Nat) : List Span :=
  [.plain (spaces (gutterNumber line).length ++ [' ']), bar]

def locationRow (loc : Location) : List Span :=
  [.plain (spaces (gutterNumber loc.line).length ++ "--> ".toList),
   .styled (.plain .blue) loc.text.toList]

def sourceRow (line : Nat) (text : String) : List Span :=
  [.styled (.strong .blue) (gutterNumber line), .plain [' '], bar, .plain (' ' :: text.toList)]

/-- The row of carets below the line, with the label's text behind them.  There is always at least
    one caret, and a column before the first counts as the first. -/
def labelRow (line : Nat) (label : Label) : List Span :=
  let carets := List.replicate (max label.length 1) '^'
  let text : List Span :=
    if label.text.isEmpty then [] else [.plain [' '], .styled (.plain .red) label.text.toList]
  emptyGutter line ++
    [.plain (' ' :: spaces (label.column - 1)), .styled (.strong .red) carets] ++ text

def locationRows (d : Diagnostic) (loc : Location) : List (List Span) :=
  let source := d.sourceLine.elim [] fun text =>
    sourceRow loc.line text :: d.labels.map (labelRow loc.line)
  [locationRow loc, emptyGutter loc.line] ++ source ++ [emptyGutter loc.line]

def remarkRow (colour : Colour) (title text : String) : List Span :=
  [.plain (spaces 3), .styled (.plain .blue) ['='], .plain [' '],
   .styled (.strong colour) title.toList, .plain ([':', ' '] ++ text.toList)]

def rows (d : Diagnostic) : List (List Span) :=
  [d.messageRow] ++ d.location.elim [] d.locationRows ++
    (d.help.map (remarkRow .green "help")).toList ++ d.notes.map (remarkRow .cyan "note")

def display (colours : Bool) (d : Diagnostic) : String :=
  String.ofList (Span.writeRows colours d.rows)

end Diagnostic

end LoxFront
