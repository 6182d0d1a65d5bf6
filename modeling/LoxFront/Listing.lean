import LoxFront.Diagnostic.Basic
import LoxFront.Fault
import LoxFront.Text.Escape

/-! # Listings

A listing is a named source text together with the table of its lines.  It answers where a byte
offset is, what a line reads, and it turns faults into diagnostics that show the line they are on.
An offset past the end counts as the end; an offset inside a character has no location, and that
is the only way in which a question to a listing can fail.
-/

namespace LoxFront

open Text (byteLength sliceBytes?)

inductive LocateError where
  | insideCharacter (offset : Nat)
deriving DecidableEq, Repr

structure Listing where
  file : String
  source : List Char
  lines : List Line
deriving DecidableEq, Repr

namespace Listing

def ofSource (file source : String) : Listing :=
  ⟨file, source.toList, Text.lines source.toList⟩

/-- The listing of nothing: no name, no text, and not even an empty line in the table. -/
def blank : Listing :=
  ⟨"", [], []⟩

/-! ## Lines -/

/-- What a line reads, counted from one; there is nothing to read outside the table. -/
def lineText (l : Listing) : Nat → List Char
  | 0 => []
  | index + 1 => (l.lines[index]?).elim [] Line.shown

/-- The index of the line that an offset is on: the first that covers it, or else the last. -/
def lineIndex (l : Listing) (offset : Nat) : Nat :=
  (l.lines.findIdx? (·.covers offset)).getD (l.lines.length - 1)

/-- The offset at which a line starts; outside the table, the start of the text. -/
def lineStart (l : Listing) (index : Nat) : Nat :=
  (l.lines[index]?).elim 0 Line.start

/-! ## Locations -/

def locate (l : Listing) (offset : Nat) : Except LocateError Location :=
  let index := l.lineIndex offset
  match sliceBytes? (l.lineStart index) (min offset (byteLength l.source)) l.source with
  | none => .error (.insideCharacter offset)
  | some before => .ok ⟨l.file, index + 1, before.length + 1, 1⟩

/-- How many characters to underline at a location for the `length` bytes from `offset` on: those
    that the bytes hold, but none beyond the displayed line, and at least one.  Bytes that are not
    whole characters of the text count as one character. -/
def underline (l : Listing) (loc : Location) (offset length : Nat) : Nat :=
  -- A label that reaches into the next lines is cut at the end of the line that is shown.
  let covered := (sliceBytes? offset (offset + length) l.source).elim 1 List.length
  let visible := (l.lineText loc.line).length - (loc.column - 1)
  max (min covered visible) 1

/-! ## Diagnostics -/

/-- Point a diagnostic at `length` bytes from `offset` on: give it the location, the line, and a
    label that underlines the bytes. -/
def annotate (l : Listing) (d : Diagnostic) (offset length : Nat) (label : String) :
    Except LocateError Diagnostic := do
  let loc ← l.locate offset
  let width := l.underline loc offset length
  return d.addLabel ⟨loc.column, width, label⟩
    |>.setSourceLine (String.ofList (l.lineText loc.line))
    |>.setLocation { loc with length := width }

/-- The diagnostic of a fault.  An unterminated string is noticed where the text ends; a note says
    where that is, unless it is the line on which the string starts. -/
def diagnose (l : Listing) (f : Fault) : Except LocateError Diagnostic :=
  match f.kind with
  | .unexpectedCharacter c =>
      let shown := String.ofList (Text.escape c)
      let d := Diagnostic.ofMessage "E001" f.message
        |>.addNote ("'" ++ shown ++ "' does not start any token")
      l.annotate d f.offset f.length "unexpected character"
  | .unterminatedString => do
      let opening ← l.locate f.offset
      let d := Diagnostic.ofMessage "E002" f.message
        |>.setHelp "add a closing '\"' at the end of the string"
      let d :=
        if opening.line = f.line then d else d.addNote ("input ends on line " ++ f.line.repr)
      l.annotate d f.offset f.length "string starts here"

end Listing

end LoxFront
