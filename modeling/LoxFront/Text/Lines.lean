import LoxFront.Text.Bytes

/-! # The lines of a text

A LF ends the line it stands in; the last line is what follows the last LF, and may be empty, so
a text has one line more than it has LFs.  A line knows the byte offset of its first character,
and owns every offset from there to its stop, the offset of the LF that ends it.
-/

namespace LoxFront

open Text (byteLength)

/-- A line: where it starts, and its characters without the LF that ends it. -/
structure Line where
  start : Nat
  text : List Char
deriving DecidableEq, Repr

namespace Line

def stop (line : Line) : Nat :=
  line.start + byteLength line.text

/-- Whether an offset lies in the line; the offset of the LF that ends the line does. -/
def covers (line : Line) (offset : Nat) : Bool :=
  line.start ≤ offset && offset ≤ line.stop

/-- The line as it is displayed: the CRs at its end belong to the line ending. -/
def shown (line : Line) : List Char :=
  (line.text.reverse.dropWhile (· == '\r')).reverse

/-- Lay texts out as consecutive lines, the first at offset `start`, with one LF between two. -/
def layOut (start : Nat) : List (List Char) → List Line
  | [] => []
  | text :: texts => ⟨start, text⟩ :: layOut (start + byteLength text + 1) texts

@[simp] theorem length_layOut (start : Nat) (texts : List (List Char)) :
    (layOut start texts).length = texts.length := by
  induction texts generalizing start with
  | nil => rfl
  | cons text texts ih => simp [layOut, ih]

@[simp] theorem map_text_layOut (start : Nat) (texts : List (List Char)) :
    (layOut start texts).map Line.text = texts := by
  induction texts generalizing start with
  | nil => rfl
  | cons text texts ih => simp [layOut, ih]

end Line

namespace Text

def lines (text : List Char) : List Line :=
  Line.layOut 0 (text.splitOn '\n')

def newlines (text : List Char) : Nat :=
  text.count '\n'

@[simp] theorem newlines_nil : newlines [] = 0 := rfl

@[simp] theorem newlines_append (a b : List Char) :
    newlines (a ++ b) = newlines a + newlines b := by
  simp [newlines]

@[simp] theorem newlines_cons (c : Char) (text : List Char) :
    newlines (c :: text) = newlines text + if c = '\n' then 1 else 0 := by
  simp [newlines, List.count_cons]

/-- A text has one line more than it has LFs. -/
theorem length_lines (text : List Char) : (lines text).length = newlines text + 1 := by
  rw [lines, Line.length_layOut]
  induction text with
  | nil => rfl
  | cons c text ih =>
    rw [List.splitOn, List.splitOnP_cons_eq_if_modifyHead]
    by_cases h : c = '\n'
    · simp_all [List.splitOn]
    · simp_all [List.splitOn]

end Text

end LoxFront
