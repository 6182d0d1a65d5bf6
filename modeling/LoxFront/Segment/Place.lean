import LoxFront.Segment.Cut
import LoxFront.Text.Lines

/-! # Segments in their places

A place in a source text is the number of bytes before it and the line that it is on.  Laying
segments out one after another from a place gives every segment its own; both numbers only ever
grow by what a segment covers, so a place depends on the text before it and on nothing else.
-/

namespace LoxFront

/-- A place in a text: the bytes before it, and its line, counted from one. -/
structure Place where
  offset : Nat
  line : Nat
deriving DecidableEq, Repr

namespace Place

def start : Place :=
  ⟨0, 1⟩

def after (p : Place) (text : List Char) : Place :=
  ⟨p.offset + Text.byteLength text, p.line + Text.newlines text⟩

@[simp] theorem after_nil (p : Place) : p.after [] = p := rfl

@[simp] theorem after_append (p : Place) (a b : List Char) :
    p.after (a ++ b) = (p.after a).after b := by
  simp [after, Nat.add_assoc]

end Place

structure Placed where
  segment : Segment
  place : Place
deriving DecidableEq, Repr

namespace Placed

def stop (s : Placed) : Place :=
  s.place.after s.segment.text

/-- Lay segments out one after another, the first at `p`. -/
def layOut (p : Place) : List Segment → List Placed
  | [] => []
  | s :: rest => ⟨s, p⟩ :: layOut (p.after s.text) rest

@[simp] theorem map_segment_layOut (p : Place) (row : List Segment) :
    (layOut p row).map Placed.segment = row := by
  induction row generalizing p with
  | nil => rfl
  | cons s rest ih => simp [layOut, ih]

theorem layOut_append (p : Place) (a b : List Segment) :
    layOut p (a ++ b) = layOut p a ++ layOut (p.after (a.flatMap Segment.text)) b := by
  induction a generalizing p with
  | nil => rfl
  | cons s rest ih => simp [layOut, ih]

def token? (s : Placed) : Option Token :=
  s.segment.token? s.place.line

end Placed

end LoxFront
