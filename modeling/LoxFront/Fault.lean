import LoxFront.Segment.Place

/-! # Lexical faults

A fault is text that no token matches: a character that starts none, or a string that is never
closed.  It records the line on which it was noticed and the bytes that it covers.  An unexpected
character is noticed where it stands, an unterminated string where the text ends.
-/

namespace LoxFront

inductive FaultKind where
  | unterminatedString
  | unexpectedCharacter (c : Char)
deriving DecidableEq, Repr

def FaultKind.message : FaultKind → String
  | unterminatedString => "Unterminated string."
  | unexpectedCharacter _ => "Unexpected character."

/-- A fault: what it is, the line on which it was noticed, and the bytes it covers. -/
structure Fault where
  kind : FaultKind
  line : Nat
  offset : Nat
  length : Nat
deriving DecidableEq, Repr

namespace Fault

def unexpectedCharacter (c : Char) (line offset : Nat) : Fault :=
  ⟨.unexpectedCharacter c, line, offset, c.utf8Size⟩

/-- The fault of a string that was open when the text ended on a line. -/
def unterminatedString (line offset length : Nat) : Fault :=
  ⟨.unterminatedString, line, offset, length⟩

def message (f : Fault) : String :=
  f.kind.message

def text (f : Fault) : String :=
  "[line " ++ f.line.repr ++ "] Error: " ++ f.message

end Fault

/-- The fault that a segment is, if it is one. -/
def Placed.fault? (s : Placed) : Option Fault :=
  match s.segment with
  | .stray c => some (.unexpectedCharacter c s.place.line s.place.offset)
  | .openString _ =>
      some (.unterminatedString s.stop.line s.place.offset (Text.byteLength s.segment.text))
  | _ => none

end LoxFront
