/-! # Diagnostics

A diagnostic is a message about a source text: a code and a message, and as far as they are known
the location, the text of the line, labels that underline parts of that line, one line of help and
any number of notes.  It is built up from the message by adding one thing at a time.
-/

namespace LoxFront

/-- A location in a source text.  Lines and columns count from one; column and length count
    characters. -/
structure Location where
  file : String
  line : Nat
  column : Nat
  length : Nat
deriving DecidableEq, Repr

def Location.text (loc : Location) : String :=
  loc.file ++ ":" ++ loc.line.repr ++ ":" ++ loc.column.repr

/-- A label: the column at which it starts to underline, for how many characters, and its text. -/
structure Label where
  column : Nat
  length : Nat
  text : String
deriving DecidableEq, Repr

structure Diagnostic where
  code : String
  message : String
  location : Option Location
  sourceLine : Option String
  labels : List Label
  help : Option String
  notes : List String
deriving DecidableEq, Repr

namespace Diagnostic

def ofMessage (code message : String) : Diagnostic :=
  ⟨code, message, none, none, [], none, []⟩

def setLocation (loc : Location) (d : Diagnostic) : Diagnostic :=
  { d with location := some loc }

def setSourceLine (text : String) (d : Diagnostic) : Diagnostic :=
  { d with sourceLine := some text }

def addLabel (label : Label) (d : Diagnostic) : Diagnostic :=
  { d with labels := d.labels ++ [label] }

def setHelp (text : String) (d : Diagnostic) : Diagnostic :=
  { d with help := some text }

def addNote (text : String) (d : Diagnostic) : Diagnostic :=
  { d with notes := d.notes ++ [text] }

def line? (d : Diagnostic) : Option Nat :=
  d.location.map Location.line

end Diagnostic

end LoxFront
