import LoxFront.Proofs.Scan.Number

/-! # Scanning by byte positions

A scan can do without taking its source apart.  A cursor moves over the bytes of the source and
remembers where the lexeme that it reads starts; it looks at one or two characters ahead, and in the
end it cuts the lexeme out between its two positions.  All of this can fail: a slice has to end at
boundaries between characters, and a position can be taken away only from one that is not less.

The cursor goes round loops, one over the lexemes and inside of it one for each kind of lexeme that
has no fixed length.  `turn` carries it from the test of a loop to the next test, of the same or of
another loop, so the cursors that a scan meets (`Reaches`) are those at the tests of all its loops.
-/

namespace LoxFront

open Text (byteLength sliceBytes?)

/-- What goes wrong when a cursor is in the wrong place. -/
inductive Misstep where
  | noSlice (start stop : Nat)
  | belowZero (a b : Nat)
  | unfitLiteral (kind : TokenKind)
deriving DecidableEq, Repr

/-- The loops of a scan: over the lexemes, and over the characters of a lexeme. -/
inductive Loop where
  | lexemes
  | comment
  | string
  | digits
  | fraction
  | word
deriving DecidableEq, Repr

/-- A cursor at the test of a loop: where its lexeme starts, where it is itself, and what it has
    found so far. -/
structure Cursor where
  loop : Loop
  start : Place
  here : Place
  found : Scan
deriving DecidableEq

/-- The longer mark that a mark makes with an equals sign behind it. -/
def Punct.withEqual? : Punct → Option Punct
  | bang => some bangEqual
  | equal => some equalEqual
  | less => some lessEqual
  | greater => some greaterEqual
  | _ => none

namespace Cursor

def initial : Cursor :=
  ⟨.lexemes, .start, .start, ⟨[], []⟩⟩

/-! ## What can fail -/

def subtract (a b : Nat) : Except Misstep Nat :=
  if b ≤ a then .ok (a - b) else .error (.belowZero a b)

def slice (source : List Char) (start stop : Nat) : Except Misstep (List Char) :=
  (sliceBytes? start stop source).elim (.error (.noSlice start stop)) .ok

section Source

variable (source : List Char)

def ahead (s : Cursor) : Except Misstep (List Char) :=
  slice source s.here.offset (byteLength source)

def lexeme (s : Cursor) : Except Misstep (List Char) :=
  slice source s.start.offset s.here.offset

def atEnd (s : Cursor) : Bool :=
  byteLength source ≤ s.here.offset

def peek (s : Cursor) : Except Misstep (Option Char) := do
  return (← s.ahead source).head?

def peekNext (s : Cursor) : Except Misstep (Option Char) := do
  return (← s.ahead source).tail.head?

/-! ## Moving -/

/-- Pass a character; that a LF ends a line is counted apart. -/
def pass (c : Char) (s : Cursor) : Cursor :=
  { s with here := ⟨s.here.offset + c.utf8Size, s.here.line⟩ }

def newLine (s : Cursor) : Cursor :=
  { s with here := ⟨s.here.offset, s.here.line + 1⟩ }

def advance (s : Cursor) : Except Misstep (Option Char × Cursor) := do
  match ← s.peek source with
  | none => return (none, s)
  | some c => return (some c, s.pass c)

/-- Pass the next character if it is the expected one. -/
def matchChar (expected : Char) (s : Cursor) : Except Misstep (Bool × Cursor) := do
  if (← s.peek source) = some expected then
    return (true, (← s.advance source).2)
  else
    return (false, s)

/-! ## Ends of lexemes -/

/-- Go back to the loop over the lexemes with what has been found. -/
def finish (found : Scan) (s : Cursor) : Cursor :=
  { s with loop := .lexemes, found := s.found ++ found }

def skip (s : Cursor) : Cursor :=
  s.finish ⟨[], []⟩

def report (f : Fault) (s : Cursor) : Cursor :=
  s.finish ⟨[], [f]⟩

def pushToken (kind : TokenKind) (literal : Option Literal) (s : Cursor) :
    Except Misstep Cursor := do
  if literal.isSome ≠ kind.hasLiteral then
    throw (.unfitLiteral kind)
  let lexeme ← s.lexeme source
  return s.finish ⟨[⟨kind, String.ofList lexeme, literal, s.start.line⟩], []⟩

def endString (s : Cursor) : Except Misstep Cursor := do
  if s.atEnd source then
    let length ← subtract s.here.offset s.start.offset
    return s.report (.unterminatedString s.here.line s.start.offset length)
  else
    let (_, s) ← s.advance source
    -- The value of the string is its lexeme without the quotes.
    let stop ← subtract s.here.offset 1
    let value ← slice source (s.start.offset + 1) stop
    s.pushToken source .string (some (.string (String.ofList value)))

def endNumber (s : Cursor) : Except Misstep Cursor := do
  let value := (Binary64.read? (← s.lexeme source)).getD (.ofBits 0)
  s.pushToken source .number (some (.number value))

/-- Whether a point is next and a digit behind it. -/
def opensFraction (s : Cursor) : Except Misstep Bool := do
  if (← s.peek source) = some '.' then
    return (← s.peekNext source).any Char.isDigit
  else
    return false

def endDigits (s : Cursor) : Except Misstep Cursor := do
  if ← s.opensFraction source then
    return { (← s.advance source).2 with loop := .fraction }
  else
    s.endNumber source

def endWord (s : Cursor) : Except Misstep Cursor := do
  let letters ← s.lexeme source
  s.pushToken source ((Keyword.ofSpelling? letters).elim .identifier .keyword) none

/-! ## Beginnings of lexemes -/

def beginSlash (s : Cursor) : Except Misstep Cursor := do
  match ← s.matchChar source '/' with
  | (true, s) => return { s with loop := .comment }
  | (false, s) => s.pushToken source (.punct .slash) none

def beginMark (p : Punct) (s : Cursor) : Except Misstep Cursor := do
  match p.withEqual? with
  | none => s.pushToken source (.punct p) none
  | some longer =>
    let (matched, s) ← s.matchChar source '='
    s.pushToken source (.punct (if matched then longer else p)) none

/-- Go on behind the first character of a lexeme. -/
def beginWith (c : Char) (s : Cursor) : Except Misstep Cursor :=
  match Punct.ofSpelling? [c] with
  | some .slash => s.beginSlash source
  | some p => s.beginMark source p
  | none =>
    if isBlank c then return s.skip
    else if c = '\n' then return s.newLine.skip
    else if c = '"' then return { s with loop := .string }
    else if c.isDigit then return { s with loop := .digits }
    else if isWordStart c then return { s with loop := .word }
    else return s.report (.unexpectedCharacter c s.here.line s.start.offset)

/-- Start a lexeme where the cursor is. -/
def restart (s : Cursor) : Cursor :=
  { s with start := s.here }

def beginLexeme (s : Cursor) : Except Misstep Cursor := do
  match ← s.advance source with
  | (none, s) => return s
  | (some c, s) => s.beginWith source c

/-! ## Loops -/

/-- A turn of a loop that passes the characters of a class, or what is done behind the last one. -/
def turnWhile (p : Char → Bool) (behind : Cursor → Except Misstep Cursor) (s : Cursor) :
    Except Misstep Cursor := do
  if (← s.peek source).any p then
    return (← s.advance source).2
  else
    behind s

def turnString (s : Cursor) : Except Misstep Cursor := do
  match ← s.peek source with
  | none => s.endString source
  | some c =>
    if c = '"' then s.endString source
    else if c = '\n' then return (← s.newLine.advance source).2
    else return (← s.advance source).2

/-- Go from the test of a loop to the next test. -/
def turn (s : Cursor) : Except Misstep Cursor :=
  match s.loop with
  | .lexemes => s.restart.beginLexeme source
  | .comment => s.turnWhile source (· != '\n') fun s => return s.skip
  | .string => s.turnString source
  | .digits => s.turnWhile source Char.isDigit (endDigits source)
  | .fraction => s.turnWhile source Char.isDigit (endNumber source)
  | .word => s.turnWhile source isWordPart (endWord source)

def isDone (s : Cursor) : Bool :=
  s.loop == .lexemes && s.atEnd source

def result (s : Cursor) : Scan :=
  ⟨s.found.tokens ++ [.endOfText s.here.line], s.found.faults⟩

/-- The cursors that a scan meets at the tests of its loops, each with the number of lexemes that
    have been begun by then. -/
inductive Reaches : Nat → Cursor → Prop where
  | initial : Reaches 0 initial
  | turn {begun : Nat} {s s' : Cursor} (reaches : Reaches begun s)
      (notDone : s.isDone source = false) (turned : s.turn source = .ok s') :
      Reaches (if s.loop = .lexemes then begun + 1 else begun) s'

end Source

-- A cursor that is inside a character sees nothing ahead.
example : ({ initial with here := ⟨1, 1⟩ } : Cursor).turn ['é'] = .error (.noSlice 1 2) := by
  decide

end Cursor

end LoxFront
