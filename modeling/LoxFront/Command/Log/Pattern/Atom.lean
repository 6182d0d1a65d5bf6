import LoxFront.Command.Log.Pattern.Mode

/-! # Atoms of patterns

An atom is the least that a pattern is made of.  Which atoms can stand in it depends on the mode.
There are no tables of letters, cases and words behind the patterns, so a pattern of characters has
no use for what would need one; and a pattern of bytes must not match a part of a character.
-/

namespace LoxFront.Command.Pattern

/-- An atom: a character, any character, the digits, blanks or word characters or all others, the
    characters with a name in a class or all others, the start or end of a text or line, and the
    edge of a word or all other places.  A character may be written as the number of a byte. -/
inductive Atom where
  | char (c : Char) (isByte : Bool)
  | any
  | shorthand (negated : Bool)
  | named (negated : Bool)
  | anchor
  | boundary
deriving DecidableEq, Repr

namespace Mode

def allows (m : Mode) : Atom → Bool
  | .char c isByte => if m.byCharacter then !m.ignoresCase else !isByte || c.toNat < 128
  | .any => m.byCharacter
  | .shorthand negated => !m.byCharacter && !negated
  | .named _ => false
  | .anchor => true
  | .boundary => !m.byCharacter

def allowsInClass (m : Mode) : Atom → Bool
  | .char c _ => if m.byCharacter then !m.ignoresCase else c.toNat < 128
  | .shorthand negated => !m.byCharacter && !negated
  | .named negated => if m.byCharacter then !m.ignoresCase else !negated
  | .any | .anchor | .boundary => false

end Mode

/-! ## Escapes -/

def hexDigit? (c : Char) : Option Nat :=
  if c.isDigit then some (c.toNat - '0'.toNat)
  else if 'a' ≤ c.toLower ∧ c.toLower ≤ 'f' then some (c.toLower.toNat - 'a'.toNat + 10)
  else none

/-- The number that a count of hexadecimal digits at the front of a pattern goes on to from
    `number`. -/
def hexNumber? (m : Mode) : Nat → Nat → List Char → Option (Nat × List Char)
  | 0, number, pattern => some (number, pattern)
  | count + 1, number, pattern =>
      match m.skip pattern with
      | [] => none
      | c :: rest => do hexNumber? m count (16 * number + (← hexDigit? c)) rest

/-- The character that is written with a count of hexadecimal digits; two digits stand for a
    byte. -/
def numbered? (m : Mode) (count : Nat) (pattern : List Char) : Option (Atom × List Char) := do
  let (number, rest) ← hexNumber? m count 0 pattern
  if number.isValidChar then some (.char (.ofNat number) (count == 2), rest) else none

def escape? (m : Mode) : List Char → Option (Atom × List Char)
  | [] => none
  | c :: rest =>
      match c with
      | 'x' => numbered? m 2 rest
      | 'u' => numbered? m 4 rest
      | 'U' => numbered? m 8 rest
      | 'a' => some (.char '\x07' false, rest)
      | 'f' => some (.char '\x0c' false, rest)
      | 't' => some (.char '\t' false, rest)
      | 'n' => some (.char '\n' false, rest)
      | 'r' => some (.char '\r' false, rest)
      | 'v' => some (.char '\x0b' false, rest)
      | 'd' | 's' | 'w' => some (.shorthand false, rest)
      | 'D' | 'S' | 'W' => some (.shorthand true, rest)
      | 'A' | 'z' => some (.anchor, rest)
      | 'b' | 'B' | '<' | '>' => some (.boundary, rest)
      | c => if c.toNat < 128 ∧ !c.isAlphanum then some (.char c false, rest) else none

def atom? (m : Mode) : List Char → Option (Atom × List Char)
  | [] => none
  | '\\' :: rest => escape? m rest
  | '.' :: rest => some (.any, rest)
  | '^' :: rest | '$' :: rest => some (.anchor, rest)
  | c :: rest => some (.char c false, rest)

/-- An item of a class at the front of a pattern, where only the backslash is special. -/
def classAtom? (m : Mode) : List Char → Option (Atom × List Char)
  | [] => none
  | '\\' :: rest => escape? m rest
  | c :: rest => some (.char c false, rest)

end LoxFront.Command.Pattern
