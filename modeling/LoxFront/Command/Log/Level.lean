/-! # Levels of the log

An event is more or less detailed, and a limit on detail is a level or none at all.  Limits are
written as words, in letters of either case, or as numbers.
-/

namespace LoxFront.Command

inductive Level where
  | error | warn | info | debug | trace
deriving DecidableEq, Repr

namespace Level

/-- The place of a level among the levels, from the least detailed to the most. -/
def rank : Level → Nat
  | error => 1
  | warn => 2
  | info => 3
  | debug => 4
  | trace => 5

def name : Level → List Char
  | error => ['e', 'r', 'r', 'o', 'r']
  | warn => ['w', 'a', 'r', 'n']
  | info => ['i', 'n', 'f', 'o']
  | debug => ['d', 'e', 'b', 'u', 'g']
  | trace => ['t', 'r', 'a', 'c', 'e']

def column : Level → String
  | error => "ERROR"
  | warn => " WARN"
  | info => " INFO"
  | debug => "DEBUG"
  | trace => "TRACE"

def all : List Level :=
  [error, warn, info, debug, trace]

def ofRank? (rank : Nat) : Option Level :=
  all.find? (·.rank == rank)

def ofName? (name : List Char) : Option Level :=
  all.find? (·.name == name)

end Level

/-- The number that a word of digits stands for; a plus sign may precede it. -/
def numberOfWord? (word : List Char) : Option Nat :=
  let digits := if word.head? = some '+' then word.tail else word
  if digits ≠ [] ∧ digits.all Char.isDigit then some (Nat.ofDigitChars 10 digits 0) else none

/-- The limit on detail that a word stands for: a level, or none, which shows nothing. -/
def limitOfWord? (word : List Char) : Option (Option Level) :=
  match numberOfWord? word with
  | some 0 => some none
  | some rank => (Level.ofRank? rank).map some
  | none =>
      let name := word.map Char.toLower
      if name = ['o', 'f', 'f'] then some none else (Level.ofName? name).map some

end LoxFront.Command
