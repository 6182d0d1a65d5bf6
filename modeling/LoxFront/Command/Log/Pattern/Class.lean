import LoxFront.Command.Log.Pattern.Atom
import LoxFront.Command.Log.Pattern.Row

/-! # Classes of characters

A class stands in brackets and lists the characters that it is for, one by one, as ranges, by name
or as other classes.  Between two lists may stand an operator, and operators are taken from left to
right.
-/

namespace LoxFront.Command.Pattern

/-- A class that is not closed yet: whether only what is special at its front was read, how deep
    what stands in front of its last operator is, and the items since then. -/
structure OpenClass where
  isFront : Bool := true
  left : Option Nat := none
  items : Row := {}
deriving DecidableEq, Repr

namespace OpenClass

def depth (c : OpenClass) : Nat :=
  match c.left with
  | none => c.items.depth
  | some left => max left c.items.depth + 1

def push (c : OpenClass) (depth : Nat) : OpenClass :=
  ⟨false, c.left, c.items.push depth⟩

def pushFront (c : OpenClass) (char : Char) : OpenClass :=
  { c.push 0 with isFront := char == '-' }

def operate (c : OpenClass) : OpenClass :=
  ⟨false, some c.depth, {}⟩

/-- Whether a character stands for itself at the front of a class: a dash does, and a closing
    bracket before anything else. -/
def isLiteralFront (c : OpenClass) (char : Char) : Bool :=
  c.isFront && (char == '-' || char == ']' && c.items.count == 0)

end OpenClass

def classNames : List String :=
  ["alnum", "alpha", "ascii", "blank", "cntrl", "digit", "graph", "lower", "print", "punct",
   "space", "upper", "word", "xdigit"]

def namedClass? : List Char → Option (Atom × List Char)
  | ':' :: rest =>
      let negated := rest.head? == some '^'
      let body := if negated then rest.tail else rest
      match body.dropWhile (· != ':') with
      | ':' :: ']' :: rest =>
          if classNames.contains (String.ofList (body.takeWhile (· != ':'))) then
            some (.named negated, rest)
          else none
      | _ => none
  | _ => none

/-- What follows the opening bracket of a class and the caret that negates it.  A class of bytes
    that is negated would match parts of characters. -/
def afterOpening? (m : Mode) (pattern : List Char) : Option (List Char) :=
  match m.skip pattern with
  | '^' :: rest => if m.byCharacter then some rest else none
  | rest => some rest

/-- What follows an item of a class, or two items with a dash between them, the smaller first. -/
def afterItem? (m : Mode) (pattern : List Char) : Option (List Char) := do
  let (first, rest) ← classAtom? m pattern
  if !m.allowsInClass first then none
  else
    match m.skip rest with
    | '-' :: tail =>
        if m.ahead? tail = some ']' ∨ m.ahead? tail = some '-' then some ('-' :: tail)
        else
          let (last, rest) ← classAtom? m (m.skip tail)
          match first, last with
          | .char a _, .char b _ => if m.allowsInClass last ∧ a ≤ b then some rest else none
          | _, _ => none
    | rest => some rest

/-- How deep a class is, and what follows it; `c` is what was read of it, within the classes
    `outer`.  A class has no more parts than characters, which is what `fuel` bounds. -/
def closeClass? (m : Mode) :
    Nat → OpenClass → List OpenClass → List Char → Option (Nat × List Char)
  | 0, _, _, _ => none
  | fuel + 1, c, outer, pattern =>
      match m.skip pattern with
      | [] => none
      | first :: rest =>
          if c.isLiteralFront first then
            if m.allowsInClass (.char first false) then
              closeClass? m fuel (c.pushFront first) outer rest
            else none
          else
            match first :: rest with
            | '[' :: rest =>
                match namedClass? rest with
                | some (atom, rest) =>
                    if m.allowsInClass atom then closeClass? m fuel (c.push 0) outer rest else none
                | none => do closeClass? m fuel {} (c :: outer) (← afterOpening? m rest)
            | ']' :: rest =>
                match outer with
                | [] => some (c.depth + 1, rest)
                | parent :: outer =>
                    closeClass? m fuel (parent.push (c.depth + 1)) outer rest
            | '&' :: '&' :: rest => closeClass? m fuel c.operate outer rest
            | '-' :: '-' :: rest => closeClass? m fuel c.operate outer rest
            | '~' :: '~' :: rest => closeClass? m fuel c.operate outer rest
            | item => do closeClass? m fuel (c.push 0) outer (← afterItem? m item)

def class? (m : Mode) (pattern : List Char) : Option (Nat × List Char) := do
  closeClass? m pattern.length {} [] (← afterOpening? m pattern)

end LoxFront.Command.Pattern
