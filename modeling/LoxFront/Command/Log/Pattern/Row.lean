/-! # Rows of parts

A pattern holds parts in parts, and only so deep.  What is counted for it is a row of parts: pieces
one behind the other, branches beside each other, or items of a class.  A row with a single part is
nothing but that part, and any other row that is not empty is one level deeper than its parts.
-/

namespace LoxFront.Command.Pattern

/-- A row of parts: how many there are, how deep the deepest is, and how deep the last one, if it
    can be repeated. -/
structure Row where
  count : Nat := 0
  deepest : Nat := 0
  last : Option Nat := none
deriving DecidableEq, Repr

namespace Row

def depth (r : Row) : Nat :=
  if r.count ≤ 1 then r.deepest else r.deepest + 1

def push (r : Row) (depth : Nat) : Row :=
  ⟨r.count + 1, max r.deepest depth, some depth⟩

/-- A row with one more part that cannot be repeated and holds no others. -/
def pushMark (r : Row) : Row :=
  ⟨r.count + 1, r.deepest, none⟩

def repeatLast? (r : Row) : Option Row :=
  r.last.map fun depth => ⟨r.count, max r.deepest (depth + 1), some (depth + 1)⟩

end Row

end LoxFront.Command.Pattern
