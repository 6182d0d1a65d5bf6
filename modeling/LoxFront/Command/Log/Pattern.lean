import LoxFront.Command.Log.Pattern.Class

/-! # Patterns for values

A filter may ask for the value of a field, by a number or by a regular expression.  The values
that are asked for never decide anything here, but a filter with a value that cannot be read is no
filter, so this module says which values can be read.  A brace never closes in a value, which
leaves no repetition with a count.
-/

namespace LoxFront.Command.Pattern

/-! ## Groups -/

def isGroupName (text : List Char) : Bool :=
  match text with
  | [] => false
  | c :: rest =>
      (c == '_' || Text.isAlphabetic c) &&
        rest.all fun c => "_.[]".toList.contains c || Text.isAlphanumeric c

/-- How a group begins: with a name or flags for its body, or as flags for what follows it. -/
inductive GroupFront where
  | body (name : Option (List Char)) (flags : List Char)
  | flags (text : List Char)
deriving DecidableEq, Repr

/-- The front of a group behind its opening parenthesis; a group that only sets flags ends there. -/
def groupFront? : List Char → Option (GroupFront × List Char)
  | '?' :: 'P' :: '<' :: rest => named? rest
  | '?' :: '<' :: rest => named? rest
  | '?' :: rest =>
      let text := rest.takeWhile fun c => c != ':' && c != ')'
      match rest.dropWhile fun c => c != ':' && c != ')' with
      | ':' :: rest => if areFlags text then some (.body none text, rest) else none
      | ')' :: rest => if areFlags text ∧ text ≠ [] then some (.flags text, rest) else none
      | _ => none
  | rest => some (.body none [], rest)
where
  named? (rest : List Char) : Option (GroupFront × List Char) :=
    let name := rest.takeWhile (· != '>')
    match rest.dropWhile (· != '>') with
    | [] => none
    | _ :: rest => if isGroupName name then some (.body (some name) [], rest) else none

/-- A group that is not closed yet: the mode that it has come to, its branches but the last, and the
    parts of the last branch. -/
structure OpenGroup where
  mode : Mode := {}
  branches : Row := {}
  parts : Row := {}
deriving DecidableEq, Repr

def OpenGroup.depth (g : OpenGroup) : Nat :=
  (g.branches.push g.parts.depth).depth

/-! ## Patterns -/

/-- What was read of a pattern: the innermost open group, the groups around it and the names that
    are taken.  The pattern as a whole is the outermost of the groups. -/
structure Reading where
  group : OpenGroup := {}
  outer : List OpenGroup := []
  names : List (List Char) := []
deriving DecidableEq, Repr

namespace Reading

def push (r : Reading) (depth : Nat) : Reading :=
  { r with group := { r.group with parts := r.group.parts.push depth } }

def openGroup? (r : Reading) (pattern : List Char) : Option (Reading × List Char) :=
  let group := r.group
  match groupFront? (group.mode.skip pattern) with
  | none => none
  | some (.flags text, rest) =>
      let group := ⟨group.mode.withFlags text, group.branches, group.parts.pushMark⟩
      some ({ r with group := group }, rest)
  | some (.body name flags, rest) =>
      if name.any r.names.contains then none
      else
        let inner := { mode := group.mode.withFlags flags }
        some (⟨inner, group :: r.outer, name.toList ++ r.names⟩, rest)

def closeGroup? (r : Reading) : Option Reading :=
  match r.outer with
  | [] => none
  | group :: outer => some (push ⟨group, outer, r.names⟩ (r.group.depth + 1))

def branch (r : Reading) : Reading :=
  let branches := r.group.branches.push r.group.parts.depth
  { r with group := ⟨r.group.mode, branches, {}⟩ }

/-- Repeat the last part.  A question mark behind the operator is part of it. -/
def repeatLast? (r : Reading) (pattern : List Char) : Option (Reading × List Char) := do
  let parts ← r.group.parts.repeatLast?
  let rest := if pattern.head? = some '?' then pattern.tail else pattern
  return ({ r with group := { r.group with parts := parts } }, rest)

def step? (r : Reading) (c : Char) (rest : List Char) : Option (Reading × List Char) :=
  match c with
  | '(' => r.openGroup? rest
  | ')' => r.closeGroup?.map fun r => (r, rest)
  | '|' => some (r.branch, rest)
  | '*' | '+' | '?' => r.repeatLast? rest
  | '\x7b' => none
  | '[' => do
      let (depth, rest) ← class? r.group.mode rest
      return (r.push depth, rest)
  | c => do
      let (atom, rest) ← atom? r.group.mode (c :: rest)
      if r.group.mode.allows atom then some (r.push 0, rest) else none

/-- Read the rest of a pattern.  It has no more parts than characters, which is what `fuel`
    bounds. -/
def readAll? (r : Reading) : Nat → List Char → Option Reading
  | 0, _ => none
  | fuel + 1, pattern =>
      match r.group.mode.skip pattern with
      | [] => some r
      | c :: rest =>
          match r.step? c rest with
          | none => none
          | some (r, rest) => r.readAll? fuel rest

end Reading

def maxDepth : Nat :=
  250

def isPattern (text : List Char) : Bool :=
  match ({} : Reading).readAll? (text.length + 1) text with
  | none => false
  | some r => r.outer.isEmpty && r.group.depth ≤ maxDepth

/-! ## Values -/

def isNumber (text : List Char) : Bool :=
  let whole := text.takeWhile Char.isDigit
  let point := text.dropWhile Char.isDigit
  let afterPoint := if point.head? = some '.' then point.tail else point
  let fraction := if point.head? = some '.' then afterPoint.takeWhile Char.isDigit else []
  let exponent := afterPoint.drop fraction.length
  let name := String.ofList (text.map Char.toLower)
  name = "inf" || name = "infinity" || name = "nan" ||
    (whole ++ fraction != []) && match exponent with
      | [] => true
      | mark :: rest =>
          let digits := if rest.head? = some '+' || rest.head? = some '-' then rest.tail else rest
          mark.toLower == 'e' && digits != [] && digits.all Char.isDigit

/-- Whether a value can be read: as a number, or else as a regular expression.  A number that is no
    regular expression begins with a plus sign. -/
def isReadable (text : List Char) : Bool :=
  isPattern text || text.head? = some '+' && isNumber text.tail

end LoxFront.Command.Pattern
