import LoxFront.Text.Alphanumeric

/-! # Modes of patterns

Flags in a pattern change how what follows them is read, up to the end of the group that they stand
in or for one group alone.  Three of them matter here: `u` for a pattern of characters, `i` for one
that ignores case, and `x` for one with blanks and comments in it.  The others change what a
pattern matches, never whether it can be read.
-/

namespace LoxFront.Command.Pattern

/-- How a part of a pattern is read: by characters or by bytes, with regard to case or without, and
    with its blanks and comments as parts of it or passed over. -/
structure Mode where
  byCharacter : Bool := true
  ignoresCase : Bool := false
  passesBlanks : Bool := false
deriving DecidableEq, Repr

/-! ## Flags -/

def flags : List Char :=
  "imsUuRx".toList

/-- Whether flags can be set together: none twice, and those to be unset behind one dash. -/
def areFlags (text : List Char) : Bool :=
  text.all (fun c => c == '-' || flags.contains c) && text.Nodup && text.getLast? ≠ some '-'

namespace Mode

def withFlag (value : Bool) (m : Mode) (flag : Char) : Mode :=
  match flag with
  | 'u' => { m with byCharacter := value }
  | 'i' => { m with ignoresCase := value }
  | 'x' => { m with passesBlanks := value }
  | _ => m

/-- A mode with flags set, and those behind a dash unset. -/
def withFlags (m : Mode) (text : List Char) : Mode :=
  let set := (text.takeWhile (· != '-')).foldl (withFlag true) m
  (text.dropWhile (· != '-')).foldl (withFlag false) set

/-! ## Blanks -/

/-- A text without the white space and the comments at its front, a comment being what stands
    between a number sign and the end of the line. -/
def dropBlanks (inComment : Bool) : List Char → List Char
  | [] => []
  | c :: rest =>
      if inComment then dropBlanks (c != '\n') rest
      else if c == '#' then dropBlanks true rest
      else if Text.isWhiteSpace c then dropBlanks false rest
      else c :: rest

def skip (m : Mode) (pattern : List Char) : List Char :=
  if m.passesBlanks then dropBlanks false pattern else pattern

/-- The character behind a dash in a class, by which the dash is told from one that makes a range.
    Of a comment in front of it only the number sign is passed over. -/
def ahead? (m : Mode) (pattern : List Char) : Option Char :=
  if m.passesBlanks then
    match pattern.dropWhile Text.isWhiteSpace with
    | '#' :: comment => (comment.dropWhile Text.isWhiteSpace).head?
    | rest => rest.head?
  else pattern.head?

end Mode

end LoxFront.Command.Pattern
