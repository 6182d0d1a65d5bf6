import LoxFront.Token.Basic
import LoxFront.Text.Bytes

/-! # Segments

A source text is a row of segments without gap or overlap: tokens, the blanks, line ends and
comments between them, and the two kinds of text that no token matches, a character that starts no
token and a string that is never closed.  A segment knows exactly the characters it covers.
-/

namespace LoxFront

/-- A segment of a source text. -/
inductive Segment where
  | blank (c : Char)
  | newline
  | comment (body : List Char)
  | punct (p : Punct)
  | word (letters : List Char)
  | numeral (n : Numeral)
  | string (body : List Char)
  | openString (body : List Char)
  | stray (c : Char)
deriving DecidableEq, Repr

namespace Segment

def text : Segment → List Char
  | blank c => [c]
  | newline => ['\n']
  | comment body => '/' :: '/' :: body
  | punct p => p.spelling
  | word letters => letters
  | numeral n => n.text
  | string body => '"' :: (body ++ ['"'])
  | openString body => '"' :: body
  | stray c => [c]

def kind? : Segment → Option TokenKind
  | punct p => some (.punct p)
  | word letters => some ((Keyword.ofSpelling? letters).elim .identifier .keyword)
  | numeral _ => some .number
  | string _ => some .string
  | _ => none

/-- The literal of a segment: what stands between the quotes, or the value of the numeral. -/
def literal? : Segment → Option Literal
  | numeral n => some (.number n.value)
  | string body => some (.string (String.ofList body))
  | _ => none

def token? (line : Nat) (s : Segment) : Option Token :=
  s.kind?.map fun kind => ⟨kind, String.ofList s.text, s.literal?, line⟩

end Segment

end LoxFront
