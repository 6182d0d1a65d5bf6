/-! # Styled text

Text for a terminal is a row of spans, each plain or in a style.  With colours on, a styled span
is written between the escape sequence that opens its style and the one that ends all styles; with
colours off it is written as it is.  The only thing that can end a style early is its own text, so
the opening is repeated after every end that the text contains.
-/

namespace LoxFront

inductive Colour where
  | red | green | blue | cyan
deriving DecidableEq, Repr

def Colour.parameter : Colour → List Char
  | red => ['3', '1']
  | green => ['3', '2']
  | blue => ['3', '4']
  | cyan => ['3', '6']

structure Style where
  colour : Colour
  bold : Bool
deriving DecidableEq, Repr

namespace Style

def plain (colour : Colour) : Style :=
  ⟨colour, false⟩

def strong (colour : Colour) : Style :=
  ⟨colour, true⟩

def opening (style : Style) : List Char :=
  ['\x1b', '['] ++ (if style.bold then ['1', ';'] else []) ++ style.colour.parameter ++ ['m']

def closing : List Char :=
  ['\x1b', '[', '0', 'm']

/-- Repeat `opening` after every end of styles in a text. -/
def reopen (opening : List Char) : List Char → List Char
  | '\x1b' :: '[' :: '0' :: 'm' :: text => closing ++ opening ++ reopen opening text
  | c :: text => c :: reopen opening text
  | [] => []

end Style

inductive Span where
  | plain (text : List Char)
  | styled (style : Style) (text : List Char)
deriving DecidableEq, Repr

namespace Span

def write (colours : Bool) : Span → List Char
  | plain text => text
  | styled style text =>
      if colours then style.opening ++ Style.reopen style.opening text ++ Style.closing else text

/-- The characters of a row of spans, with the LF that ends it. -/
def writeRow (colours : Bool) (row : List Span) : List Char :=
  row.flatMap (write colours) ++ ['\n']

def writeRows (colours : Bool) (rows : List (List Span)) : List Char :=
  rows.flatMap (writeRow colours)

end Span

end LoxFront
