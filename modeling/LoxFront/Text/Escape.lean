import LoxFront.Text.Category

/-! # Characters as messages show them

A message that quotes a character shows it so that it can be read: quotes, the backslash and the
common control characters by a backslash and a letter, any other character without a glyph of its
own by its number, and every other character by itself.  Without a glyph are control and format
characters, spaces other than the plain one, line and paragraph separators, private and unassigned
code points, marks, which print only on the character before them, and a few letters that fill an
empty place and are drawn as nothing.
-/

namespace LoxFront.Text

/-! ## Characters without a glyph -/

/-- The letters that stand for an empty place in a syllable. -/
def fillers : Ranges :=
  [(0x115F, 0x1160), (0x3164, 0x3164), (0xFFA0, 0xFFA0)]

/-- The characters without a glyph of their own; no order between the tables is needed. -/
def unprintables : Ranges :=
  Category.controls ++ Category.formats ++ Category.spaces ++ Category.lineSeparators ++
    Category.privateUse ++ Category.marks ++ Category.extendingMarks ++ fillers ++
    Category.unassigned

def isUnprintable (c : Char) : Bool :=
  if ' ' ≤ c ∧ c ≤ '~' then false else unprintables.covers c

/-! ## Escapes -/

/-- A character by its number: `\u`, then the code point in lower-case hexadecimal digits between
    braces. -/
def escapeByNumber (c : Char) : List Char :=
  ['\\', 'u', '{'] ++ Nat.toDigits 16 c.toNat ++ ['}']

def escape (c : Char) : List Char :=
  match c with
  | '\x00' => ['\\', '0']
  | '\t' => ['\\', 't']
  | '\r' => ['\\', 'r']
  | '\n' => ['\\', 'n']
  | '\\' => ['\\', '\\']
  | '\'' => ['\\', '\'']
  | '"' => ['\\', '"']
  | c => if isUnprintable c then escapeByNumber c else [c]

end LoxFront.Text
