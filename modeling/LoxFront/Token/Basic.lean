import LoxFront.Token.Kind
import LoxFront.Binary64.Display

/-! # Tokens

A token is a kind, the text it was read from, the literal it stands for if it has one, and the
line on which it starts.  Any combination of these is a token; which ones a scan yields is a matter
of the scan.  A listing shows the first three, and not the line.
-/

namespace LoxFront

inductive Literal where
  | string (value : String)
  | number (value : Binary64)
deriving DecidableEq

namespace Literal

/-- The text of a literal: a string stands for itself, without quotes. -/
def text : Literal → String
  | string value => value
  | number value => String.ofList value.display

def number? : Literal → Option Binary64
  | string _ => none
  | number value => some value

/-- Whether two literals have the same value; numbers are compared as numbers, not as bits. -/
def sameValue : Literal → Literal → Bool
  | string a, string b => a == b
  | number a, number b => a.sameNumber b
  | _, _ => false

end Literal

structure Token where
  kind : TokenKind
  lexeme : String
  literal : Option Literal
  line : Nat
deriving DecidableEq

namespace Token

def endOfText (line : Nat) : Token :=
  ⟨.endOfText, "", none, line⟩

/-- A token as a listing shows it: kind, lexeme and literal, where `null` stands for no
    literal. -/
def text (t : Token) : String :=
  t.kind.name ++ " " ++ t.lexeme ++ " " ++ (t.literal.elim "null" Literal.text)

def dump (tokens : List Token) : String :=
  String.join (tokens.map fun t => t.text ++ "\n")

/-- Whether two tokens agree in kind, lexeme, line and the value of the literal.  This is equality
    but for numbers: a NaN differs from itself, and the two zeros agree. -/
def sameAs (s t : Token) : Bool :=
  s.kind == t.kind && s.lexeme == t.lexeme && s.line == t.line &&
    match s.literal, t.literal with
    | none, none => true
    | some a, some b => a.sameValue b
    | _, _ => false

end Token

end LoxFront
