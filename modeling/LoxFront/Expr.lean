import LoxFront.Token.Basic

/-! # Expressions

Expression trees, with the operator tokens that they were made from, and their parenthesised form:
every node but a literal is written as a list in parentheses, head first, so the form shows the
shape of the tree without any rule of precedence.
-/

namespace LoxFront

inductive Value where
  | nil
  | bool (value : Bool)
  | number (value : Binary64)
  | string (value : String)
deriving DecidableEq

namespace Value

/-- The text of a value; a string stands for itself, without quotes. -/
def text : Value → List Char
  | nil => "nil".toList
  | bool true => "true".toList
  | bool false => "false".toList
  | number value => value.display
  | string value => value.toList

/-- Whether two values are the same; numbers are compared as numbers, not as bits. -/
def sameValue : Value → Value → Bool
  | nil, nil => true
  | bool a, bool b => a == b
  | number a, number b => a.sameNumber b
  | string a, string b => a == b
  | _, _ => false

end Value

inductive Expr where
  | literal (value : Value)
  | unary (operator : Token) (operand : Expr)
  | binary (left : Expr) (operator : Token) (right : Expr)
  | grouping (inner : Expr)
deriving DecidableEq

namespace Expr

/-- A head and its operands in parentheses, with a space before each operand. -/
def inParentheses (head : List Char) (operands : List (List Char)) : List Char :=
  '(' :: (head ++ operands.flatMap (' ' :: ·) ++ [')'])

def form : Expr → List Char
  | literal value => value.text
  | unary operator operand => inParentheses operator.lexeme.toList [operand.form]
  | binary left operator right => inParentheses operator.lexeme.toList [left.form, right.form]
  | grouping inner => inParentheses "group".toList [inner.form]

def text (e : Expr) : String :=
  String.ofList e.form

/-- Whether two expressions are the same in shape, operator tokens and literals; numbers are
    compared as numbers, not as bits. -/
def sameAs : Expr → Expr → Bool
  | literal a, literal b => a.sameValue b
  | unary s a, unary t b => s.sameAs t && a.sameAs b
  | binary a s b, binary c t d => a.sameAs c && s.sameAs t && b.sameAs d
  | grouping a, grouping b => a.sameAs b
  | _, _ => false

end Expr

end LoxFront
