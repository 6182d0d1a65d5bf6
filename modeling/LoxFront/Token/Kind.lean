/-! # Kinds of tokens

The punctuation marks and the reserved words of the language, each with its spelling and the name
it goes by in listings, and the kinds of tokens made of them.  Spellings and names are tables; the
lookups search them, so a lookup and its table cannot disagree.
-/

namespace LoxFront

/-! ## Punctuation -/

/-- The punctuation marks, one or two characters long. -/
inductive Punct where
  | leftParen | rightParen | leftBrace | rightBrace
  | comma | dot | minus | plus | semicolon | slash | star
  | bang | bangEqual | equal | equalEqual
  | greater | greaterEqual | less | lessEqual
deriving DecidableEq, Repr

namespace Punct

def spelling : Punct → List Char
  | leftParen => ['(']
  | rightParen => [')']
  | leftBrace => ['{']
  | rightBrace => ['}']
  | comma => [',']
  | dot => ['.']
  | minus => ['-']
  | plus => ['+']
  | semicolon => [';']
  | slash => ['/']
  | star => ['*']
  | bang => ['!']
  | bangEqual => ['!', '=']
  | equal => ['=']
  | equalEqual => ['=', '=']
  | greater => ['>']
  | greaterEqual => ['>', '=']
  | less => ['<']
  | lessEqual => ['<', '=']

def name : Punct → String
  | leftParen => "LEFT_PAREN"
  | rightParen => "RIGHT_PAREN"
  | leftBrace => "LEFT_BRACE"
  | rightBrace => "RIGHT_BRACE"
  | comma => "COMMA"
  | dot => "DOT"
  | minus => "MINUS"
  | plus => "PLUS"
  | semicolon => "SEMICOLON"
  | slash => "SLASH"
  | star => "STAR"
  | bang => "BANG"
  | bangEqual => "BANG_EQUAL"
  | equal => "EQUAL"
  | equalEqual => "EQUAL_EQUAL"
  | greater => "GREATER"
  | greaterEqual => "GREATER_EQUAL"
  | less => "LESS"
  | lessEqual => "LESS_EQUAL"

def all : List Punct :=
  [leftParen, rightParen, leftBrace, rightBrace, comma, dot, minus, plus, semicolon, slash, star,
   bang, bangEqual, equal, equalEqual, greater, greaterEqual, less, lessEqual]

theorem mem_all (p : Punct) : p ∈ all := by
  cases p <;> decide

def ofSpelling? (text : List Char) : Option Punct :=
  all.find? (·.spelling == text)

theorem ofSpelling?_eq_some_iff {text : List Char} {p : Punct} :
    ofSpelling? text = some p ↔ p.spelling = text := by
  constructor
  · intro h
    simpa using List.find?_some h
  · rintro rfl
    cases p <;> decide

end Punct

/-! ## Reserved words -/

inductive Keyword where
  | andWord | classWord | elseWord | falseWord | funWord | forWord | ifWord | nilWord
  | orWord | printWord | returnWord | superWord | thisWord | trueWord | varWord | whileWord
deriving DecidableEq, Repr

namespace Keyword

def spelling : Keyword → List Char
  | andWord => ['a', 'n', 'd']
  | classWord => ['c', 'l', 'a', 's', 's']
  | elseWord => ['e', 'l', 's', 'e']
  | falseWord => ['f', 'a', 'l', 's', 'e']
  | funWord => ['f', 'u', 'n']
  | forWord => ['f', 'o', 'r']
  | ifWord => ['i', 'f']
  | nilWord => ['n', 'i', 'l']
  | orWord => ['o', 'r']
  | printWord => ['p', 'r', 'i', 'n', 't']
  | returnWord => ['r', 'e', 't', 'u', 'r', 'n']
  | superWord => ['s', 'u', 'p', 'e', 'r']
  | thisWord => ['t', 'h', 'i', 's']
  | trueWord => ['t', 'r', 'u', 'e']
  | varWord => ['v', 'a', 'r']
  | whileWord => ['w', 'h', 'i', 'l', 'e']

def name : Keyword → String
  | andWord => "AND"
  | classWord => "CLASS"
  | elseWord => "ELSE"
  | falseWord => "FALSE"
  | funWord => "FUN"
  | forWord => "FOR"
  | ifWord => "IF"
  | nilWord => "NIL"
  | orWord => "OR"
  | printWord => "PRINT"
  | returnWord => "RETURN"
  | superWord => "SUPER"
  | thisWord => "THIS"
  | trueWord => "TRUE"
  | varWord => "VAR"
  | whileWord => "WHILE"

def all : List Keyword :=
  [andWord, classWord, elseWord, falseWord, funWord, forWord, ifWord, nilWord,
   orWord, printWord, returnWord, superWord, thisWord, trueWord, varWord, whileWord]

theorem mem_all (k : Keyword) : k ∈ all := by
  cases k <;> decide

/-- The reserved word with the given spelling; spellings are all lower case, and only an exact
    match counts. -/
def ofSpelling? (word : List Char) : Option Keyword :=
  all.find? (·.spelling == word)

theorem ofSpelling?_eq_some_iff {word : List Char} {k : Keyword} :
    ofSpelling? word = some k ↔ k.spelling = word := by
  constructor
  · intro h
    simpa using List.find?_some h
  · rintro rfl
    cases k <;> decide

end Keyword

/-! ## Kinds -/

inductive TokenKind where
  | punct (p : Punct)
  | identifier
  | string
  | number
  | keyword (k : Keyword)
  | endOfText
deriving DecidableEq, Repr

namespace TokenKind

def name : TokenKind → String
  | punct p => p.name
  | identifier => "IDENTIFIER"
  | string => "STRING"
  | number => "NUMBER"
  | keyword k => k.name
  | endOfText => "EOF"

def all : List TokenKind :=
  Punct.all.map punct ++ [identifier, string, number] ++ Keyword.all.map keyword ++ [endOfText]

theorem mem_all (kind : TokenKind) : kind ∈ all := by
  cases kind with
  | punct p => simp [all, Punct.mem_all p]
  | keyword k => simp [all, Keyword.mem_all k]
  | _ => simp [all]

def ofName? (name : String) : Option TokenKind :=
  all.find? (·.name == name)

def isKeyword : TokenKind → Bool
  | keyword _ => true
  | _ => false

def hasLiteral : TokenKind → Bool
  | string => true
  | number => true
  | _ => false

end TokenKind

end LoxFront
