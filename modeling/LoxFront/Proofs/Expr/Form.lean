import LoxFront.Expr
import LoxFront.Proofs.Binary64.Display
import LoxFront.Proofs.Scan.RoundTrip

/-! # Forms of expressions scanned

The form of an expression scans to a row of tokens that is the expression flattened, if its
operators have lexemes of their own and no string is in it (`scan_text`).  A form can be scanned
inside another one because it stops in front of a space or a closing parenthesis, whatever stands
behind that; `ScansTo` says it of any text, and the rules for it follow the way in which a form is
put together.
-/

namespace LoxFront

open Text (newlines)

/-! ## The tokens of an expression -/

/-- The kind of token with a spelling, if it is a mark or a reserved word. -/
def TokenKind.ofSpelling? (text : List Char) : Option TokenKind :=
  ((Punct.ofSpelling? text).map punct).or ((Keyword.ofSpelling? text).map keyword)

namespace Token

def ofPunct (p : Punct) (line : Nat) : Token :=
  ⟨.punct p, String.ofList p.spelling, none, line⟩

def ofKeyword (k : Keyword) (line : Nat) : Token :=
  ⟨.keyword k, String.ofList k.spelling, none, line⟩

/-- Whether the lexeme of a token is a mark or a reserved word, whatever its kind. -/
def isSpelled (t : Token) : Bool :=
  (TokenKind.ofSpelling? t.lexeme.toList).isSome

/-- The mark or the reserved word that the lexeme of a token is, as tokens on a line. -/
def spelled (line : Nat) (t : Token) : List Token :=
  (TokenKind.ofSpelling? t.lexeme.toList).toList.map fun kind => ⟨kind, t.lexeme, none, line⟩

def inParentheses (line : Nat) (inner : List Token) : List Token :=
  ofPunct .leftParen line :: (inner ++ [ofPunct .rightParen line])

end Token

namespace Value

/-- Whether a value is displayed by a single token. -/
def isPlain : Value → Bool
  | nil => true
  | bool _ => true
  | number x => x.isFinite && !x.negative
  | string _ => false

def tokens (line : Nat) : Value → List Token
  | nil => [.ofKeyword .nilWord line]
  | bool true => [.ofKeyword .trueWord line]
  | bool false => [.ofKeyword .falseWord line]
  | number x => [⟨.number, String.ofList x.display, some (.number x), line⟩]
  -- A string is written without its quotes, so there is no token for it.
  | string _ => []

end Value

namespace Expr

/-- Whether the literals of an expression are plain and its operators spelled. -/
def isPlain : Expr → Bool
  | literal value => value.isPlain
  | unary operator operand => operator.isSpelled && operand.isPlain
  | binary left operator right => left.isPlain && operator.isSpelled && right.isPlain
  | grouping inner => inner.isPlain

/-- The tokens of an expression in the order of its form, all on one line. -/
def flatten (line : Nat) : Expr → List Token
  | literal value => value.tokens line
  | unary operator operand =>
      Token.inParentheses line (operator.spelled line ++ operand.flatten line)
  | binary left operator right =>
      Token.inParentheses line (operator.spelled line ++ left.flatten line ++ right.flatten line)
  | grouping inner =>
      Token.inParentheses line (⟨.identifier, "group", none, line⟩ :: inner.flatten line)

end Expr

/-! ## Texts inside a form -/

/-- Whether a form ends in front of a text: of a space, of a closing parenthesis or of nothing. -/
def endsForm (rest : List Char) : Bool :=
  rest.head?.all fun c => c == ' ' || c == ')'

theorem endsForm_append {text rest : List Char} (ends : endsForm text = true)
    (ends' : endsForm rest = true) : endsForm (text ++ rest) = true := by
  cases text with
  | nil => exact ends'
  | cons c text => exact ends

theorem endsForm_operands (operands : List (List Char)) :
    endsForm (operands.flatMap (' ' :: ·)) = true := by
  cases operands with
  | nil => rfl
  | cons operand operands => rfl

/-- A text of one line that scans to some tokens where a form ends behind it. -/
structure ScansTo (text : List Char) (tokens : Nat → List Token) : Prop where
  oneLine : newlines text = 0
  scanAt_eq : ∀ (p : Place) {rest : List Char}, endsForm rest = true →
    scanAt p (text ++ rest) = ⟨tokens p.line, []⟩ ++ scanAt (p.after text) rest

/-! ## Tokens -/

theorem Segment.Spells.goesOn_of_endsForm {s : Segment} {t : Token} (spells : s.Spells t)
    {rest : List Char} (ends : endsForm rest = true) : s.goesOn rest = false := by
  cases rest with
  | nil => exact s.goesOn_nil
  | cons c rest =>
    have char : c = ' ' ∨ c = ')' := by simpa [endsForm] using ends
    obtain rfl | rfl := char
    · exact spells.goesOn_eq_false rfl
    · have isToken := spells.kind?_eq
      cases s with
      | openString _ | comment _ => cases isToken
      | punct p => cases p <;> rfl
      | numeral n => simp [Segment.goesOn, Numeral.goesOn, Numeral.opensFraction]
      | _ => rfl

namespace Segment

theorem spells_punct (p : Punct) : (punct p).Spells (.ofPunct p 1) :=
  ⟨trivial, fun _ => rfl⟩

theorem spells_keyword (k : Keyword) : (word k.spelling).Spells (.ofKeyword k 1) where
  wellFormed := by
    refine ⟨?_, ?_⟩
    · cases k <;> rfl
    · cases k <;> simp [Keyword.spelling, isWordPart]
  token?_eq := by
    intro line
    have known : Keyword.ofSpelling? k.spelling = some k := Keyword.ofSpelling?_eq_some_iff.2 rfl
    rw [token?, kind?, known]
    rfl

theorem spells_group : (word "group".toList).Spells ⟨.identifier, "group", none, 1⟩ :=
  ⟨⟨rfl, by simp [isWordPart]⟩, fun _ => rfl⟩

theorem spells_numeral {n : Numeral} (wellFormed : n.WellFormed) :
    (numeral n).Spells ⟨.number, String.ofList n.text, some (.number n.value), 1⟩ :=
  ⟨wellFormed, fun _ => rfl⟩

end Segment

/-- What has the spelling of a mark or a reserved word is a token of that kind. -/
theorem TokenKind.exists_spells {lexeme : String} {kind : TokenKind}
    (known : ofSpelling? lexeme.toList = some kind) :
    ∃ s : Segment, s.Spells ⟨kind, lexeme, none, 1⟩ ∧ newlines s.text = 0 := by
  rw [ofSpelling?, Option.or_eq_some_iff] at known
  obtain mark | ⟨-, reserved⟩ := known
  · obtain ⟨p, found, rfl⟩ := Option.map_eq_some_iff.1 mark
    have spelling := Punct.ofSpelling?_eq_some_iff.1 found
    obtain rfl : String.ofList p.spelling = lexeme := by rw [spelling, String.ofList_toList]
    refine ⟨.punct p, Segment.spells_punct p, ?_⟩
    cases p <;> rfl
  · obtain ⟨k, found, rfl⟩ := Option.map_eq_some_iff.1 reserved
    have spelling := Keyword.ofSpelling?_eq_some_iff.1 found
    obtain rfl : String.ofList k.spelling = lexeme := by rw [spelling, String.ofList_toList]
    refine ⟨.word k.spelling, Segment.spells_keyword k, ?_⟩
    cases k <;> rfl

/-! ## Forms -/

namespace ScansTo

variable {text text' : List Char} {tokens tokens' : Nat → List Token}

theorem line_after (scans : ScansTo text tokens) (p : Place) : (p.after text).line = p.line := by
  rw [Place.after, scans.oneLine, Nat.add_zero]

theorem nil : ScansTo [] fun _ => [] where
  oneLine := rfl
  scanAt_eq := fun _ _ _ => rfl

theorem of_spells {s : Segment} {t : Token} (spells : s.Spells t)
    (oneLine : newlines s.text = 0) : ScansTo s.text fun line => [t.onLine line] where
  oneLine := oneLine
  scanAt_eq := by
    intro p rest ends
    rw [scanAt_segment spells.wellFormed (spells.goesOn_of_endsForm ends), spells.found_eq]

theorem append (scans : ScansTo text tokens) (scans' : ScansTo text' tokens')
    (ends : endsForm text' = true) :
    ScansTo (text ++ text') fun line => tokens line ++ tokens' line where
  oneLine := by rw [Text.newlines_append, scans.oneLine, scans'.oneLine]
  scanAt_eq := by
    intro p rest behind
    rw [List.append_assoc, scans.scanAt_eq p (endsForm_append ends behind),
      scans'.scanAt_eq _ behind, scans.line_after, Place.after_append, ← Scan.append_assoc]
    rfl

theorem space (scans : ScansTo text tokens) : ScansTo (' ' :: text) tokens where
  oneLine := scans.oneLine
  scanAt_eq := by
    intro p rest ends
    have separator : isSeparator ' ' = true := rfl
    rw [List.cons_append, scanAt_separator separator, scans.scanAt_eq _ ends,
      ← Place.after_append]
    rfl

/-- A parenthesis that opens is a token by itself, whatever stands behind it. -/
theorem opened (scans : ScansTo text tokens) :
    ScansTo ('(' :: text) fun line => .ofPunct .leftParen line :: tokens line where
  oneLine := scans.oneLine
  scanAt_eq := by
    intro p rest ends
    have alone : (Segment.punct .leftParen).goesOn (text ++ rest) = false := by
      cases text ++ rest <;> rfl
    have first : scanAt p ('(' :: (text ++ rest)) =
        ⟨[.ofPunct .leftParen p.line], []⟩ ++ scanAt (p.after ['(']) (text ++ rest) :=
      scanAt_segment (s := .punct .leftParen) trivial alone p
    rw [List.cons_append, first, scans.scanAt_eq _ ends, ← Scan.append_assoc,
      ← Place.after_append]
    rfl

theorem closing : ScansTo [')'] fun line => [.ofPunct .rightParen line] :=
  of_spells (Segment.spells_punct .rightParen) rfl

theorem operands {operands : List (List Char)} {found : List (Nat → List Token)}
    (scans : List.Forall₂ ScansTo operands found) :
    ScansTo (operands.flatMap (' ' :: ·)) fun line => found.flatMap (· line) := by
  induction scans with
  | nil => exact nil
  | @cons operand tokens operands found first rest ih =>
    exact first.space.append ih (endsForm_operands _)

theorem inParentheses {head : List Char} {headTokens : Nat → List Token}
    (head_scans : ScansTo head headTokens) {operands : List (List Char)}
    {found : List (Nat → List Token)} (scans : List.Forall₂ ScansTo operands found) :
    ScansTo (Expr.inParentheses head operands) fun line =>
      Token.inParentheses line (headTokens line ++ found.flatMap (· line)) := by
  have inner := head_scans.append (ScansTo.operands scans) (endsForm_operands _)
  exact (inner.append closing rfl).opened

theorem scan_eq (scans : ScansTo text tokens) :
    scan (String.ofList text) = ⟨tokens 1 ++ [.endOfText 1], []⟩ := by
  have nothing : endsForm [] = true := rfl
  have whole := scans.scanAt_eq .start nothing
  rw [List.append_nil, scanAt_nil, ← String.toList_ofList (l := text)] at whole
  have last : lastLine (String.ofList text) = 1 := by
    rw [lastLine, String.toList_ofList, scans.line_after]
    rfl
  have found : (scan (String.ofList text)).tokens = tokens 1 ++ [.endOfText 1] := by
    rw [scan_tokens, whole, last]
    simp [Place.start]
  have faults : (scan (String.ofList text)).faults = [] := by
    rw [scan_faults, whole]
    rfl
  exact congrArg₂ Scan.mk found faults

end ScansTo

/-! ## Expressions -/

namespace ScansTo

theorem spelled {t : Token} (isSpelled : t.isSpelled = true) :
    ScansTo t.lexeme.toList fun line => t.spelled line := by
  obtain ⟨kind, known⟩ := Option.isSome_iff_exists.1 isSpelled
  obtain ⟨s, spells, oneLine⟩ := TokenKind.exists_spells known
  have tokens : (fun line => t.spelled line) =
      fun line => [Token.onLine ⟨kind, t.lexeme, none, 1⟩ line] := by
    funext line
    rw [Token.spelled, known]
    rfl
  rw [tokens, ← spells.text_eq]
  exact of_spells spells oneLine

theorem value {v : Value} (plain : v.isPlain = true) : ScansTo v.text (v.tokens ·) := by
  cases v with
  | nil => exact of_spells (Segment.spells_keyword .nilWord) rfl
  | bool b =>
    cases b with
    | true => exact of_spells (Segment.spells_keyword .trueWord) rfl
    | false => exact of_spells (Segment.spells_keyword .falseWord) rfl
  | number x =>
    obtain ⟨finite, positive⟩ := Bool.and_eq_true_iff.1 plain
    obtain ⟨n, wellFormed, display, reads⟩ :=
      Binary64.exists_numeral_of_display finite (by simpa using positive)
    have oneLine : newlines n.text = 0 := by
      refine List.count_eq_zero.2 ?_
      intro member
      obtain digit | point := Numeral.isDigit_or_point_of_mem_text wellFormed _ member
      · exact Bool.false_ne_true digit
      · exact absurd point (by decide)
    have scans : ScansTo n.text fun line =>
        [⟨.number, String.ofList n.text, some (.number n.value), line⟩] :=
      of_spells (Segment.spells_numeral wellFormed) oneLine
    rw [display, reads] at scans
    exact scans
  | string _ => exact absurd plain Bool.false_ne_true

theorem form {e : Expr} (plain : e.isPlain = true) : ScansTo e.form (e.flatten ·) := by
  induction e with
  | literal v => exact value plain
  | unary operator operand ih =>
    obtain ⟨isSpelled, operandPlain⟩ := Bool.and_eq_true_iff.1 plain
    have scans := inParentheses (spelled isSpelled) (.cons (ih operandPlain) .nil)
    simpa [Expr.form, Expr.flatten] using scans
  | binary left operator right ih ih' =>
    obtain ⟨front, rightPlain⟩ := Bool.and_eq_true_iff.1 plain
    obtain ⟨leftPlain, isSpelled⟩ := Bool.and_eq_true_iff.1 front
    have scans := inParentheses (spelled isSpelled)
      (.cons (ih leftPlain) (.cons (ih' rightPlain) .nil))
    simpa [Expr.form, Expr.flatten] using scans
  | grouping inner ih =>
    have scans := inParentheses (of_spells Segment.spells_group rfl) (.cons (ih plain) .nil)
    simpa [Expr.form, Expr.flatten, Segment.text, Token.onLine] using scans

end ScansTo

/-- The form of an expression with plain literals and spelled operators scans, without a fault, to
    the expression flattened; its operators are the tokens that their lexemes scan to by
    themselves. -/
theorem scan_form :
    (∀ e : Expr, e.isPlain = true → scan e.text = ⟨e.flatten 1 ++ [.endOfText 1], []⟩) ∧
    ∀ t : Token, t.isSpelled = true → ∃ kind, t.spelled 1 = [⟨kind, t.lexeme, none, 1⟩] ∧
      scan t.lexeme = ⟨[⟨kind, t.lexeme, none, 1⟩, .endOfText 1], []⟩ := by
  refine ⟨fun e plain => (ScansTo.form plain).scan_eq, ?_⟩
  intro t isSpelled
  obtain ⟨kind, known⟩ := Option.isSome_iff_exists.1 isSpelled
  have only : t.spelled 1 = [⟨kind, t.lexeme, none, 1⟩] := by
    rw [Token.spelled, known]
    rfl
  have found := (ScansTo.spelled isSpelled).scan_eq
  rw [only, String.ofList_toList] at found
  exact ⟨kind, only, found⟩

/-- A product of a negation and a grouping, in which the kinds of the operators do not matter. -/
theorem scan_form_product :
    ∃ e : Expr, e.isPlain = true ∧ e.text = "(* (- 123) (group 45.67))" ∧
      scan e.text = ⟨e.flatten 1 ++ [.endOfText 1], []⟩ := by
  let e : Expr := .binary
    (.unary ⟨.punct .minus, "-", none, 1⟩ (.literal (.number (.ofRatio 123 1))))
    ⟨.identifier, "*", none, 7⟩
    (.grouping (.literal (.number (.ofRatio 4567 100))))
  have plain : e.isPlain = true := by decide +kernel
  exact ⟨e, plain, by decide +kernel, scan_form.1 e plain⟩

end LoxFront
