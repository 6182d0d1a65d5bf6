import LoxFront.Proofs.Binary64.Injective
import LoxFront.Proofs.Expr.Form

/-! # Forms told apart

The form of an expression tells the shape of the expression, the lexemes of its operators and its
literals, and nothing else (`text_eq_iff_alike`).  It takes legible literals and operators: the text
of a string may be anything, all NaNs have the same text, and an operator that is spelled like the
head of a grouping is taken for one.  An operand ends where a space or a closing parenthesis stands
behind it, so a form can be told inside of another one, and how many operands a head has is told by
the parenthesis that ends them.
-/

namespace LoxFront

/-! ## Words inside a form -/

/-- Whether a character can stand inside a word of a form. -/
def isFormPart (c : Char) : Bool :=
  c != ' ' && c != '(' && c != ')'

theorem isFormPart_of_isDisplayed {c : Char} (displayed : Binary64.isDisplayed c = true) :
    isFormPart c = true := by
  have space : c ≠ ' ' := ne_of_class displayed rfl
  have opening : c ≠ '(' := ne_of_class displayed rfl
  have closing : c ≠ ')' := ne_of_class displayed rfl
  simp [isFormPart, space, opening, closing]

/-- A word ends where a form ends, so it can be told from what stands behind it. -/
theorem eq_of_append_eq {word word' rest rest' : List Char}
    (inside : ∀ c ∈ word, isFormPart c = true) (inside' : ∀ c ∈ word', isFormPart c = true)
    (ends : endsForm rest = true) (ends' : endsForm rest' = true)
    (same : word ++ rest = word' ++ rest') : word = word' ∧ rest = rest' := by
  have stops : ∀ {text : List Char}, endsForm text = true →
      text.head?.any isFormPart = false := by
    intro text textEnds
    cases text with
    | nil => rfl
    | cons c text =>
      have char : c = ' ' ∨ c = ')' := by simpa [endsForm] using textEnds
      obtain rfl | rfl := char <;> rfl
  constructor
  · rw [← takeWhile_run inside (stops ends), same, takeWhile_run inside' (stops ends')]
  · rw [← dropWhile_run inside (stops ends), same, dropWhile_run inside' (stops ends')]

/-! ## Legible expressions -/

namespace Value

/-- Whether a value can be told from its text. -/
def isLegible : Value → Bool
  | nil => true
  | bool _ => true
  | number x => !x.isNaN
  | string _ => false

theorem isNaN_eq_false {x : Binary64} (legible : (number x).isLegible = true) :
    x.isNaN = false := by
  simpa [isLegible] using legible

theorem isFormPart_of_mem_text {v : Value} (legible : v.isLegible = true) :
    ∀ c ∈ v.text, isFormPart c = true := by
  cases v with
  | nil => simp [text, isFormPart]
  | bool b => cases b <;> simp [text, isFormPart]
  | number x =>
    intro c member
    have displayed := Binary64.isDisplayed_of_mem_display (isNaN_eq_false legible) member
    exact isFormPart_of_isDisplayed displayed
  | string _ => exact absurd legible Bool.false_ne_true

/-- A word with a letter that no number is displayed with is not the text of a number. -/
theorem text_number_ne {x : Binary64} (legible : (number x).isLegible = true) {word : List Char}
    (letter : word.any (fun c => !Binary64.isDisplayed c) = true) : (number x).text ≠ word := by
  intro same
  obtain ⟨c, member, outside⟩ := List.any_eq_true.1 letter
  rw [← same] at member
  have displayed := Binary64.isDisplayed_of_mem_display (isNaN_eq_false legible) member
  rw [displayed] at outside
  exact Bool.false_ne_true outside

theorem text_injective {v w : Value} (legible : v.isLegible = true) (legible' : w.isLegible = true)
    (same : v.text = w.text) : v = w := by
  cases v with
  | nil =>
    cases w with
    | nil => rfl
    | bool b => cases b <;> exact absurd same (by decide)
    | number y => exact absurd same.symm (text_number_ne legible' (by decide))
    | string _ => exact absurd legible' Bool.false_ne_true
  | bool b =>
    cases w with
    | nil => cases b <;> exact absurd same (by decide)
    | bool b' => cases b <;> cases b' <;> first | rfl | exact absurd same (by decide)
    | number y => cases b <;> exact absurd same.symm (text_number_ne legible' (by decide))
    | string _ => exact absurd legible' Bool.false_ne_true
  | number x =>
    cases w with
    | nil => exact absurd same (text_number_ne legible (by decide))
    | bool b => cases b <;> exact absurd same (text_number_ne legible (by decide))
    | number y =>
      rw [Binary64.display_injective (isNaN_eq_false legible) (isNaN_eq_false legible') same]
    | string _ => exact absurd legible' Bool.false_ne_true
  | string _ => exact absurd legible Bool.false_ne_true

end Value

/-- Whether the lexeme of a token is a word inside a form, and not the head of a grouping. -/
def Token.isLegible (t : Token) : Bool :=
  t.lexeme.toList.all isFormPart && t.lexeme != "group"

namespace Token

variable {t : Token} (legible : t.isLegible = true)
include legible

theorem isFormPart_of_mem_lexeme : ∀ c ∈ t.lexeme.toList, isFormPart c = true :=
  List.all_eq_true.1 (Bool.and_eq_true_iff.1 legible).1

theorem lexeme_ne_group : t.lexeme.toList ≠ "group".toList := by
  intro same
  have other := (Bool.and_eq_true_iff.1 legible).2
  rw [String.toList_injective same] at other
  exact absurd other (by decide)

end Token

namespace Expr

/-- Whether the literals and the operators of an expression are legible. -/
def isLegible : Expr → Bool
  | literal value => value.isLegible
  | unary operator operand => operator.isLegible && operand.isLegible
  | binary left operator right => left.isLegible && operator.isLegible && right.isLegible
  | grouping inner => inner.isLegible

/-- Whether two expressions are of the same shape, with the same lexemes for operators and the same
    literals, to the bit. -/
inductive Alike : Expr → Expr → Prop where
  | literal (value : Value) : Alike (literal value) (literal value)
  | unary {operator operator' : Token} {operand operand' : Expr} :
      operator.lexeme = operator'.lexeme → Alike operand operand' →
      Alike (unary operator operand) (unary operator' operand')
  | binary {left left' right right' : Expr} {operator operator' : Token} :
      Alike left left' → operator.lexeme = operator'.lexeme → Alike right right' →
      Alike (binary left operator right) (binary left' operator' right')
  | grouping {inner inner' : Expr} :
      Alike inner inner' → Alike (grouping inner) (grouping inner')

/-! ## Telling forms apart -/

theorem Alike.form_eq {e e' : Expr} (alike : e.Alike e') : e.form = e'.form := by
  induction alike with
  | literal value => rfl
  | unary lexemes _ ih => rw [form, form, lexemes, ih]
  | binary _ lexemes _ ih ih' => rw [form, form, lexemes, ih, ih']
  | grouping _ ih => rw [form, form, ih]

/-- The form of an expression, wherever a form may stand, is that of no expressions but those that
    are alike. -/
def Told (e : Expr) : Prop :=
  ∀ (e' : Expr) (rest rest' : List Char), e'.isLegible = true → endsForm rest = true →
    endsForm rest' = true → e.form ++ rest = e'.form ++ rest' → e.Alike e' ∧ rest = rest'

theorem inParentheses_append (head : List Char) (operands : List (List Char)) (rest : List Char) :
    inParentheses head operands ++ rest =
      '(' :: (head ++ (operands.flatMap (' ' :: ·) ++ ')' :: rest)) := by
  simp [inParentheses]

/-- What stands in front of each operand, a space, and behind the last of them, a parenthesis, tells
    how many they are. -/
theorem alike_of_operands_eq {operands operands' : List Expr} {rest rest' : List Char}
    (told : ∀ e ∈ operands, e.Told) (legible : ∀ e ∈ operands', e.isLegible = true)
    (same : (operands.map form).flatMap (' ' :: ·) ++ ')' :: rest =
      (operands'.map form).flatMap (' ' :: ·) ++ ')' :: rest') :
    List.Forall₂ Alike operands operands' ∧ rest = rest' := by
  have ends : ∀ (others : List Expr) (rest : List Char),
      endsForm ((others.map form).flatMap (' ' :: ·) ++ ')' :: rest) = true := fun others rest =>
    endsForm_append (endsForm_operands _) rfl
  induction operands generalizing operands' with
  | nil =>
    cases operands' with
    | nil => exact ⟨.nil, (List.cons.inj same).2⟩
    | cons e' operands' => exact absurd (List.cons.inj same).1 (by decide)
  | cons e operands ih =>
    cases operands' with
    | nil => exact absurd (List.cons.inj same).1 (by decide)
    | cons e' operands' =>
      obtain ⟨first, others⟩ := List.forall_mem_cons.1 told
      obtain ⟨first', others'⟩ := List.forall_mem_cons.1 legible
      simp only [List.map_cons, List.flatMap_cons, List.cons_append, List.append_assoc] at same
      obtain ⟨alike, behind⟩ := first e' _ _ first' (ends _ _) (ends _ _) (List.cons.inj same).2
      obtain ⟨rests, rest_eq⟩ := ih others others' behind
      exact ⟨.cons alike rests, rest_eq⟩

/-- Lists in parentheses that are written alike have the same head and operands that are alike. -/
theorem alike_of_inParentheses_eq {head head' : List Char} {operands operands' : List Expr}
    {rest rest' : List Char} (inside : ∀ c ∈ head, isFormPart c = true)
    (inside' : ∀ c ∈ head', isFormPart c = true) (told : ∀ e ∈ operands, e.Told)
    (legible : ∀ e ∈ operands', e.isLegible = true)
    (same : inParentheses head (operands.map form) ++ rest =
      inParentheses head' (operands'.map form) ++ rest') :
    head = head' ∧ List.Forall₂ Alike operands operands' ∧ rest = rest' := by
  rw [inParentheses_append, inParentheses_append] at same
  obtain ⟨heads, behind⟩ := eq_of_append_eq inside inside'
    (endsForm_append (endsForm_operands _) rfl) (endsForm_append (endsForm_operands _) rfl)
    (List.cons.inj same).2
  exact ⟨heads, alike_of_operands_eq told legible behind⟩

/-- A literal is not written like a list in parentheses. -/
theorem text_append_ne {v : Value} (legible : v.isLegible = true) (head : List Char)
    (operands : List (List Char)) {rest : List Char} (ends : endsForm rest = true)
    (rest' : List Char) : v.text ++ rest ≠ inParentheses head operands ++ rest' := by
  intro same
  rw [inParentheses_append] at same
  cases text : v.text with
  | nil =>
    rw [text, List.nil_append] at same
    rw [same] at ends
    exact Bool.false_ne_true ends
  | cons c letters =>
    rw [text] at same
    have opening : '(' ∈ v.text := by
      rw [text, ← (List.cons.inj same).1]
      exact List.mem_cons_self
    exact absurd (Value.isFormPart_of_mem_text legible '(' opening) (by decide)

/-! ### Heads and operands -/

/-- The head and the operands of an expression that is written in parentheses. -/
def parts : Expr → Option (List Char × List Expr)
  | literal _ => none
  | unary operator operand => some (operator.lexeme.toList, [operand])
  | binary left operator right => some (operator.lexeme.toList, [left, right])
  | grouping inner => some ("group".toList, [inner])

section Parts

variable {e e' : Expr} {head : List Char} {operands operands' : List Expr}

theorem form_of_parts (parts : e.parts = some (head, operands)) :
    e.form = inParentheses head (operands.map form) := by
  cases e with
  | literal _ => cases parts
  | _ =>
    cases parts
    rfl

theorem legible_of_parts (parts : e.parts = some (head, operands)) (legible : e.isLegible = true) :
    (∀ c ∈ head, isFormPart c = true) ∧ ∀ operand ∈ operands, operand.isLegible = true := by
  cases e with
  | literal _ => cases parts
  | unary operator operand =>
    cases parts
    obtain ⟨word, inner⟩ := Bool.and_eq_true_iff.1 legible
    exact ⟨Token.isFormPart_of_mem_lexeme word, List.forall_mem_singleton.2 inner⟩
  | binary left operator right =>
    cases parts
    obtain ⟨front, rightLegible⟩ := Bool.and_eq_true_iff.1 legible
    obtain ⟨leftLegible, word⟩ := Bool.and_eq_true_iff.1 front
    exact ⟨Token.isFormPart_of_mem_lexeme word, by simp [leftLegible, rightLegible]⟩
  | grouping inner =>
    cases parts
    exact ⟨by simp [isFormPart], List.forall_mem_singleton.2 legible⟩

/-- The head and the operands tell an expression: a unary operator from a binary one by the number
    of the operands, and a grouping from a unary operator by its head. -/
theorem alike_of_parts {head' : List Char} (legible : e.isLegible = true)
    (legible' : e'.isLegible = true) (parts : e.parts = some (head, operands))
    (parts' : e'.parts = some (head', operands')) (heads : head = head')
    (alike : List.Forall₂ Alike operands operands') : e.Alike e' := by
  cases e with
  | literal _ => cases parts
  | unary operator operand =>
    have word := (Bool.and_eq_true_iff.1 legible).1
    cases parts
    cases e' with
    | literal _ => cases parts'
    | unary operator' operand' =>
      cases parts'
      cases alike with
      | cons first _ => exact .unary (String.toList_injective heads) first
    | binary left' operator' right' =>
      cases parts'
      cases alike with
      | cons _ rest => cases rest
    | grouping inner' =>
      cases parts'
      exact absurd heads (Token.lexeme_ne_group word)
  | binary left operator right =>
    cases parts
    cases e' with
    | literal _ => cases parts'
    | unary operator' operand' =>
      cases parts'
      cases alike with
      | cons _ rest => cases rest
    | binary left' operator' right' =>
      cases parts'
      cases alike with
      | cons first rest =>
        cases rest with
        | cons second _ => exact .binary first (String.toList_injective heads) second
    | grouping inner' =>
      cases parts'
      cases alike with
      | cons _ rest => cases rest
  | grouping inner =>
    cases parts
    cases e' with
    | literal _ => cases parts'
    | unary operator' operand' =>
      have word := (Bool.and_eq_true_iff.1 legible').1
      cases parts'
      exact absurd heads.symm (Token.lexeme_ne_group word)
    | binary left' operator' right' =>
      cases parts'
      cases alike with
      | cons _ rest => cases rest
    | grouping inner' =>
      cases parts'
      cases alike with
      | cons first _ => exact .grouping first

/-- A list in parentheses is told if its operands are. -/
theorem told_of_parts (legible : e.isLegible = true) (parts : e.parts = some (head, operands))
    (told : ∀ operand ∈ operands, operand.Told) : e.Told := by
  intro e' rest rest' legible' ends ends' same
  rw [form_of_parts parts] at same
  cases parts' : e'.parts with
  | none =>
    cases e' with
    | literal v => exact absurd same.symm (text_append_ne legible' _ _ ends' _)
    | _ => cases parts'
  | some found =>
    rw [form_of_parts parts'] at same
    obtain ⟨word, -⟩ := legible_of_parts parts legible
    obtain ⟨word', legibles'⟩ := legible_of_parts parts' legible'
    obtain ⟨heads, alike, behind⟩ := alike_of_inParentheses_eq word word' told legibles' same
    exact ⟨alike_of_parts legible legible' parts parts' heads alike, behind⟩

end Parts

/-- The form of a legible expression, wherever a form may stand, is told from all other forms. -/
theorem told_of_isLegible {e : Expr} (legible : e.isLegible = true) : e.Told := by
  induction e with
  | literal v =>
    intro e' rest rest' legible' ends ends' same
    cases e' with
    | literal w =>
      obtain ⟨texts, behind⟩ := eq_of_append_eq (Value.isFormPart_of_mem_text legible)
        (Value.isFormPart_of_mem_text legible') ends ends' same
      obtain rfl := Value.text_injective legible legible' texts
      exact ⟨.literal v, behind⟩
    | _ => exact absurd same (text_append_ne legible _ _ ends _)
  | unary operator operand ih =>
    obtain ⟨-, inner⟩ := Bool.and_eq_true_iff.1 legible
    exact told_of_parts legible rfl (List.forall_mem_singleton.2 (ih inner))
  | binary left operator right ih ih' =>
    obtain ⟨front, rightLegible⟩ := Bool.and_eq_true_iff.1 legible
    obtain ⟨leftLegible, -⟩ := Bool.and_eq_true_iff.1 front
    refine told_of_parts legible rfl (List.forall_mem_cons.2 ⟨ih leftLegible, ?_⟩)
    exact List.forall_mem_singleton.2 (ih' rightLegible)
  | grouping inner ih => exact told_of_parts legible rfl (List.forall_mem_singleton.2 (ih legible))

end Expr

/-- Legible expressions have the same text if, and only if, they are alike: of the same shape, with
    the same lexemes for operators and the same literals, to the bit. -/
theorem text_eq_iff_alike (e e' : Expr) (legible : e.isLegible = true)
    (legible' : e'.isLegible = true) : e.text = e'.text ↔ e.Alike e' := by
  constructor
  · intro same
    have forms : e.form ++ [] = e'.form ++ [] := by rw [String.ofList_injective same]
    exact (Expr.told_of_isLegible legible e' [] [] legible' rfl rfl forms).1
  · intro alike
    rw [Expr.text, Expr.text, alike.form_eq]

/-- A negation inside of a difference, with the same lexeme for both; the kinds and the lines of the
    operators are not told. -/
theorem text_eq_iff_alike_minus :
    ∃ e e' : Expr, e.isLegible = true ∧ e'.isLegible = true ∧ e ≠ e' ∧
      e.text = "(- (- -0) (group nil))" ∧ e'.text = e.text ∧ e.Alike e' := by
  let difference (operator : Token) : Expr := .binary
    (.unary operator (.literal (.number (.ofBits 0x8000000000000000)))) operator
    (.grouping (.literal .nil))
  let e := difference ⟨.punct .minus, "-", none, 1⟩
  let e' := difference ⟨.identifier, "-", none, 7⟩
  have legible : e.isLegible = true := by decide +kernel
  have legible' : e'.isLegible = true := by decide +kernel
  have same : e.text = e'.text := by decide +kernel
  exact ⟨e, e', legible, legible', by decide +kernel, by decide +kernel, same.symm,
    (text_eq_iff_alike e e' legible legible').1 same⟩

end LoxFront
