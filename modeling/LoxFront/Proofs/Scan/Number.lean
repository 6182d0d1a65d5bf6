import LoxFront.Proofs.Binary64.Shortest
import LoxFront.Proofs.Expr.Form

/-! # The numbers of a scan

Every number token is spelled by a numeral, and nothing but numerals is read as a number
(`Numeral.ofText?_eq_some_iff`), so reading the lexeme never fails.  The literal is what the exact
ratio of the numeral is rounded to (`scan_number_rounded`), and if it is finite, its display is
scanned as the same number again (`scan_number_displayed`).
-/

namespace LoxFront

/-! ## Reading a numeral -/

namespace Numeral

/-- The ratio that a numeral stands for. -/
def ratio (n : Numeral) : ℚ :=
  n.numerator / n.denominator

theorem denominator_pos (n : Numeral) : 0 < n.denominator :=
  Nat.pow_pos (by decide)

theorem ratio_eq_iff {m n : Numeral} :
    m.ratio = n.ratio ↔ m.numerator * n.denominator = n.numerator * m.denominator := by
  rw [ratio, ratio, div_eq_div_iff (by exact_mod_cast m.denominator_pos.ne')
    (by exact_mod_cast n.denominator_pos.ne')]
  exact_mod_cast Iff.rfl

theorem roundsTo_value (n : Numeral) : Binary64.RoundsTo n.ratio n.value :=
  Binary64.roundsTo_ofRatio n.numerator n.denominator_pos

/-- The numeral that a whole text is. -/
def ofText? (text : List Char) : Option Numeral :=
  let cutting := Numeral.cut text
  if cutting.1.whole ≠ [] ∧ cutting.2 = [] then some cutting.1 else none

theorem ofText?_eq_some_iff {text : List Char} {n : Numeral} :
    ofText? text = some n ↔ n.WellFormed ∧ n.text = text := by
  constructor
  · intro h
    obtain ⟨⟨whole, rest⟩, found⟩ := Option.ite_none_right_eq_some.1 h
    obtain rfl := Option.some.inj found
    have spelled := Numeral.text_cut text
    rw [rest, List.append_nil] at spelled
    refine ⟨?_, spelled⟩
    cases text with
    | nil => exact absurd rfl whole
    | cons c tail =>
      refine wellFormed_cut tail ?_
      by_contra other
      exact whole (List.takeWhile_cons_of_neg other)
  · rintro ⟨wellFormed, rfl⟩
    have nothing : n.goesOn [] = false := Segment.goesOn_nil (.numeral n)
    have cut := cut_text wellFormed nothing
    rw [List.append_nil] at cut
    rw [ofText?, cut]
    exact if_pos ⟨wellFormed.whole_ne_nil, rfl⟩

end Numeral

/-- Read a whole text as a number; only numerals can be read. -/
def Binary64.read? (text : List Char) : Option Binary64 :=
  (Numeral.ofText? text).map Numeral.value

/-! ## Number tokens -/

/-- A token whose lexeme is a numeral and whose literal is what the lexeme is read as. -/
structure Token.IsNumber (t : Token) (n : Numeral) (x : Binary64) : Prop where
  wellFormed : n.WellFormed
  text_eq : n.text = t.lexeme.toList
  read?_eq : Binary64.read? t.lexeme.toList = some x
  literal_eq : t.literal = some (.number x)

namespace Token.IsNumber

variable {t : Token} {n : Numeral} {x : Binary64} (isNumber : t.IsNumber n x)
include isNumber

theorem ofText?_eq : Numeral.ofText? t.lexeme.toList = some n :=
  Numeral.ofText?_eq_some_iff.2 ⟨isNumber.wellFormed, isNumber.text_eq⟩

theorem value_eq : n.value = x := by
  have read := isNumber.read?_eq
  rw [Binary64.read?, isNumber.ofText?_eq] at read
  exact Option.some.inj read

theorem roundsTo : Binary64.RoundsTo n.ratio x :=
  isNumber.value_eq ▸ n.roundsTo_value

end Token.IsNumber

theorem exists_isNumber {source : String} {t : Token} (member : t ∈ (scan source).tokens)
    (kind : t.kind = .number) : ∃ n x, t.IsNumber n x := by
  rw [scan_tokens, List.mem_append, List.mem_singleton] at member
  obtain inside | rfl := member
  · obtain ⟨s, spells⟩ := exists_spells_of_mem_tokens inside
    obtain ⟨kind', known, token⟩ := Option.map_eq_some_iff.1 (spells.token?_eq t.line)
    have kind_eq : kind' = .number := (congrArg Token.kind token).trans kind
    have literal : s.literal? = t.literal := congrArg Token.literal token
    have text := spells.text_eq
    have wellFormed := spells.wellFormed
    subst kind_eq
    cases s with
    | numeral n =>
      refine ⟨n, n.value, wellFormed, text, ?_, literal.symm⟩
      rw [Binary64.read?, Numeral.ofText?_eq_some_iff.2 ⟨wellFormed, text⟩]
      rfl
    | word letters =>
      cases reserved : Keyword.ofSpelling? letters <;>
        simp [Segment.kind?, reserved] at known
    | _ => cases known
  · cases kind

/-! ## Rounding -/

/-- The lexeme of a number token is a numeral, digits or digits on both sides of a point, and can
    be read; the literal is what is read, and it is what the ratio that the numeral stands for is
    rounded to.  It is infinite from the middle above the largest finite number on, and zero up to
    the middle below the smallest one.  So numerals of the same value have the same literal, to
    the bit, and one of a larger value has no smaller literal: literals have no sign, and magnitudes
    are in the order of their values (`Binary64.units_strictMono`). -/
theorem scan_number_rounded :
    (∀ (source : String) (t : Token), t ∈ (scan source).tokens → t.kind = .number →
      ∃ n x, t.IsNumber n x ∧ Binary64.RoundsTo n.ratio x ∧
        (x.toBits = Binary64.infinity ↔ 2 ^ 1024 - 2 ^ 970 ≤ n.ratio) ∧
        (x.toBits = 0 ↔ n.ratio ≤ 1 / 2 ^ 1075)) ∧
    ∀ (t t' : Token) (n n' : Numeral) (x x' : Binary64), t.IsNumber n x → t'.IsNumber n' x' →
      (n.ratio = n'.ratio → x = x') ∧ (n.ratio ≤ n'.ratio → x.magnitude ≤ x'.magnitude) := by
  constructor
  · intro source t member kind
    obtain ⟨n, x, isNumber⟩ := exists_isNumber member kind
    have rounds := isNumber.roundsTo
    exact ⟨n, x, isNumber, rounds, rounds.toBits_eq_infinity_iff, rounds.toBits_eq_zero_iff⟩
  · intro t t' n n' x x' isNumber isNumber'
    have rounds := isNumber.roundsTo
    have rounds' := isNumber'.roundsTo
    refine ⟨?_, rounds.mono rounds'⟩
    intro same
    rw [← same] at rounds'
    exact rounds.unique rounds'

/-- Half way between two numbers the even one is taken; zeros at both ends make no difference. -/
theorem scan_number_rounded_halfway :
    ∃ (t t' : Token) (n n' : Numeral) (x x' : Binary64),
      (scan "9007199254740993 09007199254740993.0").tokens = [t, t', .endOfText 1] ∧
      t.IsNumber n x ∧ t'.IsNumber n' x' ∧ n.ratio = n'.ratio ∧
      Binary64.RoundsTo n.ratio x ∧ x.toBits = 0x4340000000000000 ∧ x = x' := by
  let x : Binary64 := .ofBits 0x4340000000000000
  let t : Token := ⟨.number, "9007199254740993", some (.number x), 1⟩
  let t' : Token := ⟨.number, "09007199254740993.0", some (.number x), 1⟩
  have tokens : (scan "9007199254740993 09007199254740993.0").tokens = [t, t', .endOfText 1] := by
    decide +kernel
  have first : t ∈ (scan "9007199254740993 09007199254740993.0").tokens := by
    rw [tokens]
    exact List.mem_cons_self
  obtain ⟨n, y, isNumber, rounds, -⟩ := scan_number_rounded.1 _ t first rfl
  obtain rfl : x = y := by
    have literal := isNumber.literal_eq
    exact Literal.number.inj (Option.some.inj literal)
  have numeral : n = ⟨"9007199254740993".toList, []⟩ :=
    Option.some.inj (isNumber.ofText?_eq.symm.trans (by decide +kernel))
  let n' : Numeral := ⟨"09007199254740993".toList, ['0']⟩
  have found : Numeral.ofText? t'.lexeme.toList = some n' := by decide +kernel
  have isNumber' : t'.IsNumber n' x :=
    have spelled := Numeral.ofText?_eq_some_iff.1 found
    ⟨spelled.1, spelled.2, by decide +kernel, rfl⟩
  have product : n.numerator * n'.denominator = n'.numerator * n.denominator := by
    rw [numeral]
    decide +kernel
  have same : n.ratio = n'.ratio := Numeral.ratio_eq_iff.2 product
  have equal := (scan_number_rounded.2 t t' n n' x x isNumber isNumber').1 same
  exact ⟨t, t', n, n', x, x, tokens, isNumber, isNumber', same, rounds, by decide +kernel, equal⟩

/-! ## Display -/

/-- A number that is the literal of a number token of some source. -/
def Binary64.IsScanned (x : Binary64) : Prop :=
  ∃ source, ∃ t ∈ (scan source).tokens, t.kind = .number ∧ t.literal = some (.number x)

theorem Binary64.IsScanned.unsigned {x : Binary64} (scanned : x.IsScanned) :
    x.negative = false := by
  obtain ⟨source, t, member, kind, literal⟩ := scanned
  obtain ⟨n, y, isNumber⟩ := exists_isNumber member kind
  obtain rfl : y = x :=
    Literal.number.inj (Option.some.inj (isNumber.literal_eq.symm.trans literal))
  exact isNumber.roundsTo.unsigned

theorem scan_display {x : Binary64} (finite : x.isFinite = true) (unsigned : x.negative = false) :
    scan (Literal.number x).text =
      ⟨[⟨.number, (Literal.number x).text, some (.number x), 1⟩, .endOfText 1], []⟩ := by
  have plain : (Value.number x).isPlain = true := by rw [Value.isPlain, finite, unsigned]; rfl
  exact (ScansTo.value plain).scan_eq

/-- The text of a finite number that was scanned is scanned, without a fault, as one number token,
    whose lexeme is the whole text and whose literal is that number, to the bit; so no two of these
    numbers have the same text.  The text is that of a shortest numeral: digits, or digits on both
    sides of a point, without a zero that could be left out, of which no numeral that reads as the
    number has fewer. -/
theorem scan_number_displayed :
    (∀ (source : String) (t : Token), t ∈ (scan source).tokens → t.kind = .number →
      ∃ x : Binary64, t.literal = some (.number x) ∧ x.IsScanned) ∧
    (∀ x : Binary64, x.IsScanned → x.isFinite = true →
      scan (Literal.number x).text =
        ⟨[⟨.number, (Literal.number x).text, some (.number x), 1⟩, .endOfText 1], []⟩ ∧
      ∃ n : Numeral, n.Shortest x ∧ n.text = (Literal.number x).text.toList) ∧
    ∀ x y : Binary64, x.IsScanned → y.IsScanned → x.isFinite = true → y.isFinite = true →
      x ≠ y → (Literal.number x).text ≠ (Literal.number y).text := by
  refine ⟨?_, ?_, ?_⟩
  · intro source t member kind
    obtain ⟨n, x, isNumber⟩ := exists_isNumber member kind
    exact ⟨x, isNumber.literal_eq, source, t, member, kind, isNumber.literal_eq⟩
  · intro x scanned finite
    obtain ⟨n, shortest, text⟩ := Binary64.exists_shortest_of_display finite scanned.unsigned
    refine ⟨scan_display finite scanned.unsigned, n, shortest, ?_⟩
    rw [text, Literal.text, String.toList_ofList]
  · intro x y scanned scanned' finite finite' apart same
    have again := scan_display finite scanned.unsigned
    rw [same, scan_display finite' scanned'.unsigned] at again
    simp only [Scan.mk.injEq, List.cons.injEq, Token.mk.injEq, Option.some.injEq,
      Literal.number.injEq] at again
    exact apart again.1.1.2.2.1.symm

/-- Zeros that do not count are not displayed, and digits that no other number needs are. -/
theorem scan_number_displayed_shorter :
    ∃ x y : Binary64, x.IsScanned ∧ y.IsScanned ∧ x.isFinite = true ∧ y.isFinite = true ∧
      (Literal.number x).text = "7.5" ∧ (Literal.number y).text = "0.3" ∧
      scan "7.5" = ⟨[⟨.number, "7.5", some (.number x), 1⟩, .endOfText 1], []⟩ ∧
      scan "0.3" = ⟨[⟨.number, "0.3", some (.number y), 1⟩, .endOfText 1], []⟩ ∧
      (Literal.number x).text ≠ (Literal.number y).text := by
  let x : Binary64 := .ofBits 0x401E000000000000
  let y : Binary64 := .ofBits 0x3FD3333333333333
  let t : Token := ⟨.number, "007.500", some (.number x), 1⟩
  let t' : Token := ⟨.number, "0.299999999999999988898", some (.number y), 1⟩
  have tokens : (scan "007.500 0.299999999999999988898").tokens = [t, t', .endOfText 1] := by
    decide +kernel
  have scanned : x.IsScanned := by
    refine ⟨"007.500 0.299999999999999988898", t, ?_, rfl, rfl⟩
    rw [tokens]
    exact List.mem_cons_self
  have scanned' : y.IsScanned := by
    refine ⟨"007.500 0.299999999999999988898", t', ?_, rfl, rfl⟩
    rw [tokens]
    exact List.mem_cons_of_mem _ List.mem_cons_self
  have finite : x.isFinite = true := by decide +kernel
  have finite' : y.isFinite = true := by decide +kernel
  have text : (Literal.number x).text = "7.5" := by decide +kernel
  have text' : (Literal.number y).text = "0.3" := by decide +kernel
  have again := (scan_number_displayed.2.1 x scanned finite).1
  have again' := (scan_number_displayed.2.1 y scanned' finite').1
  rw [text] at again
  rw [text'] at again'
  have apart := scan_number_displayed.2.2 x y scanned scanned' finite finite' (by decide +kernel)
  exact ⟨x, y, scanned, scanned', finite, finite', text, text', again, again', apart⟩

end LoxFront
