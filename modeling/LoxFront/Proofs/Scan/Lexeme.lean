import LoxFront.Proofs.Report.Check
import LoxFront.Proofs.Scan.Number
import LoxFront.Proofs.Segment.Munch

/-! # What a lexeme tells

The lexeme of a token tells its kind and its literal, whatever source the token is from
(`lexeme_tells_token`), because no two well-formed segments have the same text.  Words need two
tables, the spellings of the keywords and the names of their kinds; a name is a spelling in upper
case (`Keyword.toLower_name`), so the words that are reserved can be read off either of them.
-/

namespace LoxFront

open Text (newlines)

/-! ## Reserved words -/

theorem Keyword.toLower_name (k : Keyword) : k.name.toLower = String.ofList k.spelling := by
  refine String.toList_injective ?_
  rw [String.toLower, String.toList_map, String.toList_ofList]
  cases k <;> rfl

/-- The words that are reserved: the names of their kinds, in lower case. -/
def TokenKind.reserved : List String :=
  (all.filter isKeyword).map fun kind => kind.name.toLower

theorem TokenKind.mem_reserved_iff {word : String} :
    word ∈ reserved ↔ ∃ k, Keyword.ofSpelling? word.toList = some k := by
  constructor
  · intro member
    obtain ⟨kind, isKind, rfl⟩ := List.mem_map.1 member
    obtain ⟨-, isKeyword⟩ := List.mem_filter.1 isKind
    cases kind with
    | keyword k =>
      refine ⟨k, Keyword.ofSpelling?_eq_some_iff.2 ?_⟩
      rw [TokenKind.name, k.toLower_name, String.toList_ofList]
    | _ => exact absurd isKeyword Bool.false_ne_true
  · rintro ⟨k, found⟩
    have spelling := Keyword.ofSpelling?_eq_some_iff.1 found
    refine List.mem_map.2 ⟨keyword k, List.mem_filter.2 ⟨mem_all _, rfl⟩, ?_⟩
    rw [TokenKind.name, k.toLower_name, spelling, String.ofList_toList]

example : TokenKind.reserved =
    ["and", "class", "else", "false", "fun", "for", "if", "nil", "or", "print", "return", "super",
      "this", "true", "var", "while"] := by
  decide +kernel

/-! ## Spelled tokens -/

namespace Segment.Spells

variable {s s' : Segment} {t t' : Token}

theorem lexeme_ne_empty (spells : s.Spells t) : t.lexeme ≠ "" := by
  intro empty
  have text := spells.text_eq
  rw [empty] at text
  exact spells.wellFormed.text_ne_nil text

/-- A lexeme is the text of one well-formed segment only. -/
theorem eq_of_lexeme_eq (spells : s.Spells t) (spells' : s'.Spells t')
    (same : t.lexeme = t'.lexeme) : t.kind = t'.kind ∧ t.literal = t'.literal := by
  have texts : s.text = s'.text := by rw [spells.text_eq, spells'.text_eq, same]
  obtain rfl := spells.wellFormed.eq_of_text_eq spells'.wellFormed texts
  constructor
  · exact Option.some.inj (spells.kind?_eq.symm.trans spells'.kind?_eq)
  · rw [← spells.literal?_eq, spells'.literal?_eq]

end Segment.Spells

/-- A token of a source is spelled by a segment, or ends the text. -/
theorem spelled_or_endOfText {source : String} {t : Token} (member : t ∈ (scan source).tokens) :
    (∃ s : Segment, s.Spells t) ∨ t = .endOfText (lastLine source) := by
  rw [scan_tokens, List.mem_append, List.mem_singleton] at member
  exact member.imp_left exists_spells_of_mem_tokens

/-! ## Literals -/

/-- A token has the literal that its kind asks for: a string what stands between the quotes of its
    lexeme, a number some number, and nothing else has one. -/
structure Token.FitsLiteral (t : Token) : Prop where
  agrees : t.literal.isSome = t.kind.hasLiteral
  isSome_iff : t.literal.isSome = true ↔ t.kind = .string ∨ t.kind = .number
  string : t.kind = .string → ∃ body : String, t.literal = some (.string body) ∧
    t.lexeme = "\"" ++ body ++ "\"" ∧ body.toList = t.lexeme.toList.tail.dropLast ∧
    '"' ∉ body.toList
  number : t.kind = .number → ∃ value, t.literal = some (.number value)

theorem TokenKind.hasLiteral_iff {kind : TokenKind} :
    kind.hasLiteral = true ↔ kind = string ∨ kind = number := by
  cases kind <;> simp [hasLiteral]

theorem Segment.Spells.exists_body {s : Segment} {t : Token} (spells : s.Spells t)
    (kind : t.kind = .string) : ∃ body, s = .string body ∧ '"' ∉ body := by
  have found := spells.kind?_eq
  have wellFormed := spells.wellFormed
  rw [kind] at found
  cases s with
  | string body => exact ⟨body, rfl, wellFormed⟩
  | word letters => cases reserved : Keyword.ofSpelling? letters <;> simp [kind?, reserved] at found
  | _ => cases found

theorem fitsLiteral_of_mem_tokens {source : String} {t : Token}
    (member : t ∈ (scan source).tokens) : t.FitsLiteral where
  agrees := isSome_literal_of_mem_tokens member
  isSome_iff := by rw [isSome_literal_of_mem_tokens member, TokenKind.hasLiteral_iff]
  string := by
    intro kind
    obtain ⟨s, spells⟩ | rfl := spelled_or_endOfText member
    · obtain ⟨body, rfl, closed⟩ := spells.exists_body kind
      have lexeme : t.lexeme.toList = '"' :: (body ++ ['"']) := spells.text_eq.symm
      refine ⟨String.ofList body, spells.literal?_eq.symm, ?_, ?_, ?_⟩
      · refine String.toList_injective ?_
        simp [lexeme]
      · rw [lexeme, String.toList_ofList, List.tail_cons, List.dropLast_concat]
      · rwa [String.toList_ofList]
    · cases kind
  number := by
    intro kind
    obtain ⟨n, x, isNumber⟩ := exists_isNumber member kind
    exact ⟨x, isNumber.literal_eq⟩

/-! ## Words -/

theorem kind_eq_iff_lexeme_eq {source : String} {t : Token} (member : t ∈ (scan source).tokens)
    {kind : TokenKind} (isKeyword : kind.isKeyword = true) :
    t.kind = kind ↔ t.lexeme = kind.name.toLower := by
  cases kind with
  | keyword k =>
    rw [TokenKind.name, k.toLower_name]
    obtain ⟨s, spells⟩ | rfl := spelled_or_endOfText member
    · constructor
      · intro kind
        have spelled := (text_mem_spellings spells.wellFormed spells.kind?_eq).2
        rw [kind, spells.text_eq] at spelled
        have spelling : t.lexeme.toList = k.spelling := spelled
        rw [← spelling, String.ofList_toList]
      · intro lexeme
        -- A keyword by itself has that lexeme too.
        exact (spells.eq_of_lexeme_eq (Segment.spells_keyword k) lexeme).1
    · constructor
      · intro kind
        cases kind
      · intro lexeme
        have empty := congrArg String.toList lexeme
        rw [String.toList_ofList] at empty
        cases k <;> cases empty
  | _ => exact absurd isKeyword Bool.false_ne_true

theorem scan_word {word : String} (isWord : word.toList ∈ Spelling.word)
    (free : word ∉ TokenKind.reserved) :
    scan word = ⟨[⟨.identifier, word, none, 1⟩, .endOfText 1], []⟩ := by
  have unknown : Keyword.ofSpelling? word.toList = none := by
    rw [TokenKind.mem_reserved_iff, not_exists] at free
    exact Option.eq_none_iff_forall_ne_some.2 free
  have wellFormed := Spelling.mem_word_iff.1 isWord
  have oneLine : newlines word.toList = 0 := by
    refine List.count_eq_zero.2 fun member => ?_
    exact absurd (wellFormed.2 '\n' member) (by decide)
  have spells : (Segment.word word.toList).Spells ⟨.identifier, word, none, 1⟩ := by
    refine ⟨wellFormed, fun line => ?_⟩
    rw [Segment.token?, Segment.kind?, unknown, Segment.text, String.ofList_toList]
    rfl
  have found := (ScansTo.of_spells spells oneLine).scan_eq
  rwa [Segment.text, String.ofList_toList] at found

/-- The lexeme of a token tells its kind and its literal, to the bit, whatever the sources are.  A
    token has a literal exactly when it is a string or a number: a string has what stands between
    its quotes, and a number a number.  A token is a keyword exactly when its lexeme is the name of
    the keyword in lower case, so no identifier is a reserved word; and every other word, by
    itself, is an identifier. -/
theorem lexeme_tells_token :
    (∀ (source source' : String) (t t' : Token), t ∈ (scan source).tokens →
      t' ∈ (scan source').tokens → t.lexeme = t'.lexeme →
      t.kind = t'.kind ∧ t.literal = t'.literal) ∧
    (∀ (source : String) (t : Token), t ∈ (scan source).tokens → t.FitsLiteral ∧
      (∀ kind : TokenKind, kind.isKeyword = true →
        (t.kind = kind ↔ t.lexeme = kind.name.toLower)) ∧
      (t.kind = .identifier → t.lexeme ∉ TokenKind.reserved)) ∧
    ∀ word : String, word.toList ∈ Spelling.word → word ∉ TokenKind.reserved →
      scan word = ⟨[⟨.identifier, word, none, 1⟩, .endOfText 1], []⟩ := by
  refine ⟨?_, ?_, fun word => scan_word⟩
  · intro source source' t t' member member' same
    obtain ⟨s, spells⟩ | rfl := spelled_or_endOfText member
    · obtain ⟨s', spells'⟩ | rfl := spelled_or_endOfText member'
      · exact spells.eq_of_lexeme_eq spells' same
      · exact absurd same spells.lexeme_ne_empty
    · obtain ⟨s', spells'⟩ | rfl := spelled_or_endOfText member'
      · exact absurd same.symm spells'.lexeme_ne_empty
      · exact ⟨rfl, rfl⟩
  · intro source t member
    refine ⟨fitsLiteral_of_mem_tokens member, fun kind => kind_eq_iff_lexeme_eq member, ?_⟩
    intro identifier isReserved
    obtain ⟨kind, isKind, lexeme⟩ := List.mem_map.1 isReserved
    have isKeyword := (List.mem_filter.1 isKind).2
    have other := (kind_eq_iff_lexeme_eq member isKeyword).2 lexeme.symm
    rw [← other, identifier] at isKeyword
    exact Bool.false_ne_true isKeyword

/-- The same string on two lines of two sources, with a reserved word behind it in one of them, and
    that word in letters of both cases. -/
theorem lexeme_tells_token_string :
    ∃ n t t' k : Token, (scan "12\n\"12\"").tokens = [n, t, .endOfText 2] ∧
      (scan "\"12\"for").tokens = [t', k, .endOfText 1] ∧ t ≠ t' ∧ t.lexeme = t'.lexeme ∧
      t.kind = t'.kind ∧ t.literal = t'.literal ∧ t.FitsLiteral ∧ k.lexeme = "for" ∧
      k.kind = .keyword .forWord ∧ "For".toList ∈ Spelling.word ∧ "For" ∉ TokenKind.reserved ∧
      scan "For" = ⟨[⟨.identifier, "For", none, 1⟩, .endOfText 1], []⟩ := by
  let n : Token := ⟨.number, "12", some (.number (.ofRatio 12 1)), 1⟩
  let t : Token := ⟨.string, "\"12\"", some (.string "12"), 2⟩
  let t' : Token := ⟨.string, "\"12\"", some (.string "12"), 1⟩
  let k : Token := ⟨.keyword .forWord, "for", none, 1⟩
  have tokens : (scan "12\n\"12\"").tokens = [n, t, .endOfText 2] := by decide +kernel
  have tokens' : (scan "\"12\"for").tokens = [t', k, .endOfText 1] := by decide +kernel
  have member : t ∈ (scan "12\n\"12\"").tokens := by simp [tokens]
  have member' : t' ∈ (scan "\"12\"for").tokens := by simp [tokens']
  have keyword : k ∈ (scan "\"12\"for").tokens := by simp [tokens']
  have isWord : "For".toList ∈ Spelling.word :=
    Spelling.mem_word_iff.2 ⟨rfl, by simp [isWordPart]⟩
  have free : "For" ∉ TokenKind.reserved := by decide +kernel
  obtain ⟨kind, literal⟩ := lexeme_tells_token.1 _ _ t t' member member' rfl
  obtain ⟨fits, -, -⟩ := lexeme_tells_token.2.1 _ t member
  have reserved := (lexeme_tells_token.2.1 _ k keyword).2.1 (.keyword .forWord) rfl
  exact ⟨n, t, t', k, tokens, tokens', by decide +kernel, rfl, kind, literal, fits, rfl,
    reserved.2 (by decide +kernel), isWord, free, lexeme_tells_token.2.2 "For" isWord free⟩

end LoxFront
