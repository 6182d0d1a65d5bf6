import LoxFront.Proofs.Scan.Place

/-! # Lexemes scanned again

A token needs nothing around it: its lexeme alone scans to it (`Lexeme.ofToken`).  Separators keep
lexemes apart, so a text made of lexemes with separators between them scans to the tokens that they
are the lexemes of (`scan_spread`).
-/

namespace LoxFront

open Text (newlines)

/-! ## The segment of a token -/

def Token.onLine (t : Token) (line : Nat) : Token :=
  { t with line := line }

/-- A segment spells a token if it is that token on whatever line it stands. -/
structure Segment.Spells (s : Segment) (t : Token) : Prop where
  wellFormed : s.WellFormed
  token?_eq : ∀ line, s.token? line = some (t.onLine line)

theorem exists_spells_of_mem_tokens {p : Place} {text : List Char} {t : Token}
    (member : t ∈ (scanAt p text).tokens) : ∃ s : Segment, s.Spells t := by
  obtain ⟨s, placed, isToken⟩ := List.mem_filterMap.1 member
  obtain ⟨-, -, -, -, wellFormed, -⟩ := exists_of_mem_layOut_segments placed
  obtain ⟨kind, hkind, rfl⟩ := Option.map_eq_some_iff.1 isToken
  exact ⟨s.segment, wellFormed, fun line => Option.map_eq_some_iff.2 ⟨kind, hkind, rfl⟩⟩

namespace Segment.Spells

variable {s : Segment} {t : Token} (spells : s.Spells t)
include spells

/-- But for its line, a token is what its segment says. -/
theorem parts_eq :
    s.kind? = some t.kind ∧ String.ofList s.text = t.lexeme ∧ s.literal? = t.literal := by
  obtain ⟨kind, found, isToken⟩ := Option.map_eq_some_iff.1 (spells.token?_eq t.line)
  obtain ⟨kind_eq, lexeme, literal, -⟩ := Token.mk.inj isToken
  rw [found, kind_eq]
  exact ⟨rfl, lexeme, literal⟩

theorem kind?_eq : s.kind? = some t.kind :=
  spells.parts_eq.1

theorem text_eq : s.text = t.lexeme.toList := by
  rw [← spells.parts_eq.2.1, String.toList_ofList]

theorem literal?_eq : s.literal? = t.literal :=
  spells.parts_eq.2.2

theorem found_eq (p : Place) : Placed.found [⟨s, p⟩] = ⟨[t.onLine p.line], []⟩ :=
  Placed.found_of_token? (spells.token?_eq p.line)

theorem isEndedBy {c : Char} (separator : isSeparator c = true) : s.isEndedBy c = true := by
  have isToken := spells.kind?_eq
  cases s with
  | openString _ | comment _ => cases isToken
  | _ => exact separator

section Apart

variable {rest : List Char} (apart : rest.head?.all isSeparator = true)
include apart

theorem goesOn_eq_false : s.goesOn rest = false := by
  cases rest with
  | nil => exact s.goesOn_nil
  | cons c rest => exact goesOn_separator (spells.isEndedBy apart) rest

theorem scanAt_lexeme (p : Place) :
    scanAt p (t.lexeme.toList ++ rest) =
      ⟨[t.onLine p.line], []⟩ ++ scanAt (p.after t.lexeme.toList) rest := by
  rw [← spells.text_eq, scanAt_segment spells.wellFormed (spells.goesOn_eq_false apart),
    spells.found_eq]

end Apart

theorem scanAt_alone (p : Place) : scanAt p t.lexeme.toList = ⟨[t.onLine p.line], []⟩ := by
  have nothing : ([] : List Char).head?.all isSeparator = true := rfl
  have alone := spells.scanAt_lexeme nothing p
  rw [List.append_nil, scanAt_nil] at alone
  exact alone

end Segment.Spells

/-! ## Lexemes and what stands between them -/

/-- A text in which a scan finds one token and nothing else, with the token. -/
structure Lexeme where
  text : String
  token : Token
  faults_eq : (scan text).faults = []
  tokens_eq : ∃ line, (scan text).tokens = [token, .endOfText line]
  lexeme_eq : token.lexeme = text

/-- What may stand between two lexemes: separators, or nothing. -/
structure Gap where
  text : String
  separates : ∀ c ∈ text.toList, isSeparator c = true

namespace Lexeme

theorem exists_spells (l : Lexeme) : ∃ s : Segment, s.Spells l.token := by
  obtain ⟨line, tokens⟩ := l.tokens_eq
  have only : (scanAt .start l.text.toList).tokens = [l.token] := by
    rw [← dropLast_tokens, tokens]
    rfl
  exact exists_spells_of_mem_tokens (only ▸ List.mem_singleton_self l.token)

/-- The lexeme of a token of a source; by itself it is the same token, on the first line. -/
def ofToken (source : String) (t : Token) (member : t ∈ (scan source).tokens.dropLast) :
    Lexeme where
  text := t.lexeme
  token := t.onLine 1
  faults_eq := by
    rw [dropLast_tokens] at member
    obtain ⟨s, spells⟩ := exists_spells_of_mem_tokens member
    rw [scan_faults, spells.scanAt_alone]
  tokens_eq := by
    rw [dropLast_tokens] at member
    obtain ⟨s, spells⟩ := exists_spells_of_mem_tokens member
    refine ⟨lastLine t.lexeme, ?_⟩
    rw [scan_tokens, spells.scanAt_alone]
    rfl
  lexeme_eq := rfl

end Lexeme

/-! ## Lexemes with gaps between them -/

/-- Lexemes written one after another, each behind a gap. -/
def spread (words : List (Gap × Lexeme)) : String :=
  String.join (words.map fun word => word.1.text ++ word.2.text)

/-- The tokens of lexemes that are written one after another, each on the line that it has there. -/
def spreadTokens (words : List (Gap × Lexeme)) : List Token :=
  words.mapIdx fun i word =>
    word.2.token.onLine (1 + newlines (spread (words.take i) ++ word.1.text).toList)

theorem spread_nil : spread [] = "" := rfl

theorem spread_cons (word : Gap × Lexeme) (words : List (Gap × Lexeme)) :
    spread (word :: words) = word.1.text ++ word.2.token.lexeme ++ spread words := by
  rw [spread, List.map_cons, String.join_cons, word.2.lexeme_eq]
  rfl

theorem Gap.head_toList (gap : Gap) : gap.text.toList.head?.all isSeparator = true := by
  have separates := gap.separates
  cases h : gap.text.toList with
  | nil => rfl
  | cons c rest => exact separates c (by rw [h]; exact List.mem_cons_self)

/-- Behind a lexeme stands a separator, or nothing. -/
theorem head_spread {words : List (Gap × Lexeme)} (apart : ∀ word ∈ words, word.1.text ≠ "")
    (trail : Gap) :
    ((spread words).toList ++ trail.text.toList).head?.all isSeparator = true := by
  cases words with
  | nil =>
    rw [spread_nil, String.toList_empty, List.nil_append]
    exact trail.head_toList
  | cons word words =>
    have nonempty : word.1.text.toList ≠ [] := by
      rw [Ne, String.toList_eq_nil_iff]
      exact apart word List.mem_cons_self
    obtain ⟨c, rest, h⟩ := List.exists_cons_of_ne_nil nonempty
    have head := word.1.head_toList
    rw [spread_cons, String.toList_append, String.toList_append, h]
    rw [h] at head
    exact head

theorem scanAt_spread {words : List (Gap × Lexeme)}
    (apart : ∀ word ∈ words.tail, word.1.text ≠ "") (trail : Gap) (p : Place) :
    scanAt p ((spread words).toList ++ trail.text.toList) =
      ⟨words.mapIdx fun i word => word.2.token.onLine
        (p.line + newlines (spread (words.take i) ++ word.1.text).toList), []⟩ := by
  induction words generalizing p with
  | nil =>
    have onlyTrail := scanAt_separators trail.separates p []
    rw [List.append_nil, scanAt_nil] at onlyTrail
    exact onlyTrail
  | cons word words ih =>
    obtain ⟨s, spells⟩ := word.2.exists_spells
    have behind : ((spread words).toList ++ trail.text.toList).head?.all isSeparator = true :=
      head_spread apart trail
    have later : ∀ w ∈ words.tail, w.1.text ≠ "" := fun w member =>
      apart w (List.mem_of_mem_tail member)
    rw [spread_cons, String.toList_append, String.toList_append, List.append_assoc,
      List.append_assoc, scanAt_separators word.1.separates, spells.scanAt_lexeme behind, ih later,
      Scan.append_def, List.mapIdx_cons]
    -- What stands in front of the later lexemes is longer by the first gap and lexeme.
    refine congrArg₂ Scan.mk (congrArg₂ List.cons rfl (congrArg (List.mapIdx · words) ?_)) rfl
    funext i w
    simp [spread_cons, Place.after, Nat.add_assoc]

theorem scan_spread {words : List (Gap × Lexeme)}
    (apart : ∀ word ∈ words.tail, word.1.text ≠ "") (trail : Gap) :
    scan (spread words ++ trail.text) = {
      tokens := spreadTokens words ++ [.endOfText (lastLine (spread words ++ trail.text))]
      faults := [] } := by
  have found := scanAt_spread apart trail .start
  rw [← String.toList_append] at found
  have tokens : (scan (spread words ++ trail.text)).tokens =
      spreadTokens words ++ [.endOfText (lastLine (spread words ++ trail.text))] := by
    rw [scan_tokens, found]
    rfl
  have faults : (scan (spread words ++ trail.text)).faults = [] := by
    rw [scan_faults, found]
  exact congrArg₂ Scan.mk tokens faults

/-! ## Lexemes of a source, joined -/

def Gap.none : Gap :=
  ⟨"", by simp⟩

def Gap.space : Gap :=
  ⟨" ", by simp [isSeparator_iff]⟩

/-- Lexemes with one space between any two of them. -/
def spaced : List Lexeme → List (Gap × Lexeme)
  | [] => []
  | l :: rest => (.none, l) :: rest.map fun l => (.space, l)

theorem apart_spaced (lexemes : List Lexeme) :
    ∀ word ∈ (spaced lexemes).tail, word.1.text ≠ "" := by
  cases lexemes with
  | nil =>
    intro word member
    exact absurd member List.not_mem_nil
  | cons l rest =>
    intro word member
    obtain ⟨next, -, rfl⟩ := List.mem_map.1 member
    exact (by decide : " " ≠ "")

theorem map_snd_spaced (lexemes : List Lexeme) : (spaced lexemes).map Prod.snd = lexemes := by
  cases lexemes with
  | nil => rfl
  | cons l rest => simp [spaced, Function.comp_def]

theorem intercalate_eq_spread (lexemes : List Lexeme) :
    " ".intercalate (lexemes.map Lexeme.text) = spread (spaced lexemes) := by
  have later : ∀ (l : Lexeme) (rest : List Lexeme),
      " ".intercalate (l.text :: rest.map Lexeme.text) =
        l.text ++ spread (rest.map fun l => (.space, l)) := by
    intro l rest
    induction rest generalizing l with
    | nil =>
      rw [List.map_nil, List.map_nil, String.intercalate_singleton, spread_nil, String.append_empty]
    | cons next rest ih =>
      rw [List.map_cons, List.map_cons, String.intercalate_cons_cons, ih next, spread_cons,
        next.lexeme_eq, String.append_assoc, String.append_assoc]
      rfl
  cases lexemes with
  | nil => rfl
  | cons l rest =>
    rw [List.map_cons, later, spaced, spread_cons, l.lexeme_eq]
    rfl

/-- A token but for its line. -/
def Token.content (t : Token) : TokenKind × String × Option Literal :=
  (t.kind, t.lexeme, t.literal)

theorem map_content_spreadTokens (words : List (Gap × Lexeme)) :
    (spreadTokens words).map Token.content =
      (words.map Prod.snd).map fun l => l.token.content := by
  refine List.ext_getElem (by simp [spreadTokens]) ?_
  intro i _ _
  simp [spreadTokens, Token.content, Token.onLine]

/-- The lexemes of the tokens of a source. -/
def lexemes (source : String) : List Lexeme :=
  (scan source).tokens.dropLast.pmap (Lexeme.ofToken source) fun _ member => member

theorem map_text_lexemes (source : String) :
    (lexemes source).map Lexeme.text = (scan source).tokens.dropLast.map Token.lexeme := by
  rw [lexemes, List.map_pmap]
  exact List.pmap_eq_map _

theorem map_content_lexemes (source : String) :
    ((lexemes source).map fun l => l.token.content) =
      (scan source).tokens.dropLast.map Token.content := by
  rw [lexemes, List.map_pmap]
  exact List.pmap_eq_map (f := Token.content) _

theorem scan_intercalate_lexemes (source : String) :
    (scan (" ".intercalate ((scan source).tokens.dropLast.map Token.lexeme))).faults = [] ∧
    (scan (" ".intercalate ((scan source).tokens.dropLast.map Token.lexeme))).tokens.map
      Token.content = (scan source).tokens.map Token.content := by
  have again := scan_spread (apart_spaced (lexemes source)) .none
  rw [← intercalate_eq_spread, map_text_lexemes, Gap.none, String.append_empty] at again
  rw [again]
  refine ⟨rfl, ?_⟩
  rw [List.map_append, map_content_spreadTokens, map_snd_spaced, map_content_lexemes,
    dropLast_tokens, scan_tokens, List.map_append]
  rfl

/-- Lexemes with separators between them scan, without a fault, to the tokens that they are the
    lexemes of, each on the line that it has in the joined text; in front of them and behind them
    separators may stand too.  The lexeme of every token of a source, with faults or without, is
    by itself that token, so the lexemes of a source joined by spaces have the same tokens, but for
    their lines, and no faults. -/
theorem scan_unscan :
    (∀ (words : List (Gap × Lexeme)) (trail : Gap), (∀ word ∈ words.tail, word.1.text ≠ "") →
      scan (spread words ++ trail.text) = {
        tokens := spreadTokens words ++ [.endOfText (lastLine (spread words ++ trail.text))]
        faults := [] }) ∧
    ∀ source : String,
      (∀ t ∈ (scan source).tokens.dropLast,
        ∃ l : Lexeme, l.text = t.lexeme ∧ l.token = t.onLine 1) ∧
      (scan (" ".intercalate ((scan source).tokens.dropLast.map Token.lexeme))).faults = [] ∧
      (scan (" ".intercalate ((scan source).tokens.dropLast.map Token.lexeme))).tokens.map
        Token.content = (scan source).tokens.map Token.content := by
  refine ⟨fun words trail apart => scan_spread apart trail, ?_⟩
  intro source
  refine ⟨?_, scan_intercalate_lexemes source⟩
  intro t member
  exact ⟨.ofToken source t member, rfl, rfl⟩

/-- A string of two lines moves what stands behind it down by one. -/
theorem scan_unscan_string :
    ∃ words : List (Gap × Lexeme), (∀ word ∈ words.tail, word.1.text ≠ "") ∧
      spread words = "\"a\nb\" c" ∧
      scan (spread words ++ Gap.none.text) =
        ⟨[⟨.string, "\"a\nb\"", some (.string "a\nb"), 1⟩, ⟨.identifier, "c", none, 2⟩,
          .endOfText 2], []⟩ := by
  let string : Lexeme := ⟨"\"a\nb\"", ⟨.string, "\"a\nb\"", some (.string "a\nb"), 1⟩,
    by decide +kernel, ⟨2, by decide +kernel⟩, rfl⟩
  let word : Lexeme := ⟨"c", ⟨.identifier, "c", none, 1⟩,
    by decide +kernel, ⟨1, by decide +kernel⟩, rfl⟩
  have apart := apart_spaced [string, word]
  refine ⟨spaced [string, word], apart, by decide +kernel, ?_⟩
  rw [scan_unscan.1 _ .none apart]
  decide +kernel

end LoxFront
