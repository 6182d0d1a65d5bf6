import LoxFront.Proofs.Scan.RoundTrip

/-! # Dumps read back

The dump of a scan shows every token but for its line, and can be read back (`readDump_dump`), even
where a string holds spaces, LFs or what looks like other entries.  A lexeme tells where it ends
itself: in front of the space behind it nothing goes on, so a cut at its beginning gives the segment
that it was made of, and with it the kind and the literal (`readFirst?_token`).  How much of the
entry is left is known from the literal, so nothing needs to be looked for in it.
-/

namespace LoxFront

/-! ## Reading a dump -/

/-- What an entry shows of the literal. -/
def Token.shownLiteral (t : Token) : String :=
  t.literal.elim "null" Literal.text

/-- Read the first entry of a dump: its token, as if it stood on the first line, and the entries
    behind it.  There is none if no lexeme is shown. -/
def readFirst? (dump : List Char) : Option (Token × List Char) :=
  -- In front of the first space stands the name of the kind.
  match (dump.dropWhile (· != ' ')).tail with
  | [] => none
  | c :: rest =>
      let cutting := Segment.cut c rest
      (cutting.1.token? 1).map fun t =>
        -- The literal has a space in front of it and a LF behind it.
        (t, cutting.2.drop (t.shownLiteral.length + 2))

theorem length_lt_of_readFirst? {dump rest : List Char} {t : Token}
    (h : readFirst? dump = some (t, rest)) : rest.length < dump.length := by
  have short : (dump.dropWhile (· != ' ')).length ≤ dump.length :=
    (List.dropWhile_suffix _).length_le
  unfold readFirst? at h
  cases behind : (dump.dropWhile (· != ' ')).tail with
  | nil =>
    rw [behind] at h
    cases h
  | cons c tail =>
    have shorter : tail.length + 1 = (dump.dropWhile (· != ' ')).length - 1 := by
      rw [← List.length_cons, ← behind, List.length_tail]
    have cut := Segment.length_cut_le c tail
    rw [behind] at h
    obtain ⟨found, -, same⟩ := Option.map_eq_some_iff.1 h
    obtain ⟨rfl, rfl⟩ := Prod.mk.inj same
    rw [List.length_drop]
    omega

/-- Read a dump: its tokens but for their lines. -/
def readDump (dump : List Char) : List (TokenKind × String × Option Literal) :=
  match _ : readFirst? dump with
  | none => [(Token.endOfText 1).content]
  | some (t, rest) => t.content :: readDump rest
termination_by dump.length
decreasing_by exact length_lt_of_readFirst? ‹_›

theorem readDump_of_none {dump : List Char} (h : readFirst? dump = none) :
    readDump dump = [(Token.endOfText 1).content] := by
  rw [readDump]
  split
  next => rfl
  next entry => cases h.symm.trans entry

theorem readDump_of_some {dump rest : List Char} {t : Token}
    (h : readFirst? dump = some (t, rest)) : readDump dump = t.content :: readDump rest := by
  rw [readDump]
  split
  next entry => cases h.symm.trans entry
  next entry =>
    obtain ⟨rfl, rfl⟩ := Prod.mk.inj (Option.some.inj (h.symm.trans entry))
    rfl

/-! ## Entries -/

theorem space_notMem_name (kind : TokenKind) : ' ' ∉ kind.name.toList := by
  cases kind with
  | punct p => cases p <;> decide
  | keyword k => cases k <;> decide
  | _ => decide

theorem dropWhile_name (kind : TokenKind) (rest : List Char) :
    (kind.name.toList ++ ' ' :: rest).dropWhile (· != ' ') = ' ' :: rest :=
  dropWhile_run (forall_bne (space_notMem_name kind)) rfl

def Token.entry (t : Token) : List Char :=
  t.text.toList ++ ['\n']

theorem toList_dump (tokens : List Token) :
    (Token.dump tokens).toList = tokens.flatMap Token.entry := by
  induction tokens with
  | nil => rfl
  | cons t tokens ih =>
    rw [Token.dump, List.map_cons, String.join_cons, String.toList_append, String.toList_append,
      List.flatMap_cons, ← ih]
    rfl

theorem Token.entry_append (t : Token) (rest : List Char) :
    t.entry ++ rest = t.kind.name.toList ++ ' ' :: (t.lexeme.toList ++
      ' ' :: (t.shownLiteral.toList ++ '\n' :: rest)) := by
  simp [entry, text, shownLiteral, String.toList_append]

theorem drop_literal (t : Token) (rest : List Char) :
    (' ' :: (t.shownLiteral.toList ++ '\n' :: rest)).drop (t.shownLiteral.length + 2) = rest := by
  rw [← String.length_toList]
  simp

/-- The entry of a token reads as that token: its lexeme is the segment that is cut off there. -/
theorem readFirst?_token {s : Segment} {t : Token} (spells : s.Spells t) (rest : List Char) :
    readFirst? (t.entry ++ rest) = some (t.onLine 1, rest) := by
  obtain ⟨c, tail, lexeme⟩ := List.exists_cons_of_ne_nil spells.wellFormed.text_ne_nil
  have apart : s.goesOn (' ' :: (t.shownLiteral.toList ++ '\n' :: rest)) = false :=
    spells.goesOn_eq_false rfl
  have cut : Segment.cut c (tail ++ ' ' :: (t.shownLiteral.toList ++ '\n' :: rest)) =
      (s, ' ' :: (t.shownLiteral.toList ++ '\n' :: rest)) := by
    refine Segment.cut_eq_iff.2 ⟨?_, spells.wellFormed, apart⟩
    rw [lexeme, List.cons_append]
  rw [readFirst?, t.entry_append, dropWhile_name, List.tail_cons, ← spells.text_eq, lexeme,
    List.cons_append]
  simp only [cut, spells.token?_eq, Option.map_some]
  exact congrArg (fun rest => some (t.onLine 1, rest)) (drop_literal t rest)

theorem readFirst?_endOfText (line : Nat) : readFirst? (Token.endOfText line).entry = none := by
  -- The entry does not show the line.
  change readFirst? (Token.endOfText 1).entry = none
  decide +kernel

/-! ## Dumps -/

theorem readDump_entries {tokens : List Token} (spelled : ∀ t ∈ tokens, ∃ s : Segment, s.Spells t)
    (line : Nat) :
    readDump (tokens.flatMap Token.entry ++ (Token.endOfText line).entry) =
      tokens.map Token.content ++ [(Token.endOfText line).content] := by
  induction tokens with
  | nil => exact readDump_of_none (readFirst?_endOfText line)
  | cons t tokens ih =>
    obtain ⟨⟨s, spells⟩, others⟩ := List.forall_mem_cons.1 spelled
    rw [List.flatMap_cons, List.append_assoc, readDump_of_some (readFirst?_token spells _),
      ih others]
    rfl

theorem readDump_scan (source : String) :
    readDump (Token.dump (scan source).tokens).toList =
      (scan source).tokens.map Token.content := by
  have spelled : ∀ t ∈ (scanAt .start source.toList).tokens, ∃ s : Segment, s.Spells t :=
    fun _ member => exists_spells_of_mem_tokens member
  rw [toList_dump, scan_tokens, List.flatMap_append, List.flatMap_singleton, List.map_append]
  exact readDump_entries spelled _

/-- A dump can be read back but for the lines, so sources with the same dump have the same tokens
    but for their lines. -/
theorem readDump_dump :
    (∀ source, readDump (Token.dump (scan source).tokens).toList =
      (scan source).tokens.map Token.content) ∧
    ∀ source source', Token.dump (scan source).tokens = Token.dump (scan source').tokens →
      (scan source).tokens.length = (scan source').tokens.length ∧
      (scan source).tokens.map Token.content = (scan source').tokens.map Token.content := by
  refine ⟨readDump_scan, ?_⟩
  intro source source' same
  have contents : (scan source).tokens.map Token.content =
      (scan source').tokens.map Token.content := by
    rw [← readDump_scan source, same, readDump_scan source']
  refine ⟨?_, contents⟩
  simpa using congrArg List.length contents

/-- A string that looks like the last entry of a dump does not hide the name behind it. -/
theorem readDump_dump_string :
    Token.dump (scan "\"\" null\nEOF  null\n\" x").tokens =
      Token.dump (scan "\"\" null\nEOF  null\n\"\n\nx").tokens ∧
    (scan "\"\" null\nEOF  null\n\" x").tokens.map Token.content =
      (scan "\"\" null\nEOF  null\n\"\n\nx").tokens.map Token.content := by
  have same : Token.dump (scan "\"\" null\nEOF  null\n\" x").tokens =
      Token.dump (scan "\"\" null\nEOF  null\n\"\n\nx").tokens := by decide +kernel
  exact ⟨same, (readDump_dump.2 _ _ same).2⟩

end LoxFront
