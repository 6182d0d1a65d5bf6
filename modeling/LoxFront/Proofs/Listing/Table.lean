import LoxFront.Proofs.Listing.Locate

/-! # The line table of a listing

The lines of a text divide it: they follow each other with exactly the LF between them, and every
offset of the text lies in one of them (`divides_lines`).  Locations order places the way offsets
do, so a line and a column lead back to the one offset that has them (`table_locates`).  What
carries the order is `lineBefore_append`: between two places there is a LF, and the line grows, or
there is none, and all the characters between them go into the column.
-/

namespace LoxFront

open Text (byteLength newlines lineBefore sliceBytes? IsBoundary)

/-- The line and the column of a location, of which the line counts first. -/
def Location.position (loc : Location) : Nat ×ₗ Nat :=
  toLex (loc.line, loc.column)

/-! ## Lines laid out -/

namespace Line

/-- A line starts behind the LF that ends the other one. -/
def Follows (text : List Char) (upper lower : Line) : Prop :=
  lower.start = upper.stop + 1 ∧ sliceBytes? upper.stop lower.start text = some ['\n']

theorem isChain_layOut (front : List Char) (texts : List (List Char)) :
    (layOut (byteLength front) texts).IsChain (Follows (front ++ ['\n'].intercalate texts)) := by
  induction texts generalizing front with
  | nil => exact .nil
  | cons text texts ih =>
    cases texts with
    | nil => exact .singleton _
    | cons next texts =>
      have behind : byteLength (front ++ text ++ ['\n']) =
          byteLength front + byteLength text + 1 := by
        rw [Text.byteLength_append, Text.byteLength_append]
        rfl
      have newline : sliceBytes? (byteLength front + byteLength text)
          (byteLength front + byteLength text + 1)
          (front ++ (text ++ ['\n'] ++ ['\n'].intercalate (next :: texts))) = some ['\n'] :=
        Text.sliceBytes?_eq_some_iff.2 ⟨front ++ text, ['\n'].intercalate (next :: texts),
          by simp, Text.byteLength_append front text, rfl⟩
      have rest := ih (front ++ text ++ ['\n'])
      rw [behind] at rest
      rw [List.intercalate_cons_cons]
      refine .cons_cons ⟨rfl, newline⟩ ?_
      rw [List.append_assoc, List.append_assoc, ← List.append_assoc text] at rest
      exact rest

/-- Every offset that the lines take up lies in one of them, and in no other. -/
theorem existsUnique_covers_layOut {start offset : Nat} {texts : List (List Char)}
    (low : start ≤ offset) (high : offset < start + extent texts) :
    ∃! index : Nat, ∃ line : Line,
      (layOut start texts)[index]? = some line ∧ line.covers offset = true := by
  induction texts generalizing start with
  | nil => exact absurd high (by simpa [extent] using low)
  | cons text texts ih =>
    rw [extent_cons] at high
    simp only [covers, Bool.and_eq_true, decide_eq_true_eq] at ih ⊢
    by_cases first : offset ≤ start + byteLength text
    · -- The lines below start behind the offset.
      refine ⟨0, ⟨⟨start, text⟩, rfl, low, first⟩, ?_⟩
      rintro (_ | index) ⟨line, found, covers⟩
      · rfl
      · have below : line ∈ layOut (start + byteLength text + 1) texts :=
          List.mem_of_getElem? found
        have := (inside_of_mem_layOut below).1
        omega
    · have below : start + byteLength text + 1 ≤ offset := by omega
      obtain ⟨index, ⟨line, found, covers⟩, unique⟩ := ih below (by omega)
      refine ⟨index + 1, ⟨line, found, covers⟩, ?_⟩
      rintro (_ | other) ⟨line', found', covers'⟩
      · obtain rfl := Option.some.inj found'
        exact absurd covers'.2 first
      · rw [unique other ⟨line', found', covers'⟩]

theorem stop_getLast?_layOut (start : Nat) {texts : List (List Char)} (nonempty : texts ≠ []) :
    (layOut start texts).getLast?.map stop = some (start + extent texts - 1) := by
  induction texts generalizing start with
  | nil => exact absurd rfl nonempty
  | cons text texts ih =>
    cases texts with
    | nil => simp [layOut, stop, extent]
    | cons next texts =>
      have last := ih (start + byteLength text + 1) (List.cons_ne_nil _ _)
      rw [layOut] at last
      rw [layOut, layOut, List.getLast?_cons_cons, last, extent_cons text]
      congr 1
      omega

/-- What is shown of a line is its text without the CRs at its end. -/
theorem exists_text_eq_shown (line : Line) :
    ∃ crs, line.text = line.shown ++ List.replicate crs '\r' ∧
      line.shown.getLast? ≠ some '\r' := by
  have parts : line.shown ++ line.text.rtakeWhile (· == '\r') = line.text :=
    List.rdropWhile_append_rtakeWhile
  have crs : line.text.rtakeWhile (· == '\r') =
      List.replicate (line.text.rtakeWhile (· == '\r')).length '\r' :=
    List.eq_replicate_of_mem fun c member => by simpa using List.mem_rtakeWhile_imp member
  refine ⟨_, crs ▸ parts.symm, ?_⟩
  intro last
  have nonempty : line.shown ≠ [] := by
    rintro empty
    simp [empty] at last
  have kept := List.rdropWhile_last_not (· == '\r') line.text nonempty
  rw [List.getLast?_eq_some_getLast nonempty] at last
  exact kept (beq_iff_eq.2 (Option.some.inj last))

end Line

/-! ## The table of a text -/

/-- A table of lines divides a text: -/
structure Divides (lines : List Line) (text : List Char) : Prop where
  length : lines.length = 1 + newlines text
  first : lines.head?.map Line.start = some 0
  last : lines.getLast?.map Line.stop = some (byteLength text)
  next : lines.IsChain (Line.Follows text)
  -- Each line holds the characters from its start to its stop.
  holds : ∀ line ∈ lines, sliceBytes? line.start line.stop text = some line.text
  covers : ∀ offset ≤ byteLength text,
    ∃! index : Nat, ∃ line : Line, lines[index]? = some line ∧ line.covers offset = true

theorem divides_lines (text : List Char) : Divides (Text.lines text) text where
  length := by rw [Text.length_lines, Nat.add_comm]
  first := by
    obtain ⟨first, rest, split⟩ := List.exists_cons_of_ne_nil (List.splitOn_ne_nil '\n' text)
    rw [Text.lines, split]
    rfl
  last := by
    rw [Text.lines, Line.stop_getLast?_layOut 0 (List.splitOn_ne_nil '\n' text),
      Text.extent_splitOn, Nat.zero_add, Nat.add_sub_cancel]
  next := by
    have chain := Line.isChain_layOut [] (text.splitOn '\n')
    rwa [List.nil_append, List.intercalate_splitOn] at chain
  holds _ member := Text.slice_of_mem_lines member
  covers offset inside := by
    refine Line.existsUnique_covers_layOut (Nat.zero_le offset) ?_
    rw [Text.extent_splitOn]
    omega

namespace Listing

variable {file source : String}

/-! ## Lines -/

/-- A line of the table reads as the piece of the text between its LFs, without the CRs at the end
    of it. -/
theorem exists_piece_eq_lineText (file : String) {index : Nat}
    (inTable : index < (ofSource file source).lines.length) :
    ∃ piece crs, (source.toList.splitOn '\n')[index]? = some piece ∧
      piece = (ofSource file source).lineText (index + 1) ++ List.replicate crs '\r' ∧
      ((ofSource file source).lineText (index + 1)).getLast? ≠ some '\r' := by
  obtain ⟨line, found⟩ : ∃ line, (ofSource file source).lines[index]? = some line :=
    ⟨_, List.getElem?_eq_getElem inTable⟩
  have piece : (source.toList.splitOn '\n')[index]? = some line.text := by
    rw [← Line.map_text_layOut 0 (source.toList.splitOn '\n'), List.getElem?_map]
    exact congrArg (Option.map Line.text) found
  have reads : (ofSource file source).lineText (index + 1) = line.shown := by
    rw [lineText, found]
    rfl
  obtain ⟨crs, text, trimmed⟩ := line.exists_text_eq_shown
  rw [reads]
  exact ⟨line.text, crs, piece, text, trimmed⟩

theorem lineText_outside (l : Listing) {line : Nat} (outside : line = 0 ∨ l.lines.length < line) :
    l.lineText line = [] := by
  cases line with
  | zero => rfl
  | succ index =>
    have none : l.lines[index]? = none := List.getElem?_eq_none (by omega)
    rw [lineText, none]
    rfl

/-! ## The order of locations -/

/-- Of two places the first has the lesser line, or the same line and the lesser column. -/
theorem lineColumn_lt {before between : List Char} (apart : between ≠ []) :
    toLex (newlines before + 1, (lineBefore before).length + 1) <
      toLex (newlines (before ++ between) + 1, (lineBefore (before ++ between)).length + 1) := by
  rw [Prod.Lex.toLex_lt_toLex, Text.newlines_append, Text.lineBefore_append]
  by_cases newline : '\n' ∈ between
  · have lower : 0 < newlines between := List.count_pos_iff.2 newline
    exact .inl (by omega)
  · have same : newlines between = 0 := List.count_eq_zero.2 newline
    have longer : 0 < between.length := List.length_pos_iff.2 apart
    rw [if_neg newline, List.length_append]
    exact .inr ⟨by omega, by omega⟩

theorem position_lt (file : String) {offset offset' : Nat} {loc loc' : Location}
    (order : offset < offset') (boundary : IsBoundary offset source.toList)
    (boundary' : IsBoundary offset' source.toList)
    (located : (ofSource file source).locate offset = .ok loc)
    (located' : (ofSource file source).locate offset' = .ok loc') :
    loc.position < loc'.position := by
  obtain ⟨before, after, split, rfl⟩ := boundary
  obtain ⟨before', after', split', rfl⟩ := boundary'
  obtain ⟨between, rfl, -⟩ :=
    Text.exists_between (split.symm.trans split') (Nat.le_of_lt order)
  have apart : between ≠ [] := by
    rintro rfl
    simp at order
  rw [locate_ofSource file split] at located
  rw [locate_ofSource file split'] at located'
  obtain rfl := Except.ok.inj located
  obtain rfl := Except.ok.inj located'
  exact lineColumn_lt apart

/-- Offsets of places have the order of their positions. -/
theorem lt_iff_position_lt (file : String) {offset offset' : Nat} {loc loc' : Location}
    (boundary : IsBoundary offset source.toList) (boundary' : IsBoundary offset' source.toList)
    (located : (ofSource file source).locate offset = .ok loc)
    (located' : (ofSource file source).locate offset' = .ok loc') :
    offset < offset' ↔ loc.position < loc'.position := by
  refine ⟨fun order => position_lt file order boundary boundary' located located', ?_⟩
  intro lesser
  obtain order | rfl | order := Nat.lt_trichotomy offset offset'
  · exact order
  · rw [located] at located'
    obtain rfl := Except.ok.inj located'
    exact absurd lesser (lt_irrefl _)
  · have greater := position_lt file order boundary' boundary located' located
    exact absurd lesser greater.asymm

theorem eq_of_position_eq (file : String) {offset offset' : Nat} {loc loc' : Location}
    (boundary : IsBoundary offset source.toList) (boundary' : IsBoundary offset' source.toList)
    (located : (ofSource file source).locate offset = .ok loc)
    (located' : (ofSource file source).locate offset' = .ok loc')
    (same : loc.position = loc'.position) : offset = offset' := by
  obtain order | here | order := Nat.lt_trichotomy offset offset'
  · exact absurd same (position_lt file order boundary boundary' located located').ne
  · exact here
  · exact absurd same.symm (position_lt file order boundary' boundary located' located).ne

end Listing

/-- The table of a listing divides its text.  A place has the line that one counts from the LFs in
    front of it and the column that one counts from the characters behind the last of them, so
    positions have the order of their places and lead back to them; offsets past the end have the
    location of the end.  A line reads as its piece of the text, less the CRs at the end of it, and
    there is nothing to read outside the table. -/
theorem table_locates (file source : String) :
    Divides (Listing.ofSource file source).lines source.toList ∧
    (∀ before after, source.toList = before ++ after →
      (Listing.ofSource file source).locate (byteLength before) =
        .ok ⟨file, 1 + newlines before, 1 + (lineBefore before).length, 1⟩) ∧
    (∀ offset offset' loc loc', IsBoundary offset source.toList →
      IsBoundary offset' source.toList →
      (Listing.ofSource file source).locate offset = .ok loc →
      (Listing.ofSource file source).locate offset' = .ok loc' →
      (offset < offset' ↔ loc.position < loc'.position) ∧
        (loc.position = loc'.position → offset = offset')) ∧
    (∀ offset, byteLength source.toList < offset →
      (Listing.ofSource file source).locate offset =
        (Listing.ofSource file source).locate (byteLength source.toList)) ∧
    (∀ index < (Listing.ofSource file source).lines.length,
      ∃ piece crs, (source.toList.splitOn '\n')[index]? = some piece ∧
        piece = (Listing.ofSource file source).lineText (index + 1) ++ List.replicate crs '\r' ∧
        ((Listing.ofSource file source).lineText (index + 1)).getLast? ≠ some '\r') ∧
    ∀ line, line = 0 ∨ (Listing.ofSource file source).lines.length < line →
      (Listing.ofSource file source).lineText line = [] := by
  refine ⟨divides_lines source.toList, ?_, ?_, ?_, ?_, ?_⟩
  · intro before after split
    rw [Listing.locate_ofSource file split, Nat.add_comm (newlines before),
      Nat.add_comm (lineBefore before).length]
  · intro offset offset' loc loc' boundary boundary' located located'
    exact ⟨Listing.lt_iff_position_lt file boundary boundary' located located',
      Listing.eq_of_position_eq file boundary boundary' located located'⟩
  · intro offset past
    rw [Listing.locate_of_length_le file (Nat.le_of_lt past),
      Listing.locate_of_length_le file (Nat.le_refl _)]
  · intro index inTable
    exact Listing.exists_piece_eq_lineText file inTable
  · intro line outside
    exact Listing.lineText_outside _ outside

end LoxFront
