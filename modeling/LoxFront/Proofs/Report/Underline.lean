import LoxFront.Proofs.Report.Run

/-! # Underlines

A diagnostic can be pointed at any bytes of a text, and also behind it.  Its label underlines the
characters that the bytes hold, but none beyond the displayed line, and at least one: `Underlines`
says how many they are for bytes on the line, past its end, or not made of whole characters.  From
one offset the underline never gets shorter when more bytes are given (`underline_mono`).
-/

namespace LoxFront

open Text (byteLength newlines fullLines lineBefore lineAfter sliceBytes? IsBoundary
  SplitsCharacter)

/-- How many characters are underlined at a location, for `length` bytes from its offset on. -/
structure Underlines (l : Listing) (offset length : Nat) (loc : Location) (width : Nat) : Prop where
  positive : 1 ≤ width
  inside : loc.column ≤ (l.lineText loc.line).length →
    loc.column - 1 + width ≤ (l.lineText loc.line).length
  outside : (l.lineText loc.line).length < loc.column → width = 1
  -- Characters of the displayed part of the line are all underlined.
  whole : ∀ span, span ≠ [] → sliceBytes? offset (offset + length) l.source = some span →
    offset + length ≤ l.lineStart (loc.line - 1) + byteLength (l.lineText loc.line) →
    width = span.length
  broken : ¬(IsBoundary offset l.source ∧ IsBoundary (offset + length) l.source) → width = 1

namespace Listing

/-! ## The width of an underline -/

section Width

variable {l : Listing} {loc : Location} {offset length : Nat}

theorem one_le_underline : 1 ≤ l.underline loc offset length :=
  Nat.le_max_right _ _

theorem column_add_underline_le (first : 1 ≤ loc.column)
    (inside : loc.column ≤ (l.lineText loc.line).length) :
    loc.column - 1 + l.underline loc offset length ≤ (l.lineText loc.line).length := by
  simp only [underline]
  omega

theorem underline_of_outside (outside : (l.lineText loc.line).length < loc.column) :
    l.underline loc offset length = 1 := by
  simp only [underline]
  omega

theorem underline_of_slice {span : List Char} (some : span ≠ [])
    (cut : sliceBytes? offset (offset + length) l.source = .some span)
    (fits : loc.column - 1 + span.length ≤ (l.lineText loc.line).length) :
    l.underline loc offset length = span.length := by
  have positive : 0 < span.length := List.length_pos_iff.2 some
  simp only [underline, cut, Option.elim_some]
  omega

theorem underline_of_broken
    (broken : ¬(IsBoundary offset l.source ∧ IsBoundary (offset + length) l.source)) :
    l.underline loc offset length = 1 := by
  have none : sliceBytes? offset (offset + length) l.source = none := by
    rw [← Option.not_isSome_iff_eq_none, Text.isSome_sliceBytes?_iff]
    exact fun cut => broken cut.2
  simp only [underline, none, Option.elim_none]
  omega

theorem underline_mono {length' : Nat} (order : length ≤ length')
    (start : IsBoundary offset l.source) (stop : IsBoundary (offset + length) l.source)
    (stop' : IsBoundary (offset + length') l.source) :
    l.underline loc offset length ≤ l.underline loc offset length' := by
  obtain ⟨span, cut⟩ := Option.isSome_iff_exists.1
    (Text.isSome_sliceBytes?_iff.2 ⟨Nat.le_add_right offset length, start, stop⟩)
  obtain ⟨span', cut'⟩ := Option.isSome_iff_exists.1
    (Text.isSome_sliceBytes?_iff.2 ⟨Nat.le_add_right offset length', start, stop'⟩)
  have longer : span.length ≤ span'.length :=
    (Text.prefix_of_sliceBytes? (by omega) cut cut').length_le
  simp only [underline, cut, cut', Option.elim_some]
  omega

end Width

/-! ## Underlines of a text -/

section OfSource

variable {file source : String} {before after : List Char}

/-- Bytes that end before the displayed part of their line does hold no more characters than it. -/
theorem length_le_of_displayed (file : String) {length : Nat} {span : List Char}
    (split : source.toList = before ++ after)
    (cut : sliceBytes? (byteLength before) (byteLength before + length) source.toList = some span)
    (displayed : byteLength before + length ≤ byteLength (fullLines before) +
      byteLength ((ofSource file source).lineText (newlines before + 1))) :
    (lineBefore before).length + span.length ≤
      ((ofSource file source).lineText (newlines before + 1)).length := by
  obtain ⟨before', rest, split', place, stop⟩ := Text.sliceBytes?_eq_some_iff.1 cut
  rw [split, List.append_assoc] at split'
  obtain ⟨-, rfl⟩ := Text.eq_of_byteLength_eq split' place.symm
  have position := byteLength_fullLines before
  rw [lineText_ofSource file split] at displayed ⊢
  -- Both the displayed line and the line up to the stop of the bytes begin the line and its rest.
  obtain ⟨crs, trimmed⟩ := List.rdropWhile_prefix (· == '\r')
    (l := lineBefore before ++ lineAfter (span ++ rest))
  obtain ⟨below, line⟩ := List.takeWhile_prefix (· != '\n') (l := span ++ rest)
  have same : lineBefore before ++ span ++ rest =
      (lineBefore before ++ lineAfter (span ++ rest)).rdropWhile (· == '\r') ++ (crs ++ below) := by
    rw [← List.append_assoc, trimmed, List.append_assoc, List.append_assoc]
    exact congrArg _ line.symm
  have order : byteLength (lineBefore before ++ span) ≤ byteLength
      ((lineBefore before ++ lineAfter (span ++ rest)).rdropWhile (· == '\r')) := by
    rw [Text.byteLength_append]
    omega
  obtain ⟨between, longer, -⟩ := Text.exists_between same order
  rw [longer, List.length_append, List.length_append]
  omega

/-- At a place of the text. -/
theorem underlines_ofSource (file : String) (split : source.toList = before ++ after)
    {offset : Nat} (place : byteLength before = min offset (byteLength source.toList))
    (length : Nat) :
    let loc : Location := ⟨file, newlines before + 1, (lineBefore before).length + 1, 1⟩
    Underlines (ofSource file source) offset length loc
      ((ofSource file source).underline loc offset length) where
  positive := one_le_underline
  inside := column_add_underline_le (Nat.le_add_left 1 _)
  outside := underline_of_outside
  whole := by
    intro span some cut displayed
    have start : IsBoundary offset source.toList :=
      (Text.isSome_sliceBytes?_iff.1 (Option.isSome_of_eq_some cut)).2.1
    -- The offset is in the text, so it is the one of the place.
    have inText : offset ≤ byteLength source.toList := start.le
    rw [Nat.min_eq_left inText] at place
    subst place
    rw [Nat.add_sub_cancel, lineStart_ofSource file split] at displayed
    refine underline_of_slice some cut ?_
    rw [Nat.add_sub_cancel]
    exact length_le_of_displayed file split cut displayed
  broken := underline_of_broken

end OfSource

end Listing

/-- What comes of pointing diagnostics at an offset of a text.  All but the width of the underline
    is the same for every length. -/
structure Pointing (file source : String) (offset : Nat) (loc : Location) (width : Nat → Nat) :
    Prop where
  located : (Listing.ofSource file source).locate offset = .ok loc
  stores : ∀ stored d length label,
    (⟨.ofSource file source, stored⟩ : Report).step (.annotate d offset length label) =
      (.ok .stored, ⟨.ofSource file source, stored.push { d with
        location := some { loc with length := width length }
        sourceLine := some (String.ofList ((Listing.ofSource file source).lineText loc.line))
        labels := d.labels ++ [⟨loc.column, width length, label⟩] }⟩)
  underlines : ∀ length,
    Underlines (.ofSource file source) offset length loc (width length)
  mono : ∀ length length', length ≤ length' → IsBoundary (offset + length) source.toList →
    IsBoundary (offset + length') source.toList → width length ≤ width length'

/-- At a boundary of the text and behind the text diagnostics can be pointed with any length.  They
    are stored with the location and the displayed line, and with one more label, which underlines
    what `Underlines` says and gets longer with the length. -/
theorem exists_pointing (file source : String) (offset : Nat)
    (place : IsBoundary offset source.toList ∨ byteLength source.toList < offset) :
    ∃ loc width, Pointing file source offset loc width := by
  have whole : ¬SplitsCharacter offset source.toList := by
    rw [Text.splitsCharacter_iff]
    rintro ⟨inside, notBoundary⟩
    obtain boundary | past := place
    · exact notBoundary boundary
    · omega
  obtain ⟨before, after, split, clamped, located⟩ := Listing.exists_place file whole
  let loc : Location := ⟨file, newlines before + 1, (lineBefore before).length + 1, 1⟩
  refine ⟨loc, (Listing.ofSource file source).underline loc offset, located, ?_, ?_, ?_⟩
  · intro stored d length label
    rw [Report.step_annotate, Listing.annotate_of_located located]
    rfl
  · exact Listing.underlines_ofSource file split clamped
  · intro length length' order stop stop'
    -- Bytes that end in the text do not start behind it.
    have inText := stop.le
    obtain start | past := place
    · exact Listing.underline_mono order start stop stop'
    · omega

/-- The second line of a text, with a character of two bytes in front of it and a CR at its end. -/
theorem exists_pointing_secondLine :
    IsBoundary 4 "é\r\nab\r".toList ∧
      ∃ loc width, Pointing "lines" "é\r\nab\r" 4 loc width :=
  ⟨by decide, exists_pointing "lines" "é\r\nab\r" 4 (.inl (by decide))⟩

end LoxFront
