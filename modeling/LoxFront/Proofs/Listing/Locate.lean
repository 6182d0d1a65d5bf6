import LoxFront.Listing
import LoxFront.Proofs.Text.Boundary
import LoxFront.Proofs.Text.Lines

/-! # Locations in a listing

For the listing of a text, every place in the text has a location (`locate_ofSource`): its line is
one more than the LFs in front of it, and its column one more than the characters that its line
holds in front of it.  An offset has a location unless it splits a character (`exists_place`,
`locate_of_splitsCharacter`).  The line is shown without the CRs at its end (`lineText_ofSource`).
-/

namespace LoxFront

open Text (byteLength newlines fullLines lineBefore lineAfter sliceBytes? SplitsCharacter)

namespace Listing

section Place

variable {file source : String} {before after : List Char}

/-- The table of a listing around the line of a place. -/
theorem exists_lines (file : String) (split : source.toList = before ++ after) :
    ∃ above below, (ofSource file source).lines =
        above ++ ⟨byteLength (fullLines before), lineBefore before ++ lineAfter after⟩ :: below ∧
      above.length = newlines before ∧
      ∀ line ∈ above, line.stop < byteLength (fullLines before) := by
  have lines := Text.lines_append before after
  rwa [← split] at lines

theorem byteLength_fullLines (before : List Char) :
    byteLength before = byteLength (fullLines before) + byteLength (lineBefore before) := by
  conv => lhs; rw [← Text.fullLines_append_lineBefore before, Text.byteLength_append]

theorem lineIndex_ofSource (file : String) (split : source.toList = before ++ after) :
    (ofSource file source).lineIndex (byteLength before) = newlines before := by
  obtain ⟨above, below, lines, count, higher⟩ := exists_lines file split
  have position := byteLength_fullLines before
  -- The lines above stop before the place.
  have none : above.findIdx? (·.covers (byteLength before)) = none := by
    rw [List.findIdx?_eq_none_iff]
    intro line member
    have := higher line member
    simp only [Line.covers, Bool.and_eq_false_iff, decide_eq_false_iff_not]
    omega
  have covers : (Line.mk (byteLength (fullLines before))
      (lineBefore before ++ lineAfter after)).covers (byteLength before) = true := by
    simp only [Line.covers, Line.stop, Text.byteLength_append, Bool.and_eq_true,
      decide_eq_true_eq]
    omega
  rw [lineIndex, lines, List.findIdx?_append, none, List.findIdx?_cons, if_pos covers]
  simp [count]

theorem getElem?_lines (file : String) (split : source.toList = before ++ after) :
    (ofSource file source).lines[newlines before]? =
      some ⟨byteLength (fullLines before), lineBefore before ++ lineAfter after⟩ := by
  obtain ⟨above, below, lines, count, -⟩ := exists_lines file split
  rw [lines, ← count, List.getElem?_append_right (Nat.le_refl _), Nat.sub_self]
  rfl

theorem lineStart_ofSource (file : String) (split : source.toList = before ++ after) :
    (ofSource file source).lineStart (newlines before) = byteLength (fullLines before) := by
  rw [lineStart, getElem?_lines file split]
  rfl

/-- The line of an offset past the end is the last one. -/
theorem lineIndex_past (file : String) {offset : Nat} (past : byteLength source.toList < offset) :
    (ofSource file source).lineIndex offset = newlines source.toList := by
  have none : (ofSource file source).lines.findIdx? (·.covers offset) = none := by
    rw [List.findIdx?_eq_none_iff]
    intro line member
    have := Text.stop_le_of_mem_lines member
    simp only [Line.covers, Bool.and_eq_false_iff, decide_eq_false_iff_not]
    omega
  rw [lineIndex, none]
  change (Text.lines source.toList).length - 1 = _
  rw [Text.length_lines, Nat.add_sub_cancel]

theorem locate_of_lineIndex (file : String) (split : source.toList = before ++ after) {offset : Nat}
    (index : (ofSource file source).lineIndex offset = newlines before)
    (inText : min offset (byteLength source.toList) = byteLength before) :
    (ofSource file source).locate offset =
      .ok ⟨file, newlines before + 1, (lineBefore before).length + 1, 1⟩ := by
  have slice : sliceBytes? (byteLength (fullLines before)) (byteLength before) source.toList =
      some (lineBefore before) :=
    Text.sliceBytes?_eq_some_iff.2 ⟨fullLines before, after,
      by rw [Text.fullLines_append_lineBefore, split], rfl, (byteLength_fullLines before).symm⟩
  have start := lineStart_ofSource file split
  have listed : (ofSource file source).source = source.toList := rfl
  simp only [locate, index, start, listed, inText, slice]
  rfl

/-- The location of a place. -/
theorem locate_ofSource (file : String) (split : source.toList = before ++ after) :
    (ofSource file source).locate (byteLength before) =
      .ok ⟨file, newlines before + 1, (lineBefore before).length + 1, 1⟩ := by
  have inText : min (byteLength before) (byteLength source.toList) = byteLength before := by
    rw [split, Text.byteLength_append]
    omega
  exact locate_of_lineIndex file split (lineIndex_ofSource file split) inText

/-- The end of the text is the location of every offset behind it. -/
theorem locate_of_length_le (file : String) {offset : Nat}
    (past : byteLength source.toList ≤ offset) :
    (ofSource file source).locate offset = .ok ⟨file, newlines source.toList + 1,
      (lineBefore source.toList).length + 1, 1⟩ := by
  have split : source.toList = source.toList ++ [] := (List.append_nil _).symm
  obtain here | behind := Nat.eq_or_lt_of_le past
  · rw [← here]
    exact locate_ofSource file split
  · exact locate_of_lineIndex file split (lineIndex_past file behind) (Nat.min_eq_right past)

/-- An offset that splits no character has the location of a place, for an offset past the end that
    of the end. -/
theorem exists_place (file : String) {offset : Nat}
    (whole : ¬SplitsCharacter offset source.toList) :
    ∃ before after, source.toList = before ++ after ∧
      byteLength before = min offset (byteLength source.toList) ∧
      (ofSource file source).locate offset =
        .ok ⟨file, newlines before + 1, (lineBefore before).length + 1, 1⟩ := by
  obtain ⟨before, after, split, place⟩ := Text.isBoundary_min whole
  refine ⟨before, after, split, place, ?_⟩
  by_cases inside : offset ≤ byteLength source.toList
  · rw [Nat.min_eq_left inside] at place
    rw [← place]
    exact locate_ofSource file split
  · rw [Nat.min_eq_right (by omega)] at place
    -- Nothing can stand behind a place that has all the bytes in front of it.
    obtain rfl : after = [] := by
      rw [split, Text.byteLength_append] at place
      exact Text.byteLength_eq_zero.1 (by omega)
    rw [List.append_nil] at split
    rw [locate_of_length_le file (by omega), split]

/-- An offset that splits a character has no location. -/
theorem locate_of_splitsCharacter (file : String) {offset : Nat}
    (splits : SplitsCharacter offset source.toList) :
    (ofSource file source).locate offset = .error (.insideCharacter offset) := by
  obtain ⟨inside, notBoundary⟩ := Text.splitsCharacter_iff.1 splits
  have listed : (ofSource file source).source = source.toList := rfl
  simp only [locate, listed, Nat.min_eq_left (Nat.le_of_lt inside)]
  cases slice : sliceBytes? ((ofSource file source).lineStart
      ((ofSource file source).lineIndex offset)) offset source.toList with
  | none => rfl
  | some text =>
    -- Whatever line it is taken to be on, the text up to it would be a slice.
    have cut := Text.isSome_sliceBytes?_iff.1 (Option.isSome_of_eq_some slice)
    exact absurd cut.2.2 notBoundary

theorem lineText_ofSource (file : String) (split : source.toList = before ++ after) :
    (ofSource file source).lineText (newlines before + 1) =
      (lineBefore before ++ lineAfter after).rdropWhile (· == '\r') := by
  rw [lineText, getElem?_lines file split]
  rfl

end Place

end Listing

end LoxFront
