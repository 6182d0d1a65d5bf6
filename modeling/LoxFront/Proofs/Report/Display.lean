import LoxFront.Proofs.Diagnostic.Rows
import LoxFront.Proofs.Report.Check

/-! # How the faults of a text are displayed

Whatever a text holds, there is no LF in the diagnostics of its faults unless the name of the file
brings one in: a displayed line ends in front of its LF, a quoted character is escaped, and all else
is fixed texts and numbers.  So `OneLine.laidOut` applies to them.  They take up seven rows or
eight, and the carets stand below the character at which the fault begins (`Depicts.showsFault`).
-/

namespace LoxFront

open Text (byteLength newlines lineBefore lineAfter SplitsCharacter)
open Diagnostic (OneLine LaidOut CaretRow digits)

/-! ## Diagnostics without a LF -/

theorem Text.newline_notMem_escape (c : Char) : '\n' ∉ Text.escape c := by
  by_cases newline : c = '\n'
  · rw [newline]
    decide
  · fun_cases Text.escape c with
    | case8 =>
      have number : '\n' ∉ Nat.toDigits 16 c.toNat :=
        Diagnostic.notMem_toDigits rfl (by decide) _
      simp [Text.escapeByNumber, number]
    | case9 => simpa using Ne.symm newline
    | _ => decide

namespace Listing

section OneLine

variable {file source : String}

theorem newline_notMem_lineText (file : String) {before after : List Char}
    (split : source.toList = before ++ after) :
    '\n' ∉ (ofSource file source).lineText (newlines before + 1) := by
  rw [lineText_ofSource file split]
  intro member
  have inLine := (List.rdropWhile_prefix _ _).mem member
  obtain front | back := List.mem_append.1 inLine
  · exact Text.newline_notMem_lineBefore before front
  · exact Text.newline_notMem_lineAfter after back

theorem oneLine_annotate {d annotated : Diagnostic} {offset length : Nat} {label : String}
    (oneLine : OneLine d) (fileOneLine : '\n' ∉ file.toList) (labelOneLine : '\n' ∉ label.toList)
    (success : (ofSource file source).annotate d offset length label = .ok annotated) :
    OneLine annotated := by
  obtain ⟨loc, width, located, rfl⟩ := exists_of_annotate success
  have whole : ¬SplitsCharacter offset source.toList := by
    intro splits
    rw [locate_of_splitsCharacter file splits] at located
    exact nomatch located
  obtain ⟨before, after, split, -, located'⟩ := exists_place file whole
  obtain rfl := Except.ok.inj (located.symm.trans located')
  have line := newline_notMem_lineText file split
  rw [← String.toList_ofList (l := (ofSource file source).lineText _)] at line
  exact ((oneLine.addLabel labelOneLine).setSourceLine line).setLocation fileOneLine

/-- The diagnostic of a fault has been pointed at it last, when its help and its notes were there
    already. -/
theorem exists_annotate_of_diagnose {l : Listing} {f : Fault} {d : Diagnostic}
    (success : l.diagnose f = .ok d) :
    ∃ d₀ label, l.annotate d₀ f.offset f.length label = .ok d ∧ OneLine d₀ ∧
      '\n' ∉ label.toList ∧ (f.kind ≠ .unterminatedString → d₀.help = none ∧ d₀.notes.length = 1) ∧
      (f.kind = .unterminatedString → d₀.help.isSome = true ∧ d₀.notes.length ≤ 1) := by
  cases kind : f.kind with
  | unexpectedCharacter c =>
    simp only [diagnose, kind] at success
    refine ⟨_, _, success, ?_, by decide, fun _ => ⟨rfl, rfl⟩, by rintro ⟨⟩⟩
    refine (OneLine.ofMessage (by decide) ?_).addNote ?_
    · rw [Fault.message, kind]
      change '\n' ∉ "Unexpected character.".toList
      decide
    · simp [Text.newline_notMem_escape]
  | unterminatedString =>
    cases located : l.locate f.offset with
    | error e =>
      rw [diagnose_of_unlocated located] at success
      cases success
    | ok loc =>
      simp only [diagnose, kind, located] at success
      have noNote : OneLine ((Diagnostic.ofMessage "E002" f.message).setHelp
          "add a closing '\"' at the end of the string") := by
        refine (OneLine.ofMessage (by decide) ?_).setHelp (by decide)
        rw [Fault.message, kind]
        decide
      refine ⟨_, _, success, ?_, by decide, fun other => absurd rfl other, fun _ => ?_⟩
      · split
        · exact noNote
        · have number : '\n' ∉ f.line.repr.toList := Diagnostic.notMem_repr rfl f.line
          refine noNote.addNote ?_
          rw [String.toList_append, List.mem_append, not_or]
          exact ⟨by decide, number⟩
      · split
        · exact ⟨rfl, Nat.zero_le 1⟩
        · exact ⟨rfl, Nat.le_refl 1⟩

theorem oneLine_of_diagnose {f : Fault} {d : Diagnostic} (fileOneLine : '\n' ∉ file.toList)
    (success : (ofSource file source).diagnose f = .ok d) : OneLine d := by
  obtain ⟨d₀, label, annotated, oneLine, labelOneLine, -⟩ := exists_annotate_of_diagnose success
  exact oneLine_annotate oneLine fileOneLine labelOneLine annotated

theorem remarks_of_diagnose {l : Listing} {f : Fault} {d : Diagnostic}
    (success : l.diagnose f = .ok d) :
    (f.kind ≠ .unterminatedString → d.help = none ∧ d.notes.length = 1) ∧
      (f.kind = .unterminatedString → d.help.isSome = true ∧ d.notes.length ≤ 1) := by
  obtain ⟨d₀, label, annotated, -, -, remarks⟩ := exists_annotate_of_diagnose success
  -- Pointing it at the fault has left its help and notes alone.
  obtain ⟨loc, width, -, rfl⟩ := exists_of_annotate annotated
  exact remarks

end OneLine

end Listing

/-! ## The rows of a fault -/

/-- The character at which a fault begins. -/
def FaultKind.character : FaultKind → Char
  | unterminatedString => '"'
  | unexpectedCharacter c => c

/-- Rows that show a fault: the line that it is on, and carets below its characters on that line. -/
structure ShowsFault (f : Fault) (d : Diagnostic) (loc : Location) (rows : List (List Char)) :
    Prop where
  line : ∃ row, rows[3]? = some row ∧
    row[digits loc.line + 3 + (loc.column - 1)]? = some f.kind.character ∧
    digits loc.line + 3 + (loc.column - 1) + loc.length ≤ row.length ∧
    (f.kind = .unterminatedString →
      digits loc.line + 3 + (loc.column - 1) + loc.length = row.length)
  carets : ∃ row text, rows[4]? = some row ∧
    CaretRow (digits loc.line + 1) (digits loc.line + 3 + (loc.column - 1))
      (digits loc.line + 3 + (loc.column - 1) + loc.length - 1) text row
  unexpected : f.kind ≠ .unterminatedString → rows.length = 7
  unterminated : f.kind = .unterminatedString → rows.length = 7 + d.notes.length ∧ rows.length ≤ 8

section Depicts

variable {file source : String} {f : Fault} {d : Diagnostic} {loc : Location}
variable {shown : List Char} {rows : List (List Char)}

theorem Depicts.character (depicts : Depicts file source f d loc shown) :
    shown[loc.column - 1]? = some f.kind.character := by
  cases kind : f.kind with
  | unexpectedCharacter c => exact (depicts.unexpected c kind).2.1
  | unterminatedString => exact (depicts.unterminated kind).2.1

theorem Depicts.length_pos (depicts : Depicts file source f d loc shown) : 0 < loc.length := by
  cases kind : f.kind with
  | unexpectedCharacter c =>
    rw [(depicts.unexpected c kind).2.2]
    exact Nat.one_pos
  | unterminatedString =>
    -- Its quote at least is on the line.
    obtain ⟨onLine, -⟩ := List.getElem?_eq_some_iff.1 (depicts.unterminated kind).2.1
    rw [(depicts.unterminated kind).2.2, List.length_drop]
    omega

/-- An unterminated string is underlined to the end of its line. -/
theorem Depicts.column_add_length (depicts : Depicts file source f d loc shown)
    (kind : f.kind = .unterminatedString) : loc.column - 1 + loc.length = shown.length := by
  have positive := depicts.length_pos
  have length := (depicts.unterminated kind).2.2
  rw [List.length_drop] at length
  omega

theorem PointsAt.sourceRows {offset : Nat} (points : PointsAt file source offset d loc shown) :
    d.sourceRows = 2 := by
  obtain ⟨text, labels⟩ := points.label
  rw [Diagnostic.sourceRows, points.sourceLine, labels]
  rfl

/-- A diagnostic that points at a fault shows it in the rows that it is laid out in. -/
theorem Depicts.showsFault (depicts : Depicts file source f d loc shown)
    (success : (Listing.ofSource file source).diagnose f = .ok d) (laid : LaidOut d loc rows) :
    ShowsFault f d loc rows where
  line := by
    obtain ⟨front, width, row⟩ := laid.sourceLine _ depicts.sourceLine
    rw [String.toList_ofList] at row
    have inside := depicts.inside
    refine ⟨_, row, ?_, ?_, ?_⟩
    · rw [← width, List.getElem?_append_right (Nat.le_add_right _ _), Nat.add_sub_cancel_left]
      exact depicts.character
    · rw [List.length_append, width]
      omega
    · intro kind
      have toEnd := depicts.column_add_length kind
      rw [List.length_append, width]
      omega
  carets := by
    obtain ⟨text, labels⟩ := depicts.label
    have only : d.labels[0]? = some ⟨loc.column, loc.length, text⟩ := by
      rw [labels]
      rfl
    obtain ⟨row, found, carets⟩ := laid.carets _ depicts.sourceLine 0 _ only
    -- Neither the column nor the length of its label is zero.
    have column := depicts.column
    have first : digits loc.line + 3 + max loc.column 1 - 1 =
        digits loc.line + 3 + (loc.column - 1) := by omega
    have positive : max loc.length 1 = loc.length := max_eq_left depicts.length_pos
    simp only [first, positive] at carets
    exact ⟨row, text, found, carets⟩
  unexpected := by
    intro kind
    obtain ⟨noHelp, oneNote⟩ := (Listing.remarks_of_diagnose success).1 kind
    rw [laid.count, depicts.sourceRows, noHelp, oneNote]
    rfl
  unterminated := by
    intro kind
    obtain ⟨help, notes⟩ := (Listing.remarks_of_diagnose success).2 kind
    rw [laid.count, depicts.sourceRows, help, if_pos rfl]
    omega

end Depicts

/-- Located diagnostics whose texts hold no LF are displayed in rows that are aligned with each
    other.  All diagnostics of a text are such ones, under any name without a LF: each of them is
    displayed in seven rows or eight, with its carets below the fault. -/
theorem display_aligned :
    (∀ (d : Diagnostic) (loc : Location), d.location = some loc → OneLine d →
      ∃ rows, LaidOut d loc rows) ∧
    ∀ file source : String, '\n' ∉ file.toList →
      ∃ checked, check file source = .ok checked ∧
        List.Forall₂ (fun f d => ∃ loc shown rows, Depicts file source f d loc shown ∧ OneLine d ∧
            LaidOut d loc rows ∧ ShowsFault f d loc rows)
          (scan source).faults checked.diagnostics.toList := by
  refine ⟨fun d loc located oneLine => ⟨_, oneLine.laidOut located⟩, ?_⟩
  intro file source fileOneLine
  obtain ⟨ds, each⟩ := exists_diagnostics file source
  refine ⟨_, check_eq_ok (each.imp fun _ _ h => h.1), each.imp ?_⟩
  rintro f d ⟨success, loc, shown, depicts⟩
  have oneLine : OneLine d := Listing.oneLine_of_diagnose fileOneLine success
  have laid := oneLine.laidOut depicts.location
  exact ⟨loc, shown, _, depicts, oneLine, laid, depicts.showsFault success laid⟩

/-- A label of no characters in no column, and a text with both kinds of faults. -/
theorem display_aligned_string :
    (∃ rows, LaidOut ⟨"E000", "none", some ⟨"f", 10, 0, 0⟩, some "a\r", [⟨0, 0, ""⟩], none, []⟩
      ⟨"f", 10, 0, 0⟩ rows) ∧
    '\n' ∉ "f".toList ∧ ∃ checked, check "f" "#\r\n \"é\n" = .ok checked ∧
      List.Forall₂ (fun f d => ∃ loc shown rows, Depicts "f" "#\r\n \"é\n" f d loc shown ∧
          OneLine d ∧ LaidOut d loc rows ∧ ShowsFault f d loc rows)
        (scan "#\r\n \"é\n").faults checked.diagnostics.toList :=
  ⟨display_aligned.1 _ _ rfl
      ⟨by decide, by decide, by simp, by simp, by simp, by simp, by simp⟩,
    by decide, display_aligned.2 _ _ (by decide)⟩

end LoxFront
