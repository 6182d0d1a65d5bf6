import LoxFront.Proofs.Listing.Locate

/-! # Diagnostics of a listing

A diagnostic can be pointed at every offset that has a location, and at no other.  This module then
says what it shows when it is pointed at a character that its line displays, any character but a LF
or a CR.  The displayed line goes through that character (`lineText_cons`), the column is its index
in the line, and the label underlines the characters it is given as far as the line is displayed
(`annotate_cons`).  The faults of a scan stand at such characters, so these are their diagnostics in
full.
-/

namespace LoxFront

open Text (byteLength newlines lineBefore lineAfter sliceBytes?)

namespace Text

/-- What the line of a place displays behind it. -/
def shownAfter (after : List Char) : List Char :=
  (lineAfter after).rdropWhile (· == '\r')

theorem length_shownAfter_le (after : List Char) : (shownAfter after).length ≤ after.length := by
  have trimmed : (shownAfter after).length ≤ (lineAfter after).length :=
    (List.rdropWhile_prefix _ _).length_le
  have cut : (lineAfter after).length ≤ after.length :=
    (List.takeWhile_prefix _).length_le
  exact Nat.le_trans trimmed cut

theorem newline_notMem_shownAfter (after : List Char) : '\n' ∉ shownAfter after := by
  intro member
  exact newline_notMem_lineAfter after ((List.rdropWhile_prefix _ _).mem member)

/-- Dropping from the end stops at the latest at a character that is not dropped. -/
theorem rdropWhile_append_cons {drops : Char → Bool} {c : Char} (stops : drops c = false)
    (front back : List Char) :
    (front ++ c :: back).rdropWhile drops = front ++ c :: back.rdropWhile drops := by
  induction back using List.reverseRecOn with
  | nil => rw [List.rdropWhile_concat_neg _ _ _ (by simp [stops]), List.rdropWhile_nil]
  | append_singleton back last ih =>
    rw [← List.cons_append, ← List.append_assoc, List.rdropWhile_concat, List.rdropWhile_concat, ih]
    split <;> simp

end Text

open Text (shownAfter)

namespace Listing

/-! ## Diagnostics anywhere -/

section Anywhere

variable {l : Listing} {offset : Nat} {f : Fault}

/-- What a located offset makes of a diagnostic that is pointed at it. -/
theorem annotate_of_located {loc : Location} (located : l.locate offset = .ok loc) (d : Diagnostic)
    (length : Nat) (label : String) :
    l.annotate d offset length label =
      let width := l.underline loc offset length
      .ok { d with
        location := some { loc with length := width }
        sourceLine := some (String.ofList (l.lineText loc.line))
        labels := d.labels ++ [⟨loc.column, width, label⟩] } := by
  rw [annotate, located]
  rfl

theorem annotate_of_unlocated {e : LocateError} (unlocated : l.locate offset = .error e)
    (d : Diagnostic) (length : Nat) (label : String) :
    l.annotate d offset length label = .error e := by
  rw [annotate, unlocated]
  rfl

/-- What is pointed somewhere has been located. -/
theorem exists_of_annotate {d annotated : Diagnostic} {length : Nat} {label : String}
    (success : l.annotate d offset length label = .ok annotated) :
    ∃ loc width, l.locate offset = .ok loc ∧ annotated = { d with
      location := some { loc with length := width }
      sourceLine := some (String.ofList (l.lineText loc.line))
      labels := d.labels ++ [⟨loc.column, width, label⟩] } := by
  cases located : l.locate offset with
  | error e =>
    rw [annotate_of_unlocated located] at success
    exact nomatch success
  | ok loc =>
    rw [annotate_of_located located] at success
    exact ⟨loc, _, rfl, (Except.ok.inj success).symm⟩

theorem exists_diagnose_of_located {loc : Location} (located : l.locate f.offset = .ok loc) :
    ∃ d, l.diagnose f = .ok d := by
  cases kind : f.kind with
  | unexpectedCharacter c =>
    simp only [diagnose, kind]
    exact ⟨_, annotate_of_located located _ _ _⟩
  | unterminatedString =>
    simp only [diagnose, kind, located]
    exact ⟨_, annotate_of_located located _ _ _⟩

theorem diagnose_of_unlocated {e : LocateError} (unlocated : l.locate f.offset = .error e) :
    l.diagnose f = .error e := by
  cases kind : f.kind with
  | unexpectedCharacter c =>
    simp only [diagnose, kind]
    exact annotate_of_unlocated unlocated _ _ _
  | unterminatedString =>
    simp only [diagnose, kind, unlocated]
    rfl

end Anywhere

/-! ## Diagnostics at displayed characters -/

section Shown

variable {source : String} {before after : List Char} {c : Char}

/-- The line of a displayed character goes on from what stands in front of it. -/
theorem lineText_cons (file : String) (split : source.toList = before ++ c :: after)
    (notLF : c ≠ '\n') (notCR : c ≠ '\r') :
    (ofSource file source).lineText (newlines before + 1) =
      lineBefore before ++ c :: shownAfter after := by
  have line : lineAfter (c :: after) = c :: lineAfter after :=
    List.takeWhile_cons_of_pos (by simpa using notLF)
  rw [lineText_ofSource file split, line]
  exact Text.rdropWhile_append_cons (by simpa using notCR) _ _

variable {span : List Char}

theorem underline_cons (file : String) (split : source.toList = before ++ c :: (span ++ after))
    (notLF : c ≠ '\n') (notCR : c ≠ '\r') :
    (ofSource file source).underline ⟨file, newlines before + 1, (lineBefore before).length + 1, 1⟩
        (byteLength before) (byteLength (c :: span)) =
      min span.length (shownAfter (span ++ after)).length + 1 := by
  have covered : sliceBytes? (byteLength before) (byteLength before + byteLength (c :: span))
      (ofSource file source).source = some (c :: span) :=
    Text.sliceBytes?_eq_some_iff.2 ⟨before, after, by simpa [ofSource] using split, rfl, rfl⟩
  rw [underline, covered, lineText_cons file split notLF notCR]
  simp only [Option.elim_some, List.length_cons, List.length_append, Nat.add_sub_cancel]
  omega

/-- A diagnostic that is pointed at a displayed character and at what follows it. -/
theorem annotate_cons (file : String) (split : source.toList = before ++ c :: (span ++ after))
    (notLF : c ≠ '\n') (notCR : c ≠ '\r') (d : Diagnostic) (label : String) :
    (ofSource file source).annotate d (byteLength before) (byteLength (c :: span)) label =
      let column := (lineBefore before).length + 1
      let width := min span.length (shownAfter (span ++ after)).length + 1
      .ok { d with
        location := some ⟨file, newlines before + 1, column, width⟩
        sourceLine := some (String.ofList (lineBefore before ++ c :: shownAfter (span ++ after)))
        labels := d.labels ++ [⟨column, width, label⟩] } := by
  rw [annotate_of_located (locate_ofSource file split)]
  simp only [underline_cons file split notLF notCR, lineText_cons file split notLF notCR]

theorem diagnose_unexpectedCharacter (file : String) (split : source.toList = before ++ c :: after)
    (notLF : c ≠ '\n') (notCR : c ≠ '\r') (line : Nat) :
    (ofSource file source).diagnose (.unexpectedCharacter c line (byteLength before)) =
      let column := (lineBefore before).length + 1
      .ok {
        code := "E001"
        message := "Unexpected character."
        location := some ⟨file, newlines before + 1, column, 1⟩
        sourceLine := some (String.ofList (lineBefore before ++ c :: shownAfter after))
        labels := [⟨column, 1, "unexpected character"⟩]
        help := none
        notes := ["'" ++ String.ofList (Text.escape c) ++ "' does not start any token"] } := by
  -- A label of one character, with nothing behind it to underline.
  have size : c.utf8Size = byteLength [c] := by simp
  have alone : source.toList = before ++ c :: ([] ++ after) := split
  rw [diagnose, Fault.unexpectedCharacter, size]
  change annotate _ _ (byteLength before) (byteLength (c :: [])) _ = _
  rw [annotate_cons file alone notLF notCR]
  simp only [List.length_nil, Nat.zero_min]
  rfl

theorem diagnose_unterminatedString (file : String) {body : List Char}
    (split : source.toList = before ++ '"' :: body) (line : Nat) :
    (ofSource file source).diagnose
        (.unterminatedString line (byteLength before) (byteLength ('"' :: body))) =
      let column := (lineBefore before).length + 1
      let width := (shownAfter body).length + 1
      .ok {
        code := "E002"
        message := "Unterminated string."
        location := some ⟨file, newlines before + 1, column, width⟩
        sourceLine := some (String.ofList (lineBefore before ++ '"' :: shownAfter body))
        labels := [⟨column, width, "string starts here"⟩]
        help := some "add a closing '\"' at the end of the string"
        notes :=
          if newlines before + 1 = line then [] else ["input ends on line " ++ line.repr] } := by
  -- Nothing stands behind the string, so only the end of its line can cut the underline short.
  have whole : source.toList = before ++ '"' :: (body ++ []) := by rw [List.append_nil, split]
  have width : min body.length (shownAfter (body ++ [])).length = (shownAfter body).length := by
    rw [List.append_nil]
    exact Nat.min_eq_right (Text.length_shownAfter_le body)
  rw [diagnose, Fault.unterminatedString]
  simp only [locate_ofSource file split]
  change annotate _ _ (byteLength before) (byteLength ('"' :: body)) _ = _
  rw [annotate_cons file whole (by decide) (by decide), width, List.append_nil]
  split <;> rfl

end Shown

end Listing

end LoxFront
