import LoxFront.Proofs.Scan.Place

/-! # Scans without the unexpected characters

An unexpected character is as good as white space: a source in which spaces are written over all of
them has the same tokens, and of the faults those that are left (`scan_healed`).  The spaces are as
many as the character has bytes, so that everything keeps its place.

A segment stops in front of a space wherever it stops in front of the character that the space is
written over (`goesOn_blankOut`).  The rest of the argument tells stray characters from other
segments, but not the others from each other.
-/

namespace LoxFront

open Text (byteLength newlines)

/-! ## Writing spaces over characters -/

/-- Write spaces over the characters at marked offsets, as many as the character has bytes; the
    text starts at the given offset. -/
def blankOut (marked : Nat → Bool) (offset : Nat) : List Char → List Char
  | [] => []
  | c :: rest =>
      (if marked offset then List.replicate c.utf8Size ' ' else [c]) ++
        blankOut marked (offset + c.utf8Size) rest

section BlankOut

variable {marked : Nat → Bool} {offset : Nat} {c : Char} {text rest : List Char}

theorem blankOut_marked (h : marked offset = true) :
    blankOut marked offset (c :: rest) =
      List.replicate c.utf8Size ' ' ++ blankOut marked (offset + c.utf8Size) rest := by
  rw [blankOut, if_pos h]

theorem blankOut_unmarked (h : marked offset = false) :
    blankOut marked offset (c :: rest) = c :: blankOut marked (offset + c.utf8Size) rest := by
  rw [blankOut, if_neg (Bool.eq_false_iff.1 h)]
  rfl

/-- What has no marks stays as it is. -/
theorem blankOut_append (unmarked : ∀ o, offset ≤ o → o < offset + byteLength text →
    marked o = false) (rest : List Char) :
    blankOut marked offset (text ++ rest) =
      text ++ blankOut marked (offset + byteLength text) rest := by
  induction text generalizing offset with
  | nil => rfl
  | cons c text ih =>
    have size := Char.utf8Size_pos c
    rw [Text.byteLength_cons] at unmarked
    rw [List.cons_append, blankOut_unmarked (unmarked offset (by omega) (by omega)),
      ih fun o lower upper => unmarked o (by omega) (by omega), Text.byteLength_cons, Nat.add_assoc]
    rfl

/-- The first character is a space or what it was. -/
theorem head?_blankOut (marked : Nat → Bool) (offset : Nat) (c : Char) (rest : List Char) :
    (blankOut marked offset (c :: rest)).head? = some (if marked offset then ' ' else c) := by
  cases h : marked offset with
  | false =>
    rw [blankOut_unmarked h]
    rfl
  | true =>
    obtain ⟨size, hsize⟩ := Nat.exists_eq_add_of_lt (Char.utf8Size_pos c)
    rw [blankOut_marked h, hsize, List.replicate_succ]
    rfl

theorem any_head?_blankOut {p : Char → Bool} (space : p ' ' = false)
    (outside : text.head?.any p = false) :
    (blankOut marked offset text).head?.any p = false := by
  cases text with
  | nil => rfl
  | cons c rest =>
    rw [head?_blankOut]
    cases marked offset with
    | false => exact outside
    | true => exact space

end BlankOut

theorem Numeral.opensFraction_blankOut {marked : Nat → Bool} {offset : Nat} {text : List Char}
    (closed : opensFraction text = false) :
    opensFraction (blankOut marked offset text) = false := by
  cases text with
  | nil => rfl
  | cons c rest =>
    cases h : marked offset with
    | true =>
      have head := head?_blankOut marked offset c rest
      rw [h] at head
      simp [opensFraction, head]
    | false =>
      rw [blankOut_unmarked h]
      by_cases point : c = '.'
      · subst point
        have noDigit : rest.head?.any Char.isDigit = false := by simpa [opensFraction] using closed
        simp [opensFraction, any_head?_blankOut rfl noDigit]
      · simp [opensFraction, point]

/-- A segment that stops in front of a text stops in front of it when spaces are written over some
    characters, except that a comment does not stop in front of a space instead of a LF. -/
theorem Segment.goesOn_blankOut {s : Segment} {marked : Nat → Bool} {offset : Nat}
    {rest : List Char} (stops : s.goesOn rest = false)
    (newline : rest.head? = some '\n' → marked offset = false) :
    s.goesOn (blankOut marked offset rest) = false := by
  cases s with
  | comment body =>
    cases rest with
    | nil => rfl
    | cons c rest =>
      obtain rfl : c = '\n' := by simpa [goesOn] using stops
      rw [blankOut_unmarked (newline rfl)]
      rfl
  | openString body =>
    obtain rfl : rest = [] := by simpa [goesOn] using stops
    rfl
  | _ =>
    exact goesOn_of_head? (c := ' ') rfl stops
      (fun _ space outside => any_head?_blankOut space outside) Numeral.opensFraction_blankOut

/-! ## Marking the unexpected characters -/

theorem offset_le_of_mem_faults {p : Place} {text : List Char} {f : Fault}
    (member : f ∈ (scanAt p text).faults) : p.offset ≤ f.offset := by
  obtain ⟨s, placed, isFault⟩ := List.mem_filterMap.1 member
  obtain ⟨before, -, -, place, -, -⟩ := exists_of_mem_layOut_segments placed
  rw [(Placed.span_of_fault? isFault).1, place]
  exact Place.offset_le_after p before

/-- The fault of the first segment of a text starts in front of the segment's end. -/
theorem Placed.mem_found_singleton {s : Placed} {f : Fault} (member : f ∈ (found [s]).faults) :
    s.fault? = some f ∧ f.offset < s.stop.offset := by
  obtain ⟨only, inside, isFault⟩ := List.mem_filterMap.1 member
  obtain rfl := List.mem_singleton.1 inside
  obtain ⟨-, stop, positive⟩ := span_of_fault? isFault
  exact ⟨isFault, by omega⟩

/-- From a place on, the marked offsets are those of the unexpected characters of a text there. -/
def Marks (marked : Nat → Bool) (p : Place) (text : List Char) : Prop :=
  ∀ offset, p.offset ≤ offset → (marked offset = true ↔
    ∃ f ∈ (scanAt p text).faults, f.offset = offset ∧ f.kind ≠ .unterminatedString)

namespace Marks

variable {marked : Nat → Bool} {p : Place}

section Segment

variable {s : Segment} {rest : List Char} (wellFormed : s.WellFormed)
  (stops : s.goesOn rest = false) (marks : Marks marked p (s.text ++ rest))
include wellFormed stops marks

/-- The marks of a text behind its first segment are those of what stands there. -/
theorem behind : Marks marked (p.after s.text) rest := by
  intro offset behind
  rw [marks offset (Nat.le_trans (Place.offset_le_after p s.text) behind),
    scanAt_segment wellFormed stops]
  constructor
  · rintro ⟨f, member, rfl, kind⟩
    obtain first | later := List.mem_append.1 member
    · exact absurd (Placed.mem_found_singleton first).2 (Nat.not_lt.2 behind)
    · exact ⟨f, later, rfl, kind⟩
  · rintro ⟨f, member, rfl, kind⟩
    exact ⟨f, List.mem_append_right _ member, rfl, kind⟩

/-- The only segment with marks is a stray character. -/
theorem eq_false (noStray : ∀ c, s ≠ .stray c) (offset : Nat) (lower : p.offset ≤ offset)
    (upper : offset < p.offset + byteLength s.text) : marked offset = false := by
  rw [Bool.eq_false_iff, Ne, marks offset lower, scanAt_segment wellFormed stops]
  rintro ⟨f, member, rfl, kind⟩
  obtain first | later := List.mem_append.1 member
  · obtain ⟨c, stray, -⟩ | ⟨-, -, unterminated⟩ :=
      Placed.segment_of_fault? (Placed.mem_found_singleton first).1
    · exact noStray c stray
    · exact kind unterminated
  · exact absurd upper (Nat.not_lt.2 (offset_le_of_mem_faults later))

end Segment

theorem stray {c : Char} {rest : List Char} (marks : Marks marked p (c :: rest))
    (isStray : startsNothing c = true) : marked p.offset = true := by
  have found := @scanAt_segment (.stray c) rest isStray rfl p
  change scanAt p (c :: rest) = _ at found
  rw [marks p.offset (Nat.le_refl _), found]
  exact ⟨.unexpectedCharacter c p.line p.offset, List.mem_cons_self, rfl, nofun⟩

/-- A LF is never marked. -/
theorem newline {text : List Char} (marks : Marks marked p text)
    (newline : text.head? = some '\n') : marked p.offset = false := by
  obtain ⟨rest, rfl⟩ := List.head?_eq_some_iff.1 newline
  exact eq_false (s := .newline) trivial rfl marks nofun p.offset (Nat.le_refl _)
    (Nat.lt_succ_self _)

end Marks

/-! ## Recovery -/

/-- What is found in a text but for its unexpected characters. -/
def Scan.withoutUnexpected (s : Scan) : Scan where
  tokens := s.tokens
  faults := s.faults.filter (·.kind = .unterminatedString)

theorem Scan.withoutUnexpected_append (a b : Scan) :
    (a ++ b).withoutUnexpected = a.withoutUnexpected ++ b.withoutUnexpected :=
  congrArg (Scan.mk _) (List.filter_append _ _)

/-- A segment that is no stray character is no fault but an unterminated string. -/
theorem Placed.withoutUnexpected_found {s : Placed} (noStray : ∀ c, s.segment ≠ .stray c) :
    (found [s]).withoutUnexpected = found [s] := by
  have kept : (found [s]).faults.filter (·.kind = .unterminatedString) = (found [s]).faults := by
    rw [List.filter_eq_self]
    intro f member
    obtain ⟨c, stray, -⟩ | ⟨-, -, kind⟩ := segment_of_fault? (mem_found_singleton member).1
    · exact absurd stray (noStray c)
    · exact decide_eq_true kind
  rw [Scan.withoutUnexpected, kept]

/-- Spaces take up the place of the character that they are written over. -/
theorem Place.after_spaces {c : Char} (noNewline : c ≠ '\n') (p : Place) :
    p.after (List.replicate c.utf8Size ' ') = p.after [c] := by
  have bytes : ∀ n, byteLength (List.replicate n ' ') = n := by
    intro n
    induction n with
    | zero => rfl
    | succ n ih =>
      rw [List.replicate_succ, Text.byteLength_cons, ih, Nat.add_comm]
      rfl
  have lines : newlines (List.replicate c.utf8Size ' ') = newlines [c] := by
    simp [newlines, List.count_replicate, noNewline]
  rw [after, after, bytes, lines, Text.byteLength_cons]
  rfl

/-- Where the unexpected characters of a text have spaces written over them, the text has the same
    tokens and the same other faults, and what stands behind it is in the same place. -/
theorem scanAt_blankOut {marked : Nat → Bool} {p : Place} {text : List Char}
    (marks : Marks marked p text) :
    scanAt p (blankOut marked p.offset text) = (scanAt p text).withoutUnexpected ∧
      p.after (blankOut marked p.offset text) = p.after text := by
  induction text using segments_induction generalizing p with
  | nil =>
    rw [blankOut, scanAt_nil]
    exact ⟨rfl, rfl⟩
  | cons s rest wellFormed stops ih =>
    have behind := marks.behind wellFormed stops
    obtain ⟨found, place⟩ := ih behind
    rw [scanAt_segment wellFormed stops, Scan.withoutUnexpected_append, Place.after_append,
      ← found, ← place]
    by_cases isStray : ∃ c, s = .stray c
    · obtain ⟨c, rfl⟩ := isStray
      have noNewline : c ≠ '\n' := ne_of_class (show startsNothing c = true from wellFormed) rfl
      have spaces : ∀ d ∈ List.replicate c.utf8Size ' ', isSeparator d = true := by
        intro d member
        rw [List.eq_of_mem_replicate member]
        rfl
      have blanked : blankOut marked p.offset ((Segment.stray c).text ++ rest) =
          List.replicate c.utf8Size ' ' ++ blankOut marked (p.after [c]).offset rest :=
        blankOut_marked (Marks.stray marks wellFormed)
      rw [blanked, scanAt_separators spaces, Place.after_append, Place.after_spaces noNewline]
      exact ⟨rfl, rfl⟩
    · have noStray : ∀ c, s ≠ .stray c := fun c same => isStray ⟨c, same⟩
      have stays : s.goesOn (blankOut marked (p.offset + byteLength s.text) rest) = false :=
        Segment.goesOn_blankOut stops behind.newline
      rw [blankOut_append (marks.eq_false wellFormed stops noStray),
        scanAt_segment wellFormed stays, Place.after_append, Placed.withoutUnexpected_found noStray]
      exact ⟨rfl, rfl⟩

/-- Whether a source has an unexpected character at an offset. -/
def unexpectedAt (source : String) (offset : Nat) : Bool :=
  (scan source).faults.any fun f => f.offset = offset ∧ f.kind ≠ .unterminatedString

/-- A source with spaces written over its unexpected characters. -/
def healed (source : String) : String :=
  String.ofList (blankOut (unexpectedAt source) 0 source.toList)

theorem marks_unexpectedAt (source : String) :
    Marks (unexpectedAt source) .start source.toList := by
  intro offset _
  rw [unexpectedAt, List.any_eq_true, ← scan_faults]
  simp only [decide_eq_true_eq]

theorem filter_unterminated (source : String) :
    (scan source).faults.filter (·.kind = .unterminatedString) = [] ∨
      ∃ f ∈ (scan source).faults, f.kind = .unterminatedString ∧
        (scan source).faults.filter (·.kind = .unterminatedString) = [f] := by
  have order := (pairwise_faults source).filter (·.kind = .unterminatedString)
  have inside : ∀ f ∈ (scan source).faults.filter (·.kind = .unterminatedString),
      f ∈ (scan source).faults ∧ f.kind = .unterminatedString := by
    intro f member
    simpa using List.mem_filter.1 member
  generalize (scan source).faults.filter (·.kind = .unterminatedString) = unterminated
    at order inside ⊢
  match unterminated with
  | [] => exact .inl rfl
  | [f] =>
    obtain ⟨member, kind⟩ := inside f List.mem_cons_self
    exact .inr ⟨f, member, kind, rfl⟩
  | f :: g :: rest =>
    -- The first one ends with the source, so there is no place for the second one.
    obtain ⟨hf, kind⟩ := inside f List.mem_cons_self
    obtain ⟨hg, -⟩ := inside g (.tail f List.mem_cons_self)
    have stop := (span_of_mem_faults hf).2.2 kind
    obtain ⟨positive, bound, -⟩ := span_of_mem_faults hg
    have behind := (List.pairwise_cons.1 order).1 g List.mem_cons_self
    omega

/-- A source has the same tokens when spaces are written over its unexpected characters, for each
    as many as it has bytes.  Of the faults only an unterminated string is left, if there is one,
    and is as it was. -/
theorem scan_healed (source : String) :
    (scan (healed source)).tokens = (scan source).tokens ∧
    (scan (healed source)).faults =
      (scan source).faults.filter (·.kind = .unterminatedString) ∧
    ((scan (healed source)).faults = [] ∨ ∃ f ∈ (scan source).faults,
      f.kind = .unterminatedString ∧ (scan (healed source)).faults = [f]) := by
  obtain ⟨found, place⟩ := scanAt_blankOut (marks_unexpectedAt source)
  have text : (healed source).toList =
      blankOut (unexpectedAt source) Place.start.offset source.toList := String.toList_ofList
  rw [← text] at found place
  have faults : (scan (healed source)).faults =
      (scan source).faults.filter (·.kind = .unterminatedString) := congrArg Scan.faults found
  refine ⟨?_, faults, ?_⟩
  · rw [scan_tokens, scan_tokens, found, lastLine, lastLine, place]
    rfl
  · rw [faults]
    exact filter_unterminated source

end LoxFront
