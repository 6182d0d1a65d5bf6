import LoxFront.Proofs.Scan.Place

/-! # Scans of joined lines

A LF puts the scan back to where it started: behind one that stands in no string, a text is scanned
as if it stood alone, only further behind (`scan_append_newline`).  So the lines of a script can be
scanned one by one (`tokens_intercalate`).
-/

namespace LoxFront

open Text (byteLength newlines)

/-- Whether all strings of a source are closed. -/
def Closed (source : String) : Prop :=
  ∀ f ∈ (scan source).faults, f.kind ≠ .unterminatedString

instance (source : String) : Decidable (Closed source) :=
  inferInstanceAs (Decidable (∀ f ∈ (scan source).faults, f.kind ≠ .unterminatedString))

theorem Placed.exists_fault?_of_isOpen {s : Placed} (isOpen : s.segment.isOpen = true) :
    ∃ f, s.fault? = some f ∧ f.kind = .unterminatedString := by
  obtain ⟨segment, place⟩ := s
  cases segment with
  | openString body => exact ⟨_, rfl, rfl⟩
  | _ => exact absurd isOpen Bool.false_ne_true

theorem isOpen_of_closed {source : String} (closed : Closed source) :
    ∀ s ∈ segments source.toList, s.isOpen = false := by
  intro s member
  rw [← Placed.map_segment_layOut .start (segments source.toList)] at member
  obtain ⟨placed, inside, rfl⟩ := List.mem_map.1 member
  by_contra isOpen
  rw [Bool.not_eq_false] at isOpen
  obtain ⟨f, isFault, kind⟩ := Placed.exists_fault?_of_isOpen isOpen
  exact closed f (List.mem_filterMap.2 ⟨placed, inside, isFault⟩) kind

namespace Segment

/-- A LF ends every segment but an open string. -/
theorem isEndedBy_newline {s : Segment} (closed : s.isOpen = false) : s.isEndedBy '\n' = true := by
  cases s with
  | openString body => exact absurd closed.symm Bool.false_ne_true
  | _ => rfl

end Segment

theorem Place.after_newline (text : List Char) :
    (start.after text).after ['\n'] = start.shift (byteLength text + 1) (1 + newlines text) := by
  simp only [after, shift, Text.newlines_cons, Text.newlines_nil, if_true, Text.byteLength_cons,
    Text.byteLength_nil, Char.utf8Size]
  congr 1
  omega

theorem scanAt_append_newline {a b : List Char}
    (apart : segments (a ++ '\n' :: b) = segments a ++ segments ('\n' :: b)) :
    scanAt .start (a ++ '\n' :: b) =
      scanAt .start a ++ (scanAt .start b).shift (byteLength a + 1) (1 + newlines a) := by
  rw [scanAt_append apart, scanAt_separator rfl, Place.after_newline, scanAt_shift]

theorem lastLine_append_newline (a b : String) :
    Token.endOfText (lastLine (a ++ "\n" ++ b)) =
      (Token.endOfText (lastLine b)).shift (1 + newlines a.toList) := by
  have line : lastLine (a ++ "\n" ++ b) = lastLine b + (1 + newlines a.toList) := by
    simp only [lastLine, Place.after, String.toList_append, Text.newlines_append]
    change 1 + (newlines a.toList + 1 + newlines b.toList) = 1 + newlines b.toList + _
    omega
  rw [line]
  rfl

theorem scan_append_newline {a : String} (closed : Closed a) (b : String) :
    scan (a ++ "\n" ++ b) = {
      tokens := (scan a).tokens.dropLast ++
        (scan b).tokens.map (Token.shift (1 + newlines a.toList))
      faults := (scan a).faults ++
        (scan b).faults.map (Fault.shift (a.utf8ByteSize + 1) (1 + newlines a.toList)) } := by
  have apart : segments (a.toList ++ '\n' :: b.toList) =
      segments a.toList ++ segments ('\n' :: b.toList) :=
    segments_append_of_isEndedBy
      (fun s member => Segment.isEndedBy_newline (isOpen_of_closed closed s member)) b.toList
  have text : (a ++ "\n" ++ b).toList = a.toList ++ '\n' :: b.toList := by
    rw [String.toList_append, String.toList_append, List.append_assoc]
    rfl
  have found := scanAt_append_newline apart
  have tokens : (scan (a ++ "\n" ++ b)).tokens = (scan a).tokens.dropLast ++
      (scan b).tokens.map (Token.shift (1 + newlines a.toList)) := by
    rw [scan_tokens, text, found, lastLine_append_newline, dropLast_tokens, scan_tokens,
      List.map_append, Scan.tokens_append, List.append_assoc]
    rfl
  have faults : (scan (a ++ "\n" ++ b)).faults = (scan a).faults ++
      (scan b).faults.map (Fault.shift (a.utf8ByteSize + 1) (1 + newlines a.toList)) := by
    rw [scan_faults, text, found, Text.byteLength_toList]
    rfl
  exact congrArg₂ Scan.mk tokens faults

/-! ## Line by line -/

theorem Token.shift_shift (above lines : Nat) (t : Token) :
    (t.shift lines).shift above = t.shift (lines + above) := by
  simp only [shift, Nat.add_assoc]

/-- The tokens of lines that are scanned one by one, without those that end the lines; each stands
    as many lines further down as there are lines in front of its own. -/
def tokensByLine (lines : List String) : List Token :=
  lines.zipIdx.flatMap fun numbered =>
    (scan numbered.1).tokens.dropLast.map (Token.shift numbered.2)

theorem tokensByLine_nil : tokensByLine [] = [] := rfl

theorem tokensByLine_cons (line : String) (lines : List String) :
    tokensByLine (line :: lines) =
      (scan line).tokens.dropLast ++ (tokensByLine lines).map (Token.shift 1) := by
  have first : (scan line).tokens.dropLast.map (Token.shift 0) = (scan line).tokens.dropLast :=
    List.map_id _
  rw [tokensByLine, List.zipIdx_cons, List.flatMap_cons, first, Nat.zero_add, List.zipIdx_succ,
    List.flatMap_map, tokensByLine, List.map_flatMap]
  refine congrArg _ (List.flatMap_congr ?_)
  intro numbered _
  rw [List.map_map]
  exact List.map_congr_left fun t _ => (Token.shift_shift 1 numbered.2 t).symm

theorem tokens_intercalate {lines : List String}
    (closed : ∀ line ∈ lines, '\n' ∉ line.toList ∧ Closed line) :
    (scan ("\n".intercalate lines)).tokens =
      tokensByLine lines ++ [.endOfText (max 1 lines.length)] := by
  induction lines with
  | nil =>
    rw [String.intercalate_nil, scan_tokens, String.toList_empty, scanAt_nil]
    rfl
  | cons line lines ih =>
    obtain ⟨⟨inside, first⟩, others⟩ := List.forall_mem_cons.1 closed
    have single : newlines line.toList = 0 := List.count_eq_zero.2 inside
    rw [tokensByLine_cons]
    cases lines with
    | nil =>
      have last : lastLine line = 1 := congrArg (1 + ·) single
      rw [String.intercalate_singleton, dropLast_tokens, scan_tokens, last, tokensByLine_nil,
        List.map_nil, List.append_nil]
      rfl
    | cons next lines =>
      have longer : max 1 (next :: lines).length + 1 =
          max 1 (line :: next :: lines).length := by
        simp only [List.length_cons]
        omega
      have last : (Token.endOfText (max 1 (next :: lines).length)).shift 1 =
          .endOfText (max 1 (line :: next :: lines).length) :=
        congrArg Token.endOfText longer
      rw [String.intercalate_cons_cons, scan_append_newline first, ih others, single,
        List.map_append, ← List.append_assoc, List.map_singleton, last]

/-- Where all strings of a source are closed, a LF and more text behind it add what a scan of that
    text alone finds, as many lines and bytes further behind as the source and the LF take up.  So
    lines whose strings are closed have the same tokens, scanned together or one by one, but for
    the lines that these are on and the tokens that end them. -/
theorem scan_joined_lines :
    (∀ a b : String, Closed a → scan (a ++ "\n" ++ b) = {
      tokens := (scan a).tokens.dropLast ++
        (scan b).tokens.map (Token.shift (1 + newlines a.toList))
      faults := (scan a).faults ++
        (scan b).faults.map (Fault.shift (a.utf8ByteSize + 1) (1 + newlines a.toList)) }) ∧
    ∀ lines : List String, (∀ line ∈ lines, '\n' ∉ line.toList ∧ Closed line) →
      (scan ("\n".intercalate lines)).tokens =
        tokensByLine lines ++ [.endOfText (max 1 lines.length)] :=
  ⟨fun _ b closed => scan_append_newline closed b, fun _ closed => tokens_intercalate closed⟩

/-- A quote in a comment opens no string, so the comment ends with its line. -/
theorem scan_joined_lines_comment :
    Closed "x//\"" ∧ scan ("x//\"" ++ "\n" ++ "@") =
      ⟨[⟨.identifier, "x", none, 1⟩, .endOfText 2], [.unexpectedCharacter '@' 2 5]⟩ ∧
    (∀ line ∈ ["x//\"", "1."], '\n' ∉ line.toList ∧ Closed line) ∧
    (scan ("\n".intercalate ["x//\"", "1."])).tokens =
      tokensByLine ["x//\"", "1."] ++ [.endOfText 2] := by
  have closed : Closed "x//\"" := by decide +kernel
  have lines : ∀ line ∈ ["x//\"", "1."], '\n' ∉ line.toList ∧ Closed line := by decide +kernel
  refine ⟨closed, ?_, lines, scan_joined_lines.2 _ lines⟩
  rw [scan_joined_lines.1 _ "@" closed]
  decide +kernel

end LoxFront
