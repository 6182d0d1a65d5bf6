import LoxFront.Proofs.Listing.Diagnose
import LoxFront.Proofs.Scan.Line
import LoxFront.Report

/-! # Checking a text

Checking a text always succeeds, and its diagnostics are those of the faults that a scan finds, one
for each and in their order.  Every one of them points at its fault: `Depicts` says what its line,
column, underline and notes have to be.  `CutsExist` collects the cuts that the scan and the listing
make at byte positions, none of them inside a character or outside the text.
-/

namespace LoxFront

open Text (byteLength newlines lineAt? lineBefore shownAfter sliceBytes? splitBytes?)

/-! ## What a diagnostic shows -/

/-- A diagnostic points at an offset of a source, on the line that it displays as `shown`. -/
structure PointsAt (file source : String) (offset : Nat) (d : Diagnostic) (loc : Location)
    (shown : List Char) : Prop where
  location : d.location = some loc
  file : loc.file = file
  line : lineAt? offset source.toList = some loc.line
  sourceLine : d.sourceLine = some (String.ofList shown)
  oneLine : '\n' ∉ shown
  label : ∃ text, d.labels = [⟨loc.column, loc.length, text⟩]
  column : 0 < loc.column
  inside : loc.column - 1 + loc.length ≤ shown.length

/-- A diagnostic points at a fault, says what it is, and underlines it as far as the line goes. -/
structure Depicts (file source : String) (f : Fault) (d : Diagnostic) (loc : Location)
    (shown : List Char) : Prop extends PointsAt file source f.offset d loc shown where
  unexpected : ∀ c, f.kind = .unexpectedCharacter c →
    d.code = "E001" ∧ shown[loc.column - 1]? = some c ∧ loc.length = 1
  unterminated : f.kind = .unterminatedString →
    d.code = "E002" ∧ shown[loc.column - 1]? = some '"' ∧
      loc.length = (shown.drop (loc.column - 1)).length
  -- The string runs from its quote to the end of the source.
  note : f.kind = .unterminatedString →
    ∃ before string, splitBytes? f.offset source.toList = some (before, string) ∧
      d.notes = if '\n' ∈ string then
        ["input ends on line " ++ (1 + newlines source.toList).repr] else []

section Displayed

variable {source : String} {before after : List Char} {c : Char}

theorem getElem?_displayed (c : Char) (before after : List Char) :
    (lineBefore before ++ c :: shownAfter after)[(lineBefore before).length]? = some c := by
  rw [List.getElem?_append_right (Nat.le_refl _), Nat.sub_self]
  rfl

theorem newline_notMem_displayed (before after : List Char) (notLF : c ≠ '\n') :
    '\n' ∉ lineBefore before ++ c :: shownAfter after := by
  rw [List.mem_append, List.mem_cons]
  rintro (member | same | member)
  · exact Text.newline_notMem_lineBefore before member
  · exact notLF same.symm
  · exact Text.newline_notMem_shownAfter after member

/-- A diagnostic that underlines a character, and no more than its line displays behind it, points
    at it. -/
theorem pointsAt_displayed {file : String} (split : source.toList = before ++ c :: after)
    (notLF : c ≠ '\n') {width : Nat} (fits : width ≤ (shownAfter after).length + 1)
    {d : Diagnostic}
    (location : d.location =
      some ⟨file, newlines before + 1, (lineBefore before).length + 1, width⟩)
    (sourceLine : d.sourceLine =
      some (String.ofList (lineBefore before ++ c :: shownAfter after)))
    (label : ∃ text, d.labels = [⟨(lineBefore before).length + 1, width, text⟩]) :
    PointsAt file source (byteLength before) d
      ⟨file, newlines before + 1, (lineBefore before).length + 1, width⟩
      (lineBefore before ++ c :: shownAfter after) where
  location := location
  file := rfl
  line := by
    rw [split, Nat.add_comm]
    exact Text.lineAt?_append before _
  sourceLine := sourceLine
  oneLine := newline_notMem_displayed before after notLF
  label := label
  column := Nat.succ_pos _
  inside := by
    change (lineBefore before).length + 1 - 1 + width ≤ _
    rw [Nat.add_sub_cancel, List.length_append, List.length_cons]
    omega

theorem exists_depicts_unexpectedCharacter (file : String)
    (split : source.toList = before ++ c :: after) (strange : startsNothing c = true) (line : Nat) :
    ∃ d, (Listing.ofSource file source).diagnose
        (.unexpectedCharacter c line (byteLength before)) = .ok d ∧
      ∃ loc shown,
        Depicts file source (.unexpectedCharacter c line (byteLength before)) d loc shown := by
  have notLF : c ≠ '\n' := ne_of_class strange rfl
  have notCR : c ≠ '\r' := ne_of_class strange rfl
  refine ⟨_, Listing.diagnose_unexpectedCharacter file split notLF notCR line,
    ⟨file, newlines before + 1, (lineBefore before).length + 1, 1⟩,
    lineBefore before ++ c :: shownAfter after, ?_⟩
  exact {
    toPointsAt := pointsAt_displayed split notLF (Nat.le_add_left 1 _) rfl rfl ⟨_, rfl⟩
    unexpected := by
      rintro _ ⟨rfl⟩
      exact ⟨rfl, getElem?_displayed c before after, rfl⟩
    unterminated := nofun
    note := nofun }

theorem exists_depicts_unterminatedString (file : String) {body : List Char}
    (split : source.toList = before ++ '"' :: body) :
    ∃ d, (Listing.ofSource file source).diagnose (.unterminatedString (1 + newlines source.toList)
        (byteLength before) (byteLength ('"' :: body))) = .ok d ∧
      ∃ loc shown, Depicts file source (.unterminatedString (1 + newlines source.toList)
        (byteLength before) (byteLength ('"' :: body))) d loc shown := by
  refine ⟨_, Listing.diagnose_unterminatedString file split _,
    ⟨file, newlines before + 1, (lineBefore before).length + 1, (shownAfter body).length + 1⟩,
    lineBefore before ++ '"' :: shownAfter body, ?_⟩
  exact {
    toPointsAt := pointsAt_displayed split (by decide) (Nat.le_refl _) rfl rfl ⟨_, rfl⟩
    unexpected := nofun
    unterminated := fun _ => ⟨rfl, getElem?_displayed '"' before body, by simp⟩
    note := by
      intro _
      refine ⟨before, '"' :: body, Text.splitBytes?_eq_some_iff.2 ⟨split, rfl⟩, ?_⟩
      -- The scan counts the LFs of the string, the listing looks at the line of its quote.
      have count : newlines source.toList = newlines before + newlines ('"' :: body) := by
        rw [split, Text.newlines_append]
      by_cases inside : '\n' ∈ '"' :: body
      · have positive : 0 < newlines ('"' :: body) := List.count_pos_iff.2 inside
        rw [if_pos inside]
        exact if_neg (by omega)
      · have zero : newlines ('"' :: body) = 0 := List.count_eq_zero.2 inside
        rw [if_neg inside]
        exact if_pos (by omega) }

end Displayed

theorem exists_depicts (file : String) {source : String} {f : Fault}
    (member : f ∈ (scan source).faults) :
    ∃ d, (Listing.ofSource file source).diagnose f = .ok d ∧
      ∃ loc shown, Depicts file source f d loc shown := by
  obtain ⟨s, placed, isFault⟩ := List.mem_filterMap.1 member
  have noticed := line_of_unterminated placed isFault
  obtain ⟨before, after, split, place, wellFormed, stops⟩ := exists_of_mem_placedSegments placed
  obtain ⟨segment, place'⟩ := s
  obtain rfl : place' = _ := place
  -- Only a stray character and an open string are faults.
  cases segment with
  | stray c =>
    obtain rfl := Option.some.inj isFault
    exact exists_depicts_unexpectedCharacter file split wellFormed _
  | openString body =>
    obtain rfl : after = [] := by simpa [Segment.goesOn] using stops
    rw [List.append_nil] at split
    obtain rfl := Option.some.inj isFault
    have line : (Placed.stop ⟨.openString body, ⟨byteLength before, 1 + newlines before⟩⟩).line =
        1 + newlines source.toList := noticed rfl
    rw [line]
    exact exists_depicts_unterminatedString file split
  | _ => simp [Placed.fault?] at isFault

/-! ## Storing diagnostics -/

theorem forall₂_diagnose_iff {l : Listing} {faults : List Fault} {ds : List Diagnostic} :
    List.Forall₂ (fun f d => l.diagnose f = .ok d) faults ds ↔
      faults.map l.diagnose = ds.map Except.ok := by
  rw [← List.forall₂_eq_eq_eq, List.forall₂_map_left_iff, List.forall₂_map_right_iff]

namespace Report

section Run

variable {α β : Type} {r after : Report}

theorem run_bind_ok {action : ReportM α} {next : α → ReportM β} {a : α}
    (h : action.run.run r = (.ok a, after)) :
    (action >>= next).run.run r = (next a).run.run after := by
  rw [ExceptT.run_bind, StateT.run_bind, h]
  rfl

theorem run_bind_error {action : ReportM α} {next : α → ReportM β} {e : LocateError}
    (h : action.run.run r = (.error e, after)) :
    (action >>= next).run.run r = (.error e, after) := by
  rw [ExceptT.run_bind, StateT.run_bind, h]
  rfl

theorem run_ask (question : Listing → Except LocateError α) (r : Report) :
    (ask question).run.run r = (question r.listing, r) := rfl

/-- Storing adds the diagnostic that the listing gives, or leaves the report as it is. -/
theorem run_store (diagnostic : Listing → Except LocateError Diagnostic) (r : Report) :
    (store diagnostic).run.run r =
      match diagnostic r.listing with
      | .ok d => (.ok (), { r with diagnostics := r.diagnostics.push d })
      | .error e => (.error e, r) := by
  have answer := run_ask diagnostic r
  cases given : diagnostic r.listing with
  | ok d =>
    rw [given] at answer
    rw [store, run_bind_ok answer]
    rfl
  | error e =>
    rw [given] at answer
    rw [store, run_bind_error answer]

theorem run_forM_fault {l : Listing} {faults : List Fault} {ds : List Diagnostic}
    (diagnosed : List.Forall₂ (fun f d => l.diagnose f = .ok d) faults ds)
    (stored : Array Diagnostic) :
    (faults.forM fault).run.run ⟨l, stored⟩ = (.ok (), ⟨l, stored ++ ds.toArray⟩) := by
  induction diagnosed generalizing stored with
  | nil =>
    rw [Array.append_empty]
    rfl
  | @cons f d faults ds first _ ih =>
    have step : (fault f).run.run ⟨l, stored⟩ = (.ok (), ⟨l, stored.push d⟩) := by
      rw [fault, run_store, first]
    -- The others are reported to what is stored by now.
    have rest := ih (stored.push d)
    rw [List.push_append_toArray] at rest
    rw [List.forM, run_bind_ok step]
    exact rest

end Run

end Report

theorem check_eq_ok {file source : String} {ds : List Diagnostic}
    (diagnosed : List.Forall₂ (fun f d => (Listing.ofSource file source).diagnose f = .ok d)
      (scan source).faults ds) :
    check file source = .ok ⟨(scan source).tokens, ds.toArray⟩ := by
  have reported := Report.run_forM_fault diagnosed #[]
  rw [Array.empty_append] at reported
  rw [check, scanWith_eq, Report.ofListing, Report.run_bind_ok reported]
  rfl

/-! ## Cuts at byte positions -/

/-- The cuts that scanning a source and listing its lines make, each of them between characters. -/
structure CutsExist (source : String) : Prop where
  -- After any part of a segment the scan looks at what comes next.
  ahead : ∀ s ∈ placedSegments source, ∀ read rest, read ++ rest = s.segment.text →
    ∃ before after, splitBytes? (s.place.offset + byteLength read) source.toList =
      some (before, rest ++ after)
  lexeme : ∀ s ∈ placedSegments source,
    sliceBytes? s.place.offset s.stop.offset source.toList = some s.segment.text
  -- The value of a string stands between its quotes, one byte each.
  value : ∀ s ∈ placedSegments source, ∀ body, s.segment = .string body →
    s.place.offset + 1 ≤ s.stop.offset - 1 ∧
      sliceBytes? (s.place.offset + 1) (s.stop.offset - 1) source.toList = some body
  line : ∀ line ∈ Text.lines source.toList,
    sliceBytes? line.start line.stop source.toList = some line.text
  span : ∀ f ∈ (scan source).faults, f.offset + f.length ≤ source.utf8ByteSize ∧
    (sliceBytes? f.offset (f.offset + f.length) source.toList).isSome = true

theorem ahead_of_mem_placedSegments {source : String} {s : Placed}
    (member : s ∈ placedSegments source) {read rest : List Char}
    (parts : read ++ rest = s.segment.text) :
    ∃ before after, splitBytes? (s.place.offset + byteLength read) source.toList =
      some (before, rest ++ after) := by
  obtain ⟨before, after, split, place, -⟩ := exists_of_mem_placedSegments member
  refine ⟨before ++ read, after, Text.splitBytes?_eq_some_iff.2 ⟨?_, ?_⟩⟩
  · rw [split, ← parts, List.append_assoc, List.append_assoc]
  · rw [place, Text.byteLength_append]

theorem value_of_mem_placedSegments {source : String} {s : Placed}
    (member : s ∈ placedSegments source) {body : List Char} (string : s.segment = .string body) :
    s.place.offset + 1 ≤ s.stop.offset - 1 ∧
      sliceBytes? (s.place.offset + 1) (s.stop.offset - 1) source.toList = some body := by
  obtain ⟨before, after, split, place, -⟩ := exists_of_mem_placedSegments member
  have start : s.place.offset = byteLength before := by rw [place]
  have stop : s.stop.offset = byteLength before + (1 + (byteLength body + 1)) := by
    rw [Placed.stop, string, place]
    change byteLength before + byteLength ('"' :: (body ++ ['"'])) = _
    rw [Text.byteLength_cons, Text.byteLength_append]
    rfl
  refine ⟨by omega, Text.sliceBytes?_eq_some_iff.2 ⟨before ++ ['"'], '"' :: after, ?_, ?_, ?_⟩⟩
  · rw [split, string]
    simp [Segment.text]
  · rw [start, Text.byteLength_append]
    rfl
  · omega

theorem slice_of_mem_faults {source : String} {f : Fault} (member : f ∈ (scan source).faults) :
    (sliceBytes? f.offset (f.offset + f.length) source.toList).isSome = true := by
  obtain ⟨s, placed, isFault⟩ := List.mem_filterMap.1 member
  obtain ⟨offset, stop, -⟩ := Placed.span_of_fault? isFault
  rw [stop, offset, slice_of_mem_placedSegments placed]
  rfl

theorem cutsExist (source : String) : CutsExist source where
  ahead _ member _ _ parts := ahead_of_mem_placedSegments member parts
  lexeme _ member := slice_of_mem_placedSegments member
  value _ member _ string := value_of_mem_placedSegments member string
  line _ member := Text.slice_of_mem_lines member
  span _ member := ⟨(span_of_mem_faults member).2.1, slice_of_mem_faults member⟩

/-! ## Checking -/

theorem isSome_literal_of_token? {s : Placed} {t : Token} (h : s.token? = some t) :
    t.literal.isSome = t.kind.hasLiteral := by
  obtain ⟨segment, place⟩ := s
  obtain ⟨kind, found, rfl⟩ := Option.map_eq_some_iff.1 h
  cases segment with
  | word letters =>
    obtain rfl := Option.some.inj found
    cases Keyword.ofSpelling? letters <;> rfl
  | punct p => obtain rfl := Option.some.inj found; rfl
  | numeral n => obtain rfl := Option.some.inj found; rfl
  | string body => obtain rfl := Option.some.inj found; rfl
  | _ => simp [Segment.kind?] at found

theorem isSome_literal_of_mem_tokens {source : String} {t : Token}
    (member : t ∈ (scan source).tokens) : t.literal.isSome = t.kind.hasLiteral := by
  obtain member | member := List.mem_append.1 member
  · obtain ⟨s, -, isToken⟩ := List.mem_filterMap.1 member
    exact isSome_literal_of_token? isToken
  · obtain rfl := List.mem_singleton.1 member
    rfl

theorem exists_diagnostics (file source : String) :
    ∃ ds, List.Forall₂ (fun f d => (Listing.ofSource file source).diagnose f = .ok d ∧
      ∃ loc shown, Depicts file source f d loc shown) (scan source).faults ds := by
  have each : ∀ f ∈ (scan source).faults,
      ∃ d, (Listing.ofSource file source).diagnose f = .ok d ∧
        ∃ loc shown, Depicts file source f d loc shown := fun _ member => exists_depicts file member
  -- Only that is needed of the faults, so the induction is on any list of such.
  generalize (scan source).faults = faults at each ⊢
  induction faults with
  | nil => exact ⟨[], .nil⟩
  | cons f faults ih =>
    obtain ⟨d, first⟩ := each f List.mem_cons_self
    obtain ⟨ds, rest⟩ := ih fun g member => each g (List.mem_cons_of_mem f member)
    exact ⟨d :: ds, .cons first rest⟩

/-- Checking a text succeeds.  Its diagnostics point at the faults of the text, one at each and in
    their order.  All the cuts made on the way exist, and a token has a value when its kind says
    so. -/
theorem check_depicts (file source : String) :
    (∃ checked, check file source = .ok checked ∧ checked.tokens = (scan source).tokens ∧
      List.Forall₂ (fun f d => ∃ loc shown, Depicts file source f d loc shown)
        (scan source).faults checked.diagnostics.toList) ∧
    CutsExist source ∧ ∀ t ∈ (scan source).tokens, t.literal.isSome = t.kind.hasLiteral := by
  obtain ⟨ds, shown⟩ := exists_diagnostics file source
  have stored := check_eq_ok (shown.imp fun _ _ h => h.1)
  exact ⟨⟨_, stored, rfl, shown.imp fun _ _ h => h.2⟩, cutsExist source,
    fun _ member => isSome_literal_of_mem_tokens member⟩

end LoxFront
