import LoxFront.Proofs.Listing.Locate
import LoxFront.Proofs.Segment.Place
import LoxFront.Scan

/-! # The lines of tokens and faults

The scan counts lines as it goes, and a listing looks them up in its table.  Both give one more than
the LFs in front of a place, so they agree on where tokens start and on where faults are
(`lines_agree`).  An unterminated string is noticed where the source ends, and its own line is that
of the last character; the listing finds the line of the quote.
-/

namespace LoxFront

open Text (byteLength newlines lineAt? sliceBytes?)

/-- The tokens that a source holds, each with the offset at which its lexeme starts. -/
def placedTokens (source : String) : List (Nat × Token) :=
  (placedSegments source).filterMap fun s => s.token?.map fun t => (s.place.offset, t)

theorem lastLine_eq (source : String) : lastLine source = 1 + newlines source.toList := rfl

theorem tokens_eq (source : String) :
    (scan source).tokens =
      (placedTokens source).map Prod.snd ++ [.endOfText (1 + newlines source.toList)] := by
  have tokens : (placedTokens source).map Prod.snd =
      (placedSegments source).filterMap Placed.token? := by
    rw [placedTokens, List.map_filterMap]
    refine List.filterMap_congr ?_
    intro s _
    cases s.token? <;> rfl
  rw [tokens, ← lastLine_eq]
  rfl

/-! ## One place -/

/-- A placed segment of a source, with the text in front of it and behind it. -/
theorem exists_of_mem_placedSegments {source : String} {s : Placed}
    (member : s ∈ placedSegments source) :
    ∃ before after, source.toList = before ++ (s.segment.text ++ after) ∧
      s.place = ⟨byteLength before, 1 + newlines before⟩ ∧
      s.segment.WellFormed ∧ s.segment.goesOn after = false := by
  obtain ⟨before, after, split, place, wellFormed, stops⟩ := exists_of_mem_layOut_segments member
  refine ⟨before, after, split, ?_, wellFormed, stops⟩
  rw [place, Place.start_after]

theorem line_of_mem_placedSegments (file : String) {source : String} {s : Placed}
    (member : s ∈ placedSegments source) :
    lineAt? s.place.offset source.toList = some s.place.line ∧
      ∃ loc, (Listing.ofSource file source).locate s.place.offset = .ok loc ∧
        loc.line = s.place.line := by
  obtain ⟨before, after, split, place, -⟩ := exists_of_mem_placedSegments member
  rw [place]
  refine ⟨?_, _, Listing.locate_ofSource file split, Nat.add_comm _ _⟩
  rw [split]
  exact Text.lineAt?_append before _

theorem slice_of_mem_placedSegments {source : String} {s : Placed}
    (member : s ∈ placedSegments source) :
    sliceBytes? s.place.offset s.stop.offset source.toList = some s.segment.text := by
  obtain ⟨before, after, split, place, -⟩ := exists_of_mem_placedSegments member
  refine Text.sliceBytes?_eq_some_iff.2 ⟨before, after, ?_, by rw [place], rfl⟩
  rw [split, List.append_assoc]

theorem token?_eq_some {s : Placed} {t : Token} (h : s.token? = some t) :
    t.line = s.place.line ∧ t.lexeme.toList = s.segment.text := by
  obtain ⟨kind, -, rfl⟩ := Option.map_eq_some_iff.1 h
  exact ⟨rfl, String.toList_ofList⟩

/-- The line of a fault is that of its segment; for an unterminated string, where that stops. -/
theorem line_of_fault? {s : Placed} {f : Fault} (h : s.fault? = some f) :
    (f.kind ≠ .unterminatedString → f.line = s.place.line) ∧
      (f.kind = .unterminatedString → f.line = s.stop.line ∧ ∃ body, s.segment = .openString body) ∧
      s.place.line ≤ f.line ∧ f.line ≤ s.stop.line := by
  have grows : s.place.line ≤ s.stop.line := Place.line_le_after s.place s.segment.text
  obtain ⟨segment, place⟩ := s
  cases segment with
  | stray c =>
    obtain rfl := Option.some.inj h
    exact ⟨fun _ => rfl, nofun, Nat.le_refl _, grows⟩
  | openString body =>
    obtain rfl := Option.some.inj h
    exact ⟨fun other => absurd rfl other, fun _ => ⟨rfl, body, rfl⟩, grows, Nat.le_refl _⟩
  | _ => simp [Placed.fault?] at h

theorem line_of_unterminated {source : String} {s : Placed} {f : Fault}
    (member : s ∈ placedSegments source) (h : s.fault? = some f)
    (unterminated : f.kind = .unterminatedString) : f.line = 1 + newlines source.toList := by
  obtain ⟨before, after, split, place, -, stops⟩ := exists_of_mem_placedSegments member
  obtain ⟨line, body, segment⟩ := (line_of_fault? h).2.1 unterminated
  rw [segment] at stops
  obtain rfl : after = [] := by simpa [Segment.goesOn] using stops
  rw [line, split, Placed.stop, place]
  simp [Place.after, Nat.add_assoc]

/-! ## All places -/

theorem pairwise_line_tokens (source : String) :
    ((scan source).tokens.map Token.line).Pairwise (· ≤ ·) := by
  have places := Placed.pairwise_layOut .start (segments source.toList)
  rw [List.pairwise_map]
  refine List.pairwise_append.2 ⟨?_, List.pairwise_singleton _ _, ?_⟩
  · refine List.Pairwise.filterMap Placed.token? ?_ places
    intro s t order x hx y hy
    rw [(token?_eq_some hx).1, (token?_eq_some hy).1]
    exact Nat.le_trans (Place.line_le_after s.place s.segment.text) order.2
  · -- The token that ends the text is on the last line.
    intro x hx y hy
    obtain ⟨s, member, isToken⟩ := List.mem_filterMap.1 hx
    obtain ⟨before, after, split, place, -⟩ := exists_of_mem_placedSegments member
    rw [List.mem_singleton.1 hy, (token?_eq_some isToken).1, place]
    change 1 + newlines before ≤ lastLine source
    rw [lastLine_eq, split, Text.newlines_append]
    omega

theorem pairwise_line_faults (source : String) :
    ((scan source).faults.map Fault.line).Pairwise (· ≤ ·) := by
  have places := Placed.pairwise_layOut .start (segments source.toList)
  rw [List.pairwise_map]
  refine List.Pairwise.filterMap Placed.fault? ?_ places
  intro s t order f hf g hg
  obtain ⟨-, -, -, atMost⟩ := line_of_fault? hf
  obtain ⟨-, -, atLeast, -⟩ := line_of_fault? hg
  exact Nat.le_trans atMost (Nat.le_trans order.2 atLeast)

/-- A token is on the line of the place where its lexeme starts, and the token that ends the text is
    on the last line.  A fault is on the line of its place too, but an unterminated string is
    noticed on the last line.  The table of a listing gives the same line for every place, and
    for an unterminated string the line of its quote.  Lines never decrease, neither along the
    tokens nor along the faults. -/
theorem lines_agree (file source : String) :
    (scan source).tokens =
      (placedTokens source).map Prod.snd ++ [.endOfText (1 + newlines source.toList)] ∧
    (∀ start t, (start, t) ∈ placedTokens source →
      sliceBytes? start (start + t.lexeme.utf8ByteSize) source.toList = some t.lexeme.toList ∧
      lineAt? start source.toList = some t.line ∧
      ∃ loc, (Listing.ofSource file source).locate start = .ok loc ∧ loc.line = t.line) ∧
    (∀ f ∈ (scan source).faults,
      (f.kind ≠ .unterminatedString → lineAt? f.offset source.toList = some f.line) ∧
      (f.kind = .unterminatedString → f.line = 1 + newlines source.toList) ∧
      ∃ loc, (Listing.ofSource file source).locate f.offset = .ok loc ∧
        lineAt? f.offset source.toList = some loc.line) ∧
    ((scan source).tokens.map Token.line).Pairwise (· ≤ ·) ∧
    ((scan source).faults.map Fault.line).Pairwise (· ≤ ·) := by
  refine ⟨tokens_eq source, ?_, ?_, pairwise_line_tokens source, pairwise_line_faults source⟩
  · intro start t member
    obtain ⟨s, placed, found⟩ := List.mem_filterMap.1 member
    obtain ⟨t, isToken, pair⟩ := Option.map_eq_some_iff.1 found
    obtain ⟨rfl, rfl⟩ := Prod.mk.inj pair
    obtain ⟨line, lexeme⟩ := token?_eq_some isToken
    -- A lexeme has the bytes of its segment.
    have stop : s.place.offset + t.lexeme.utf8ByteSize = s.stop.offset := by
      rw [← Text.byteLength_toList, lexeme]
      rfl
    rw [line, lexeme, stop]
    exact ⟨slice_of_mem_placedSegments placed, line_of_mem_placedSegments file placed⟩
  · intro f member
    obtain ⟨s, placed, isFault⟩ := List.mem_filterMap.1 member
    obtain ⟨counted, loc, located, line⟩ := line_of_mem_placedSegments file placed
    obtain ⟨offset, -, -⟩ := Placed.span_of_fault? isFault
    rw [offset, counted]
    refine ⟨?_, line_of_unterminated placed isFault, loc, located, by rw [line]⟩
    intro other
    rw [(line_of_fault? isFault).1 other]

end LoxFront
