import LoxFront.Proofs.Segment.Shape
import LoxFront.Scan

/-! # Segments and faults in their places

What stands where when segments are laid out.  `exists_of_mem_layOut_segments` takes a placed
segment of a text apart: the text in front of it decides its place, and the text behind it is one
that it does not go on into.  From that come the spans of faults: each covers exactly the bytes of
its segment, later ones lie behind earlier ones, and the span of an unterminated string ends with
the text.
-/

namespace LoxFront

open Text (byteLength newlines)

namespace Place

theorem offset_le_after (p : Place) (text : List Char) : p.offset ≤ (p.after text).offset :=
  Nat.le_add_right p.offset (byteLength text)

theorem line_le_after (p : Place) (text : List Char) : p.line ≤ (p.after text).line :=
  Nat.le_add_right p.line (newlines text)

theorem start_after (text : List Char) :
    start.after text = ⟨byteLength text, 1 + newlines text⟩ := by
  simp [after, start]

end Place

namespace Placed

/-! ## Where segments are -/

theorem segment_mem {p : Place} {row : List Segment} {s : Placed} (member : s ∈ layOut p row) :
    s.segment ∈ row := by
  rw [← map_segment_layOut p row]
  exact List.mem_map_of_mem member

theorem length_layOut (p : Place) (row : List Segment) : (layOut p row).length = row.length := by
  rw [← List.length_map segment, map_segment_layOut]

theorem prefix_layOut {common row : List Segment} (shared : common <+: row) (p : Place) :
    layOut p common <+: layOut p row := by
  obtain ⟨behind, rfl⟩ := shared
  rw [layOut_append]
  exact List.prefix_append _ _

theorem mem_layOut_iff {p : Place} {row : List Segment} {s : Placed} :
    s ∈ layOut p row ↔ ∃ before after, row = before ++ s.segment :: after ∧
      s.place = p.after (before.flatMap Segment.text) := by
  induction row generalizing p with
  | nil => simp [layOut]
  | cons first row ih =>
    rw [layOut, List.mem_cons, ih]
    constructor
    · rintro (rfl | ⟨before, after, rfl, place⟩)
      · exact ⟨[], row, rfl, rfl⟩
      · exact ⟨first :: before, after, rfl, by rw [place, List.flatMap_cons, Place.after_append]⟩
    · intro h
      obtain ⟨before, after, split, place⟩ := h
      cases before with
      | nil =>
        obtain ⟨rfl, rfl⟩ := List.cons.inj split
        exact .inl (by rw [← show s.place = p from place])
      | cons _ before =>
        obtain ⟨rfl, rfl⟩ := List.cons.inj split
        exact .inr ⟨before, after, rfl, by rw [place, List.flatMap_cons, Place.after_append]⟩

theorem pairwise_layOut (p : Place) (row : List Segment) :
    (layOut p row).Pairwise fun s t =>
      s.stop.offset ≤ t.place.offset ∧ s.stop.line ≤ t.place.line := by
  induction row generalizing p with
  | nil => exact .nil
  | cons first row ih =>
    refine .cons ?_ (ih _)
    intro t member
    obtain ⟨before, after, -, place⟩ := mem_layOut_iff.1 member
    rw [place]
    exact ⟨Place.offset_le_after _ _, Place.line_le_after _ _⟩

end Placed

theorem fits_append {before after : List Segment} (fits : Fits (before ++ after)) :
    Fits after := by
  induction before with
  | nil => exact fits
  | cons s before ih => exact ih fits.2.2

/-- A placed segment of a text, with the text in front of it and behind it. -/
theorem exists_of_mem_layOut_segments {p : Place} {text : List Char} {s : Placed}
    (member : s ∈ Placed.layOut p (segments text)) :
    ∃ before after, text = before ++ (s.segment.text ++ after) ∧ s.place = p.after before ∧
      s.segment.WellFormed ∧ s.segment.goesOn after = false := by
  obtain ⟨before, after, split, place⟩ := Placed.mem_layOut_iff.1 member
  have spelled := flatMap_text_segments text
  have fits := fits_segments text
  rw [split] at spelled fits
  obtain ⟨wellFormed, stops, -⟩ := fits_append fits
  refine ⟨before.flatMap Segment.text, after.flatMap Segment.text, ?_, place, wellFormed, stops⟩
  rw [← spelled, List.flatMap_append, List.flatMap_cons]

/-! ## The spans of faults -/

namespace Placed

theorem segment_of_fault? {s : Placed} {f : Fault} (h : s.fault? = some f) :
    (∃ c, s.segment = .stray c ∧ f.kind = .unexpectedCharacter c) ∨
      ∃ body, s.segment = .openString body ∧ f.kind = .unterminatedString := by
  obtain ⟨segment, place⟩ := s
  cases segment with
  | stray c =>
    obtain rfl := Option.some.inj h
    exact .inl ⟨c, rfl, rfl⟩
  | openString body =>
    obtain rfl := Option.some.inj h
    exact .inr ⟨body, rfl, rfl⟩
  | _ => simp [fault?] at h

/-- A fault covers the bytes of its segment, of which there is at least one. -/
theorem span_of_fault? {s : Placed} {f : Fault} (h : s.fault? = some f) :
    f.offset = s.place.offset ∧ f.offset + f.length = s.stop.offset ∧ 0 < f.length := by
  obtain ⟨segment, place⟩ := s
  cases segment with
  | stray c =>
    obtain rfl := Option.some.inj h
    exact ⟨rfl, by simp [Fault.unexpectedCharacter, stop, Place.after, Segment.text],
      Char.utf8Size_pos c⟩
  | openString body =>
    obtain rfl := Option.some.inj h
    refine ⟨rfl, rfl, ?_⟩
    have := Char.utf8Size_pos '"'
    simp only [Fault.unterminatedString, Segment.text, Text.byteLength_cons]
    omega
  | _ => simp [fault?] at h

end Placed

theorem pairwise_faults (source : String) :
    (scan source).faults.Pairwise fun f g => f.offset + f.length ≤ g.offset := by
  refine List.Pairwise.filterMap Placed.fault? ?_
    (Placed.pairwise_layOut .start (segments source.toList))
  intro s t order f hf g hg
  obtain ⟨-, stop, -⟩ := Placed.span_of_fault? hf
  obtain ⟨start, -, -⟩ := Placed.span_of_fault? hg
  rw [stop, start]
  exact order.1

/-- The span of a fault lies inside the source, and that of an unterminated string ends with it. -/
theorem span_of_mem_faults {source : String} {f : Fault} (member : f ∈ (scan source).faults) :
    0 < f.length ∧ f.offset + f.length ≤ source.utf8ByteSize ∧
      (f.kind = .unterminatedString → f.offset + f.length = source.utf8ByteSize) := by
  obtain ⟨s, placed, isFault⟩ := List.mem_filterMap.1 member
  obtain ⟨offset, stop, positive⟩ := Placed.span_of_fault? isFault
  obtain ⟨before, after, split, place, -, stops⟩ := exists_of_mem_layOut_segments placed
  have size : source.utf8ByteSize = s.stop.offset + byteLength after := by
    rw [← Text.byteLength_toList, split, Placed.stop, place]
    simp [Place.after, Place.start, Nat.add_assoc]
  refine ⟨positive, by omega, ?_⟩
  intro unterminated
  -- An open string leaves nothing behind it.
  obtain ⟨segment, _⟩ := s
  cases segment with
  | openString body =>
    obtain rfl : after = [] := by simpa [Segment.goesOn] using stops
    rw [stop, size, Text.byteLength_nil, Nat.add_zero]
  | stray c =>
    obtain rfl := Option.some.inj isFault
    simp [Fault.unexpectedCharacter] at unterminated
  | _ => simp [Placed.fault?] at isFault

end LoxFront
