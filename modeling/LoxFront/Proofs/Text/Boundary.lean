import LoxFront.Text.Bytes
import Mathlib

/-! # Boundaries between characters

An offset up to the end of a text stands between two characters or at an end of the text, or it
splits a character, and never both (`splitsCharacter_iff`).  Two boundaries of one text bound a part
of it (`exists_between`), which is the slice between them (`isSome_sliceBytes?_iff`).
-/

namespace LoxFront.Text

/-- The offset stands between two characters of the text, or at one of its ends. -/
def IsBoundary (offset : Nat) (text : List Char) : Prop :=
  ∃ before after, text = before ++ after ∧ byteLength before = offset

/-- The offset lies strictly inside a character of the text, one of several bytes. -/
def SplitsCharacter (offset : Nat) (text : List Char) : Prop :=
  ∃ before c after, text = before ++ c :: after ∧
    byteLength before < offset ∧ offset < byteLength before + c.utf8Size

theorem isBoundary_iff_isSome {offset : Nat} {text : List Char} :
    IsBoundary offset text ↔ (splitBytes? offset text).isSome = true := by
  rw [Option.isSome_iff_exists]
  constructor
  · rintro ⟨before, after, split, length⟩
    exact ⟨(before, after), splitBytes?_eq_some_iff.2 ⟨split, length⟩⟩
  · rintro ⟨⟨before, after⟩, split⟩
    exact ⟨before, after, splitBytes?_eq_some_iff.1 split⟩

instance (offset : Nat) (text : List Char) : Decidable (IsBoundary offset text) :=
  decidable_of_iff _ isBoundary_iff_isSome.symm

theorem isBoundary_length (text : List Char) : IsBoundary (byteLength text) text :=
  ⟨text, [], (List.append_nil text).symm, rfl⟩

theorem IsBoundary.cons {offset : Nat} {text : List Char} (h : IsBoundary offset text) (c : Char) :
    IsBoundary (c.utf8Size + offset) (c :: text) := by
  obtain ⟨before, after, rfl, rfl⟩ := h
  exact ⟨c :: before, after, rfl, rfl⟩

theorem IsBoundary.le {offset : Nat} {text : List Char} (h : IsBoundary offset text) :
    offset ≤ byteLength text := by
  obtain ⟨before, after, rfl, rfl⟩ := h
  rw [byteLength_append]
  omega

theorem SplitsCharacter.cons {offset : Nat} {text : List Char} (h : SplitsCharacter offset text)
    (c : Char) : SplitsCharacter (c.utf8Size + offset) (c :: text) := by
  obtain ⟨before, d, after, rfl, low, high⟩ := h
  refine ⟨c :: before, d, after, rfl, ?_, ?_⟩
  · rw [byteLength_cons]
    omega
  · rw [byteLength_cons]
    omega

/-- Of two boundaries the one with fewer bytes in front of it comes first. -/
theorem exists_between {before after before' after' : List Char}
    (same : before ++ after = before' ++ after') (order : byteLength before ≤ byteLength before') :
    ∃ between, before' = before ++ between ∧ after = between ++ after' := by
  obtain ⟨between, longer, rest⟩ | ⟨between, longer, rest⟩ := List.append_eq_append_iff.1 same
  · exact ⟨between, longer, rest⟩
  · -- The second is a part of the first, so nothing stands between them.
    have length := congrArg byteLength longer
    rw [byteLength_append] at length
    obtain rfl : between = [] := byteLength_eq_zero.1 (by omega)
    exact ⟨[], by simp [longer], by simp [rest]⟩

theorem isBoundary_or_splitsCharacter {offset : Nat} {text : List Char}
    (inside : offset ≤ byteLength text) : IsBoundary offset text ∨ SplitsCharacter offset text := by
  induction text generalizing offset with
  | nil =>
    obtain rfl := Nat.le_zero.1 inside
    exact .inl ⟨[], [], rfl, rfl⟩
  | cons c text ih =>
    rw [byteLength_cons] at inside
    by_cases first : c.utf8Size ≤ offset
    · obtain ⟨behind, rfl⟩ := Nat.exists_eq_add_of_le first
      have shorter : behind ≤ byteLength text := by omega
      obtain boundary | splits := ih shorter
      · exact .inl (boundary.cons c)
      · exact .inr (splits.cons c)
    · obtain rfl | positive := Nat.eq_zero_or_pos offset
      · exact .inl ⟨[], c :: text, rfl, rfl⟩
      · refine .inr ⟨[], c, text, rfl, positive, ?_⟩
        rw [byteLength_nil]
        omega

theorem SplitsCharacter.not_isBoundary {offset : Nat} {text : List Char}
    (h : SplitsCharacter offset text) : ¬IsBoundary offset text := by
  obtain ⟨before, c, after, split, low, high⟩ := h
  rintro ⟨before', after', split', rfl⟩
  obtain ⟨between, longer, rest⟩ := exists_between (split.symm.trans split') (Nat.le_of_lt low)
  have length := congrArg byteLength longer
  rw [byteLength_append] at length
  -- What stands between the character's start and the boundary begins with the character.
  cases between with
  | nil =>
    rw [byteLength_nil] at length
    omega
  | cons d between =>
    obtain ⟨rfl, -⟩ := List.cons.inj rest
    rw [byteLength_cons] at length
    omega

/-- An offset splits a character if it is in the text and not a boundary. -/
theorem splitsCharacter_iff {offset : Nat} {text : List Char} :
    SplitsCharacter offset text ↔ offset < byteLength text ∧ ¬IsBoundary offset text := by
  constructor
  · intro h
    refine ⟨?_, h.not_isBoundary⟩
    obtain ⟨before, c, after, rfl, -, high⟩ := h
    rw [byteLength_append, byteLength_cons]
    omega
  · rintro ⟨inside, no⟩
    exact (isBoundary_or_splitsCharacter (Nat.le_of_lt inside)).resolve_left no

instance (offset : Nat) (text : List Char) : Decidable (SplitsCharacter offset text) :=
  decidable_of_iff _ splitsCharacter_iff.symm

/-- Clamping to the end of the text makes a boundary of every offset that splits no character. -/
theorem isBoundary_min {offset : Nat} {text : List Char} (whole : ¬SplitsCharacter offset text) :
    IsBoundary (min offset (byteLength text)) text := by
  by_cases inside : offset ≤ byteLength text
  · rw [Nat.min_eq_left inside]
    exact (isBoundary_or_splitsCharacter inside).resolve_right whole
  · rw [Nat.min_eq_right (by omega)]
    exact isBoundary_length text

/-- There is a slice exactly between two boundaries. -/
theorem isSome_sliceBytes?_iff {start stop : Nat} {text : List Char} :
    (sliceBytes? start stop text).isSome = true ↔
      start ≤ stop ∧ IsBoundary start text ∧ IsBoundary stop text := by
  rw [Option.isSome_iff_exists]
  constructor
  · rintro ⟨slice, cut⟩
    obtain ⟨before, after, split, rfl, rfl⟩ := sliceBytes?_eq_some_iff.1 cut
    refine ⟨by omega, ⟨before, slice ++ after, by rw [split, List.append_assoc], rfl⟩, ?_⟩
    exact ⟨before ++ slice, after, split, byteLength_append before slice⟩
  · rintro ⟨order, ⟨before, after, split, rfl⟩, ⟨before', after', split', rfl⟩⟩
    obtain ⟨between, longer, -⟩ := exists_between (split.symm.trans split') order
    refine ⟨between, sliceBytes?_eq_some_iff.2 ⟨before, after', ?_, rfl, ?_⟩⟩
    · rw [split', longer]
    · rw [longer, byteLength_append]

/-- A place is told by the bytes in front of it. -/
theorem eq_of_byteLength_eq {before after before' after' : List Char}
    (same : before ++ after = before' ++ after') (place : byteLength before = byteLength before') :
    before = before' ∧ after = after' := by
  obtain ⟨between, longer, rest⟩ := exists_between same (Nat.le_of_eq place)
  have length := congrArg byteLength longer
  rw [byteLength_append] at length
  obtain rfl : between = [] := byteLength_eq_zero.1 (by omega)
  exact ⟨by simp [longer], by simp [rest]⟩

/-- Of two slices from one start the one that stops first is a part of the other. -/
theorem prefix_of_sliceBytes? {start stop stop' : Nat} {text slice slice' : List Char}
    (order : stop ≤ stop') (cut : sliceBytes? start stop text = some slice)
    (cut' : sliceBytes? start stop' text = some slice') : slice <+: slice' := by
  obtain ⟨before, after, split, rfl, rfl⟩ := sliceBytes?_eq_some_iff.1 cut
  obtain ⟨before', after', split', place, rfl⟩ := sliceBytes?_eq_some_iff.1 cut'
  rw [split, List.append_assoc, List.append_assoc] at split'
  obtain ⟨-, behind⟩ := eq_of_byteLength_eq split' place.symm
  obtain ⟨between, longer, -⟩ := exists_between behind (by omega)
  exact ⟨between, longer.symm⟩

end LoxFront.Text
