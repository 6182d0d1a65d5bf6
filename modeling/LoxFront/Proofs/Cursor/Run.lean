import LoxFront.Proofs.Cursor.Turn

/-! # Runs of a cursor

A scan by byte positions goes through its whole source without a misstep and finds what `scan` does
(`scan_safe`).  All its cursors follow the source (`Reaches.follows`), since the first does and each
turn keeps it.  The scan comes to an end, since a turn that does not move the cursor takes it back
to the loop over the lexemes, and a turn of that loop moves it.
-/

namespace LoxFront

open Text (byteLength lineAt? IsBoundary)

namespace Cursor

/-! ## Cursors of a scan -/

section Run

variable {source : List Char} {begun : Nat} {s : Cursor}

theorem follows_initial (source : List Char) : Follows source 0 initial := by
  have stands : Stands source initial [] [] source := ⟨rfl, rfl, rfl⟩
  have cut : segments source = [] ++ segments source := rfl
  exact .between rfl stands rfl cut rfl fun nonempty => absurd rfl nonempty

theorem Reaches.follows (reaches : Reaches source begun s) : Follows source begun s := by
  induction reaches with
  | initial => exact follows_initial source
  | turn reaches notDone turned ih =>
    obtain ⟨s', turned', turns⟩ := ih.exists_turn notDone
    obtain rfl := Except.ok.inj (turned.symm.trans turned')
    exact turns.follows

theorem Follows.stands (follows : Follows source begun s) :
    ∃ before read rest, Stands source s before read rest ∧ (0 < begun → read ≠ []) := by
  cases follows with
  | between loop stands spelled cut found moved =>
    exact ⟨_, _, _, stands, fun positive => moved (List.ne_nil_of_length_pos positive)⟩
  | inside within reads => exact ⟨_, _, _, within.stands, fun _ => reads.ne_nil⟩

/-- A scan comes to its end: each turn moves the cursor, or takes it back to the loop over the
    lexemes. -/
theorem Reaches.exists_done (reaches : Reaches source begun s) :
    ∃ begun' s', Reaches source begun' s' ∧ s'.isDone source = true := by
  induction size : 2 * (byteLength source - s.here.offset) + (if s.loop = .lexemes then 0 else 1)
    using Nat.strong_induction_on generalizing begun s with
  | _ n ih =>
    cases notDone : s.isDone source with
    | true => exact ⟨begun, s, reaches, notDone⟩
    | false =>
      obtain ⟨s', turned, turns⟩ := reaches.follows.exists_turn notDone
      refine ih _ ?_ (reaches.turn notDone turned) rfl
      obtain ⟨before, read, rest, stands, -⟩ := turns.follows.stands
      have inText : s'.here.offset ≤ byteLength source := by
        rw [stands.here_offset, stands.split, Text.byteLength_append, Text.byteLength_append]
        omega
      obtain further | ⟨same, inner, back⟩ := turns.onward
      · split at size <;> split <;> omega
      · rw [if_neg inner] at size
        rw [same, if_pos back]
        omega

/-- Of the finished segments each has a character at least. -/
theorem length_le_of_cut {row behind : List Segment} (cut : segments source = row ++ behind) :
    row.length ≤ (row.flatMap Segment.text).length := by
  have wellFormed := wellFormed_of_fits (fits_segments source)
  rw [cut] at wellFormed
  have positive : ∀ n ∈ row.map fun s => s.text.length, 1 ≤ n := by
    rintro _ member
    obtain ⟨s, inRow, rfl⟩ := List.mem_map.1 member
    exact List.length_pos_iff.2 (wellFormed s (List.mem_append_left _ inRow)).text_ne_nil
  rw [List.length_flatMap]
  simpa using List.length_le_sum_of_one_le _ positive

theorem Follows.begun_le_length (follows : Follows source begun s) : begun ≤ source.length := by
  cases follows with
  | between loop stands spelled cut found moved =>
    have finished := length_le_of_cut cut
    rw [spelled, List.length_append] at finished
    rw [stands.split, List.length_append, List.length_append]
    omega
  | inside within reads =>
    have finished := length_le_of_cut within.cut
    have positive := List.length_pos_iff.2 reads.ne_nil
    rw [within.stands.split, List.length_append, List.length_append]
    omega

end Run

/-- When a cursor is done, the segments that it has finished are those of the source. -/
theorem Follows.result_eq {source : String} {begun : Nat} {s : Cursor}
    (follows : Follows source.toList begun s) (done : s.isDone source.toList = true) :
    s.result = scan source := by
  cases follows with
  | @between row _ before read rest loop stands spelled cut found moved =>
    obtain rfl := (isDone_iff stands loop).1 done
    rw [segments_nil, List.append_nil] at cut
    have line : s.here.line = lastLine source := by
      rw [stands.here_eq, stands.start_eq, ← Place.after_append, lastLine, stands.split,
        List.append_nil]
    rw [result, line, found, ← cut]
    rfl
  | inside within reads =>
    have between := (Bool.and_eq_true_iff.1 done).1
    exact absurd (beq_iff_eq.1 between) reads.ne_lexemes

/-! ## Safety -/

/-- What holds of a cursor that a scan of a source meets at the test of a loop, after so many
    lexemes have been begun. -/
structure Safe (source : List Char) (begun : Nat) (s : Cursor) : Prop where
  start_le_here : s.start.offset ≤ s.here.offset
  here_le_length : s.here.offset ≤ byteLength source
  start_isBoundary : IsBoundary s.start.offset source
  here_isBoundary : IsBoundary s.here.offset source
  line : lineAt? s.here.offset source = some s.here.line
  -- No turn fails; the start changes where a lexeme begins, and there only.
  turns : s.isDone source = false → ∃ s', s.turn source = .ok s' ∧
    s'.start = if s.loop = .lexemes then s.here else s.start
  -- Every lexeme that begins has a character, so there are no more of them than characters.
  peeks : s.loop = .lexemes → s.isDone source = false → ∃ c, s.peek source = .ok (some c)
  start_lt_here : 0 < begun → s.start.offset < s.here.offset
  begun_le_length : begun ≤ source.length
  -- The value of a string is cut out behind the quote that closes it.
  value : s.loop = .string → ∀ s', s.advance source = .ok (some '"', s') →
    1 ≤ s'.here.offset ∧ s'.start.offset + 1 ≤ s'.here.offset - 1 ∧
      IsBoundary (s'.start.offset + 1) source ∧ IsBoundary (s'.here.offset - 1) source

theorem Reads.value {source : List Char} {s s' : Cursor} {before read rest : List Char}
    (reads : Reads .string read rest) (stands : Stands source s before read rest)
    (closed : s.advance source = .ok (some '"', s')) :
    1 ≤ s'.here.offset ∧ s'.start.offset + 1 ≤ s'.here.offset - 1 ∧
      IsBoundary (s'.start.offset + 1) source ∧ IsBoundary (s'.here.offset - 1) source := by
  cases reads with
  | @string body _ inside =>
    cases rest with
    | nil =>
      rw [advance, peek_of_ahead stands.ahead_eq] at closed
      cases closed
    | cons c tail =>
      rw [advance_of_ahead stands.ahead_eq] at closed
      obtain ⟨quote, passed⟩ := Prod.mk.inj (Except.ok.inj closed)
      obtain rfl := Option.some.inj quote
      obtain rfl := passed
      obtain ⟨positive, cut⟩ := stands.slice_value
      exact ⟨positive, Text.isSome_sliceBytes?_iff.1 (Option.isSome_of_eq_some cut)⟩

theorem Follows.safe {source : List Char} {begun : Nat} {s : Cursor}
    (follows : Follows source begun s) : Safe source begun s := by
  obtain ⟨before, read, rest, stands, moved⟩ := follows.stands
  have cut := Text.isSome_sliceBytes?_iff.1 (Option.isSome_of_eq_some stands.slice_lexeme)
  have start : s.start.offset = byteLength before := by rw [stands.start_eq, Place.start_after]
  exact {
    start_le_here := cut.1
    here_le_length := cut.2.2.le
    start_isBoundary := cut.2.1
    here_isBoundary := cut.2.2
    line := by
      have here : s.here = Place.start.after (before ++ read) := by
        rw [stands.here_eq, stands.start_eq, Place.after_append]
      rw [here, Place.start_after, stands.split, ← List.append_assoc]
      exact Text.lineAt?_append (before ++ read) rest
    turns := by
      intro notDone
      obtain ⟨s', turned, turns⟩ := follows.exists_turn notDone
      exact ⟨s', turned, turns.start_eq⟩
    peeks := by
      intro between notDone
      cases rest with
      | nil =>
        rw [(isDone_iff stands between).2 rfl] at notDone
        cases notDone
      | cons c tail => exact ⟨c, peek_of_ahead stands.ahead_eq⟩
    start_lt_here := by
      intro positive
      have size : 0 < byteLength read :=
        Nat.pos_of_ne_zero fun none => moved positive (Text.byteLength_eq_zero.1 none)
      rw [stands.here_offset, start]
      omega
    begun_le_length := follows.begun_le_length
    value := by
      intro loop s' closed
      cases follows with
      | between between => exact absurd (between.symm.trans loop) Loop.noConfusion
      | inside within reads => exact Reads.value (loop ▸ reads) within.stands closed }

/-- A scan by byte positions goes through every source without a misstep.  Whenever the test of one
    of its loops comes, its cursor is in the source, at a boundary and on the line of that boundary,
    with the start of its lexeme at a boundary in front of it; every lexeme that it begins takes it
    further.  The scan comes to its end, and it has found there what `scan` finds. -/
theorem scan_safe (source : String) :
    (∀ begun s, Reaches source.toList begun s → Safe source.toList begun s) ∧
    (∃ begun s, Reaches source.toList begun s ∧ s.isDone source.toList = true) ∧
    ∀ begun s, Reaches source.toList begun s → s.isDone source.toList = true →
      s.result = scan source := by
  refine ⟨fun _ _ reaches => reaches.follows.safe, Reaches.initial.exists_done, ?_⟩
  intro begun s reaches done
  exact reaches.follows.result_eq done

end Cursor

end LoxFront
