import LoxFront.Proofs.Scan.Place

/-! # Scans of a text that grows

More text behind a source can change what was last in it, and nothing else.  `scan_prefix_append`
says how much that is: the last token, or the last two if the source ends in a point, as `12.` does
when a digit comes to stand behind it.  A character that is unexpected stays so.
-/

namespace LoxFront

theorem rdrop_append_prefix_left {α : Type} {front back : List α} {n : Nat}
    (few : back.length ≤ n) : (front ++ back).rdrop n <+: front := by
  have taken : (front ++ back).rdrop n <+: front ++ back := List.take_prefix _ _
  refine List.prefix_of_prefix_length_le taken (List.prefix_append front back) ?_
  simp only [List.rdrop, List.length_take, List.length_append]
  omega

/-! ## The faults of a row -/

namespace Placed

variable {p : Place} {row : List Segment}

/-- A fault is an unexpected character unless a string is open. -/
theorem kind_of_closed (closed : ∀ s ∈ row, s.isOpen = false) :
    ∀ f ∈ (found (layOut p row)).faults, f.kind ≠ .unterminatedString := by
  intro f member
  obtain ⟨s, placed, isFault⟩ := List.mem_filterMap.1 member
  have closed := closed s.segment (segment_mem placed)
  obtain ⟨c, -, kind⟩ | ⟨body, segment, -⟩ := segment_of_fault? isFault
  · rw [kind]
    nofun
  · rw [segment] at closed
    exact absurd closed.symm Bool.false_ne_true

theorem kind_of_noStray (noStray : ∀ c, .stray c ∉ row) :
    ∀ f ∈ (found (layOut p row)).faults, f.kind = .unterminatedString := by
  intro f member
  obtain ⟨s, placed, isFault⟩ := List.mem_filterMap.1 member
  obtain ⟨c, segment, -⟩ | ⟨-, -, kind⟩ := segment_of_fault? isFault
  · exact absurd (segment ▸ segment_mem placed) (noStray c)
  · exact kind

end Placed

/-! ## Growing -/

theorem Placed.found_prefix_append {p : Place} {text more : List Char} {common : List Segment}
    (shared : common <+: segments (text ++ more)) :
    (found (layOut p common)).tokens <+: (scanAt p (text ++ more)).tokens ∧
      (found (layOut p common)).faults <+: (scanAt p (text ++ more)).faults :=
  ⟨(prefix_layOut shared p).filterMap token?, (prefix_layOut shared p).filterMap fault?⟩

/-- The tokens of a text and of a longer one begin alike. -/
theorem exists_common_tokens (p : Place) (text more : List Char) :
    ∃ common last, (scanAt p text).tokens = common ++ last ∧
      common <+: (scanAt p (text ++ more)).tokens ∧
      last.length ≤ 2 ∧ (text.getLast? ≠ some '.' → last.length ≤ 1) := by
  obtain ⟨common, last, split, shared, -, -, few⟩ := exists_common_segments text more
  refine ⟨_, _, congrArg Scan.tokens (scanAt_eq_append split p),
    (Placed.found_prefix_append shared).1, ?_⟩
  -- A segment is at most one token.
  have atMost := List.length_filterMap_le Placed.token?
    (Placed.layOut (p.after (common.flatMap Segment.text)) last)
  rw [Placed.length_layOut] at atMost
  refine ⟨Nat.le_trans atMost (by omega), ?_⟩
  intro noPoint
  exact Nat.le_trans atMost (few.resolve_right fun two => noPoint two.2)

/-- The unexpected characters of a text are the first faults of a longer one. -/
theorem filter_faults_prefix_append (p : Place) (text more : List Char) :
    (scanAt p text).faults.filter (·.kind ≠ .unterminatedString) <+:
      (scanAt p (text ++ more)).faults := by
  obtain ⟨common, last, split, shared, closed, noStray, -⟩ := exists_common_segments text more
  have kept : (Placed.found (Placed.layOut p common)).faults.filter
      (·.kind ≠ .unterminatedString) = (Placed.found (Placed.layOut p common)).faults := by
    rw [List.filter_eq_self]
    intro f member
    exact decide_eq_true (Placed.kind_of_closed closed f member)
  have dropped : (Placed.found (Placed.layOut (p.after (common.flatMap Segment.text))
      last)).faults.filter (·.kind ≠ .unterminatedString) = [] := by
    rw [List.filter_eq_nil_iff]
    intro f member
    simp [Placed.kind_of_noStray noStray f member]
  rw [scanAt_eq_append split, Scan.faults_append, List.filter_append, kept, dropped,
    List.append_nil]
  exact (Placed.found_prefix_append shared).2

/-- Behind a source more text leaves all tokens as they are but the last two, and all but the last
    one if the source does not end in a point; the token that ends the source is not counted.  It
    leaves every unexpected character a fault. -/
theorem scan_prefix_append (a b : String) :
    (scan a).tokens.dropLast.rdrop 2 <+: (scan (a ++ b)).tokens ∧
    (a.toList.getLast? ≠ some '.' →
      (scan a).tokens.dropLast.rdrop 1 <+: (scan (a ++ b)).tokens) ∧
    (scan a).faults.filter (·.kind ≠ .unterminatedString) <+: (scan (a ++ b)).faults := by
  obtain ⟨common, last, split, shared, two, one⟩ :=
    exists_common_tokens .start a.toList b.toList
  have unexpected := filter_faults_prefix_append .start a.toList b.toList
  rw [← String.toList_append] at shared unexpected
  have kept : common <+: (scan (a ++ b)).tokens := shared.trans (List.prefix_append _ _)
  rw [dropLast_tokens, split]
  refine ⟨(rdrop_append_prefix_left two).trans kept, ?_, unexpected⟩
  intro noPoint
  exact (rdrop_append_prefix_left (one noPoint)).trans kept

/-- The last token is lost when a keyword comes to be the beginning of a name. -/
theorem scan_prefix_append_name :
    "x or".toList.getLast? ≠ some '.' ∧
    (scan "x or").tokens.dropLast.rdrop 1 <+: (scan ("x or" ++ "chid")).tokens ∧
    ¬ (scan "x or").tokens.dropLast <+: (scan ("x or" ++ "chid")).tokens := by
  have noPoint : "x or".toList.getLast? ≠ some '.' := by decide +kernel
  refine ⟨noPoint, (scan_prefix_append "x or" "chid").2.1 noPoint, ?_⟩
  decide +kernel

-- Two tokens are lost when a fraction comes to stand behind the point.
example : ¬ (scan "12.").tokens.dropLast.rdrop 1 <+: (scan ("12." ++ "5")).tokens := by
  decide +kernel

end LoxFront
