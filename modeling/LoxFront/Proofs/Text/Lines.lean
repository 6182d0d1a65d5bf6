import LoxFront.Text.Lines
import Mathlib

/-! # Places in the line table

A place in a text divides it in two, and so does the line that the place is on: `lineBefore` is
what the line holds in front of the place, `lineAfter` what it holds behind it, and `fullLines` are
the lines above, each with its LF.  `lines_append` finds the line in the table: as many lines stand
above it as there are LFs in front of the place, and all of those end before it starts.
-/

namespace LoxFront

open Text (byteLength newlines sliceBytes?)

/-! ## Laying lines out -/

namespace Line

/-- The bytes that lines take up when each of them is ended by a LF. -/
def extent (texts : List (List Char)) : Nat :=
  texts.foldr (fun text bytes => byteLength text + 1 + bytes) 0

@[simp] theorem extent_cons (text : List Char) (texts : List (List Char)) :
    extent (text :: texts) = byteLength text + 1 + extent texts := rfl

theorem layOut_append (start : Nat) (above below : List (List Char)) :
    layOut start (above ++ below) = layOut start above ++ layOut (start + extent above) below := by
  induction above generalizing start with
  | nil => rfl
  | cons text above ih => simp [layOut, ih, Nat.add_assoc]

/-- Lines lie in the bytes that they take up. -/
theorem inside_of_mem_layOut {start : Nat} {texts : List (List Char)} {line : Line}
    (member : line ∈ layOut start texts) :
    start ≤ line.start ∧ line.stop < start + extent texts := by
  induction texts generalizing start with
  | nil => simp [layOut] at member
  | cons text texts ih =>
    rw [extent_cons]
    obtain rfl | member := List.mem_cons.1 member
    · simp only [stop]
      omega
    · have := ih member
      omega

theorem slice_of_mem_layOut {front : List Char} {texts : List (List Char)} {line : Line}
    (member : line ∈ layOut (byteLength front) texts) :
    sliceBytes? line.start line.stop (front ++ ['\n'].intercalate texts) = some line.text := by
  induction texts generalizing front with
  | nil => simp [layOut] at member
  | cons text texts ih =>
    obtain rfl | member := List.mem_cons.1 member
    · have below : ∃ rest, ['\n'].intercalate (text :: texts) = text ++ rest := by
        cases texts with
        | nil => exact ⟨[], by rw [List.intercalate_singleton, List.append_nil]⟩
        | cons next texts => exact ⟨_, by rw [List.intercalate_cons_cons, List.append_assoc]⟩
      obtain ⟨rest, below⟩ := below
      rw [below, ← List.append_assoc]
      exact Text.sliceBytes?_eq_some_iff.2 ⟨front, rest, rfl, rfl, rfl⟩
    · -- The texts below start behind the LF that ends this one.
      have nonempty : texts ≠ [] := by
        intro empty
        simp [empty, layOut] at member
      have behind : byteLength (front ++ text ++ ['\n']) =
          byteLength front + byteLength text + 1 := by
        rw [Text.byteLength_append, Text.byteLength_append]
        rfl
      rw [← behind] at member
      rw [List.intercalate_cons_of_ne_nil nonempty]
      simpa only [List.append_assoc] using ih member

end Line

namespace Text

/-- The lines of a text take up its bytes, and one more for a LF behind the last line. -/
theorem extent_splitOn (text : List Char) :
    Line.extent (text.splitOn '\n') = byteLength text + 1 := by
  induction text with
  | nil => rfl
  | cons c text ih =>
    rw [List.splitOn_cons_eq_if_modifyHead]
    obtain ⟨first, rest, split⟩ := List.exists_cons_of_ne_nil (List.splitOn_ne_nil '\n' text)
    rw [split] at ih ⊢
    rw [Line.extent_cons] at ih
    by_cases newline : c = '\n'
    · subst newline
      simp only [beq_self_eq_true, if_true, Line.extent_cons, byteLength_nil, byteLength_cons,
        show '\n'.utf8Size = 1 from rfl]
      omega
    · simp only [beq_iff_eq, newline, if_false, List.modifyHead_cons, Line.extent_cons,
        byteLength_cons]
      omega

theorem length_splitOn (text : List Char) : (text.splitOn '\n').length = newlines text + 1 := by
  rw [← Line.length_layOut 0, ← length_lines]
  rfl

theorem slice_of_mem_lines {text : List Char} {line : Line} (member : line ∈ lines text) :
    sliceBytes? line.start line.stop text = some line.text := by
  have slice := Line.slice_of_mem_layOut (show line ∈ Line.layOut (byteLength []) _ from member)
  rwa [List.nil_append, List.intercalate_splitOn] at slice

theorem stop_le_of_mem_lines {text : List Char} {line : Line} (member : line ∈ lines text) :
    line.stop ≤ byteLength text := by
  obtain ⟨-, stop⟩ := Line.inside_of_mem_layOut member
  rw [extent_splitOn] at stop
  omega

/-! ## The line of a place -/

/-- The lines above a place, each with its LF. -/
def fullLines (before : List Char) : List Char :=
  before.rdropWhile (· != '\n')

/-- What the line of a place holds in front of it. -/
def lineBefore (before : List Char) : List Char :=
  before.rtakeWhile (· != '\n')

def lineAfter (after : List Char) : List Char :=
  after.takeWhile (· != '\n')

@[simp] theorem fullLines_append_lineBefore (before : List Char) :
    fullLines before ++ lineBefore before = before :=
  List.rdropWhile_append_rtakeWhile

theorem newline_notMem_lineBefore (before : List Char) : '\n' ∉ lineBefore before := by
  intro member
  simpa using List.mem_rtakeWhile_imp member

theorem newline_notMem_lineAfter (after : List Char) : '\n' ∉ lineAfter after := by
  intro member
  simpa using List.mem_takeWhile_imp member

theorem lineBefore_append (a b : List Char) :
    lineBefore (a ++ b) = if '\n' ∈ b then lineBefore b else lineBefore a ++ b := by
  induction b using List.reverseRecOn with
  | nil => simp
  | append_singleton b c ih =>
    rw [lineBefore] at ih ⊢
    rw [lineBefore, ← List.append_assoc, List.rtakeWhile_concat, List.rtakeWhile_concat]
    by_cases newline : c = '\n'
    · simp [newline]
    · rw [ih, lineBefore]
      by_cases inside : '\n' ∈ b <;> simp [newline, inside, Ne.symm newline]

theorem fullLines_eq (before : List Char) :
    fullLines before = [] ∨ ∃ above, fullLines before = above ++ ['\n'] := by
  by_cases none : fullLines before = []
  · exact .inl none
  · have last : ¬((fullLines before).getLast none != '\n') = true :=
      List.rdropWhile_last_not (· != '\n') before none
    have newline : (fullLines before).getLast none = '\n' := by simpa using last
    exact .inr ⟨_, newline ▸ (List.dropLast_append_getLast none).symm⟩

theorem newlines_fullLines (before : List Char) :
    newlines (fullLines before) = newlines before := by
  conv => rhs; rw [← fullLines_append_lineBefore before, newlines_append]
  rw [newlines, newlines, List.count_eq_zero.2 (newline_notMem_lineBefore before), Nat.add_zero]

theorem exists_splitOn_append {line : List Char} (inside : '\n' ∉ line) (after : List Char) :
    ∃ below, (line ++ after).splitOn '\n' = (line ++ lineAfter after) :: below := by
  have whole : after = lineAfter after ++ after.dropWhile (· != '\n') :=
    List.takeWhile_append_dropWhile.symm
  have outside : '\n' ∉ line ++ lineAfter after := by
    simp [inside, newline_notMem_lineAfter]
  -- Either the text ends with this line, or the LF that ends the line comes next.
  cases rest : after.dropWhile (· != '\n') with
  | nil =>
    rw [rest, List.append_nil] at whole
    exact ⟨[], by rw [← whole, List.splitOn_eq_singleton (whole.symm ▸ outside)]⟩
  | cons c rest' =>
    have newline : c = '\n' := by
      have := List.head?_dropWhile_not (· != '\n') after
      simpa [rest] using this
    subst newline
    rw [rest] at whole
    refine ⟨rest'.splitOn '\n', ?_⟩
    conv => lhs; rw [whole, ← List.append_assoc]
    exact List.splitOn_append_cons_self_of_not_mem outside rest'

/-- The line of a place, with the lines above it and below it. -/
theorem lines_append (before after : List Char) :
    ∃ above below, lines (before ++ after) =
        above ++ ⟨byteLength (fullLines before), lineBefore before ++ lineAfter after⟩ :: below ∧
      above.length = newlines before ∧
      ∀ line ∈ above, line.stop < byteLength (fullLines before) := by
  obtain ⟨below, split⟩ := exists_splitOn_append (newline_notMem_lineBefore before) after
  have count := newlines_fullLines before
  have whole : before ++ after = fullLines before ++ (lineBefore before ++ after) := by
    rw [← List.append_assoc, fullLines_append_lineBefore]
  -- The first line has nothing above it, any other the lines up to the last LF.
  obtain none | ⟨full, some⟩ := fullLines_eq before
  · rw [none] at count whole ⊢
    refine ⟨[], Line.layOut (0 + byteLength (lineBefore before ++ lineAfter after) + 1) below,
      ?_, by simpa using count, by simp⟩
    rw [lines, whole, List.nil_append, split]
    rfl
  · rw [some] at count whole ⊢
    have extent : Line.extent (full.splitOn '\n') = byteLength (full ++ ['\n']) := by
      rw [extent_splitOn, byteLength_append]
      rfl
    refine ⟨Line.layOut 0 (full.splitOn '\n'),
      Line.layOut (byteLength (full ++ ['\n']) +
        byteLength (lineBefore before ++ lineAfter after) + 1) below, ?_, ?_, ?_⟩
    · rw [lines, whole, List.append_assoc, List.singleton_append, List.splitOn_append_cons_self,
        split, Line.layOut_append, Nat.zero_add, extent]
      rfl
    · rw [Line.length_layOut, length_splitOn, ← count]
      simp
    · intro line member
      obtain ⟨-, stop⟩ := Line.inside_of_mem_layOut member
      rwa [Nat.zero_add, extent] at stop

/-! ## The line of an offset -/

/-- The line of an offset, one more than the LFs in front of it; an offset inside a character or
    past the end has none. -/
def lineAt? (offset : Nat) (text : List Char) : Option Nat :=
  (splitBytes? offset text).map fun (before, _) => 1 + newlines before

theorem lineAt?_append (before after : List Char) :
    lineAt? (byteLength before) (before ++ after) = some (1 + newlines before) := by
  have split : splitBytes? (byteLength before) (before ++ after) = some (before, after) :=
    splitBytes?_eq_some_iff.2 ⟨rfl, rfl⟩
  rw [lineAt?, split]
  rfl

end Text

end LoxFront
