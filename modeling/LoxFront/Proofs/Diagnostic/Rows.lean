import LoxFront.Diagnostic.Layout
import Mathlib

/-! # The rows of a displayed diagnostic

Without colours a diagnostic whose texts hold no LF is displayed as exactly the rows that it was
laid out in, so none of its texts can pass for a row.  In the block of the location every row has
its bar in one column, and the carets of a label stand below the characters of the line that it
names (`OneLine.laidOut`).  What each row shows is one equation (`shown_labelRow` and the like), and
all else is read off these.
-/

namespace LoxFront

namespace Span

/-- What a row of spans shows without colours. -/
def shown (row : List Span) : List Char :=
  row.flatMap (write false)

theorem writeRows_eq (rows : List (List Span)) :
    writeRows false rows = (rows.map shown).flatMap (· ++ ['\n']) := by
  rw [List.flatMap_map]
  rfl

@[simp] theorem shown_nil : shown [] = [] := rfl

@[simp] theorem shown_plain (text : List Char) (row : List Span) :
    shown (plain text :: row) = text ++ shown row := rfl

@[simp] theorem shown_styled (style : Style) (text : List Char) (row : List Span) :
    shown (styled style text :: row) = text ++ shown row := rfl

@[simp] theorem shown_append (a b : List Span) : shown (a ++ b) = shown a ++ shown b :=
  List.flatMap_append

end Span

open LoxFront.Span (shown)

namespace Diagnostic

/-- The number of characters that a line number takes up in the gutter. -/
def digits (line : Nat) : Nat :=
  (Nat.toDigits 10 line).length

/-- A diagnostic none of whose texts holds a LF. -/
structure OneLine (d : Diagnostic) : Prop where
  code : '\n' ∉ d.code.toList
  message : '\n' ∉ d.message.toList
  file : ∀ loc ∈ d.location, '\n' ∉ loc.file.toList
  sourceLine : ∀ text ∈ d.sourceLine, '\n' ∉ text.toList
  labels : ∀ label ∈ d.labels, '\n' ∉ label.text.toList
  help : ∀ text ∈ d.help, '\n' ∉ text.toList
  notes : ∀ text ∈ d.notes, '\n' ∉ text.toList

section Build

variable {d : Diagnostic}

theorem OneLine.ofMessage {code message : String} (one : '\n' ∉ code.toList)
    (inside : '\n' ∉ message.toList) : OneLine (ofMessage code message) :=
  ⟨one, inside, nofun, nofun, nofun, nofun, nofun⟩

theorem OneLine.setLocation (oneLine : OneLine d) {loc : Location}
    (inside : '\n' ∉ loc.file.toList) : OneLine (d.setLocation loc) :=
  { oneLine with file := by rintro _ ⟨rfl⟩; exact inside }

theorem OneLine.setSourceLine (oneLine : OneLine d) {text : String} (inside : '\n' ∉ text.toList) :
    OneLine (d.setSourceLine text) :=
  { oneLine with sourceLine := by rintro _ ⟨rfl⟩; exact inside }

theorem OneLine.addLabel (oneLine : OneLine d) {label : Label}
    (inside : '\n' ∉ label.text.toList) : OneLine (d.addLabel label) :=
  { oneLine with
    labels := List.forall_mem_append.2 ⟨oneLine.labels, List.forall_mem_singleton.2 inside⟩ }

theorem OneLine.setHelp (oneLine : OneLine d) {text : String} (inside : '\n' ∉ text.toList) :
    OneLine (d.setHelp text) :=
  { oneLine with help := by rintro _ ⟨rfl⟩; exact inside }

theorem OneLine.addNote (oneLine : OneLine d) {text : String} (inside : '\n' ∉ text.toList) :
    OneLine (d.addNote text) :=
  { oneLine with
    notes := List.forall_mem_append.2 ⟨oneLine.notes, List.forall_mem_singleton.2 inside⟩ }

end Build

/-! ## What rows show -/

theorem shown_emptyGutter (line : Nat) :
    shown (emptyGutter line) = List.replicate (digits line + 1) ' ' ++ ['|'] := by
  simp [emptyGutter, bar, spaces, gutterNumber, digits, List.replicate_succ']

theorem shown_locationRow (loc : Location) :
    shown (locationRow loc) =
      List.replicate (digits loc.line) ' ' ++ "--> ".toList ++ loc.text.toList := by
  simp [locationRow, spaces, gutterNumber, digits]

theorem shown_sourceRow (line : Nat) (text : String) :
    shown (sourceRow line text) = Nat.toDigits 10 line ++ [' ', '|', ' '] ++ text.toList := by
  simp [sourceRow, bar, gutterNumber]

/-- What stands behind the carets of a label. -/
def behindCarets (text : String) : List Char :=
  if text = "" then [] else ' ' :: text.toList

theorem shown_labelRow (line : Nat) (label : Label) :
    shown (labelRow line label) =
      List.replicate (digits line + 1) ' ' ++ ['|'] ++
        List.replicate (label.column - 1 + 1) ' ' ++ List.replicate (max label.length 1) '^' ++
        behindCarets label.text := by
  by_cases empty : label.text = ""
  · simp [labelRow, shown_emptyGutter, spaces, behindCarets, empty, List.replicate_succ]
  · simp [labelRow, shown_emptyGutter, spaces, behindCarets, empty, List.replicate_succ]

theorem shown_messageRow (d : Diagnostic) :
    shown d.messageRow =
      "error[".toList ++ d.code.toList ++ "]: ".toList ++ d.message.toList := by
  simp [messageRow]

theorem shown_remarkRow (colour : Colour) (title text : String) :
    shown (remarkRow colour title text) =
      "   = ".toList ++ title.toList ++ ": ".toList ++ text.toList := by
  simp [remarkRow, spaces]

/-! ## Characters that rows do not hold -/

/-- The texts that a diagnostic is made of. -/
def texts (d : Diagnostic) : List String :=
  [d.code, d.message] ++ d.location.toList.map Location.file ++ d.sourceLine.toList ++
    d.labels.map Label.text ++ d.help.toList ++ d.notes

/-- Whether a character is none of the control characters that come before the space. -/
def isPrinted (c : Char) : Bool :=
  ' ' ≤ c

/-- Whether no text of a diagnostic holds a character. -/
def Lacks (c : Char) (d : Diagnostic) : Prop :=
  ∀ text ∈ d.texts, c ∉ text.toList

instance (c : Char) (d : Diagnostic) : Decidable (d.Lacks c) :=
  inferInstanceAs (Decidable (∀ text ∈ d.texts, c ∉ text.toList))

section Lacks

variable {d : Diagnostic} {c : Char}

namespace Lacks

variable (lacks : d.Lacks c)
include lacks

theorem code : c ∉ d.code.toList :=
  lacks d.code (by simp [texts])

theorem message : c ∉ d.message.toList :=
  lacks d.message (by simp [texts])

theorem file {loc : Location} (located : d.location = some loc) : c ∉ loc.file.toList :=
  lacks loc.file (by simp [texts, located])

theorem sourceLine {text : String} (given : d.sourceLine = some text) : c ∉ text.toList :=
  lacks text (by simp [texts, given])

theorem label {label : Label} (member : label ∈ d.labels) : c ∉ label.text.toList := by
  have inLabels : label.text ∈ d.labels.map Label.text := List.mem_map_of_mem member
  exact lacks label.text (by simp [texts, inLabels])

theorem help {text : String} (given : d.help = some text) : c ∉ text.toList :=
  lacks text (by simp [texts, given])

theorem note {text : String} (member : text ∈ d.notes) : c ∉ text.toList :=
  lacks text (by simp [texts, member])

end Lacks

theorem OneLine.lacks (oneLine : OneLine d) : d.Lacks '\n' := by
  intro text member
  simp only [texts, List.mem_append, List.mem_cons, List.not_mem_nil, or_false, List.mem_map,
    Option.mem_toList] at member
  obtain
    (((((rfl | rfl) | ⟨loc, located, rfl⟩) | given) | ⟨label, inLabels, rfl⟩) | given) | inNotes :=
      member
  · exact oneLine.code
  · exact oneLine.message
  · exact oneLine.file loc located
  · exact oneLine.sourceLine text given
  · exact oneLine.labels label inLabels
  · exact oneLine.help text given
  · exact oneLine.notes text inNotes

-- All that a row adds to the texts of its diagnostic is printed: no control character is in it.
variable (control : isPrinted c = false)
include control

theorem ne_of_printed {x : Char} (printed : isPrinted x = true) : c ≠ x := by
  rintro rfl
  exact Bool.false_ne_true (control.symm.trans printed)

theorem notMem_of_printed {text : List Char} (printed : text.all isPrinted = true) : c ∉ text :=
  fun member => ne_of_printed control (List.all_eq_true.1 printed c member) rfl

theorem notMem_replicate {x : Char} (printed : isPrinted x = true) (n : Nat) :
    c ∉ List.replicate n x :=
  fun member => ne_of_printed control printed (List.eq_of_mem_replicate member)

theorem notMem_toDigits {base : Nat} (large : 1 < base) (n : Nat) : c ∉ Nat.toDigits base n := by
  have noDigit : ∀ m, c ≠ Nat.digitChar m := by
    intro m
    refine (Nat.digitChar_ne c ?_).symm
    have other : ∀ x, isPrinted x = true → (c != x) = true :=
      fun _ printed => bne_iff_ne.2 (ne_of_printed control printed)
    simp [other, isPrinted]
  induction n using Nat.strongRecOn with
  | ind n ih =>
    by_cases single : n < base
    · rw [Nat.toDigits_of_lt_base single, List.mem_singleton]
      exact noDigit n
    · have shorter : n / base < n := Nat.div_lt_self (by omega) large
      rw [Nat.toDigits_of_base_le large (by omega), List.mem_append, List.mem_singleton]
      rintro (member | same)
      · exact ih _ shorter member
      · exact noDigit _ same

theorem notMem_repr (n : Nat) : c ∉ n.repr.toList := by
  rw [Nat.toList_repr]
  exact notMem_toDigits control (by decide) n

theorem notMem_locationText {loc : Location} (file : c ∉ loc.file.toList) :
    c ∉ loc.text.toList := by
  simp only [Location.text, String.toList_append, List.mem_append, not_or]
  have colon : c ∉ ":".toList := notMem_of_printed control rfl
  exact ⟨⟨⟨⟨file, colon⟩, notMem_repr control _⟩, colon⟩, notMem_repr control _⟩

theorem notMem_emptyGutter (line : Nat) : c ∉ shown (emptyGutter line) := by
  rw [shown_emptyGutter, List.mem_append, not_or]
  exact ⟨notMem_replicate control rfl _, notMem_of_printed control rfl⟩

theorem notMem_locationRow {loc : Location} (file : c ∉ loc.file.toList) :
    c ∉ shown (locationRow loc) := by
  rw [shown_locationRow, List.mem_append, List.mem_append, not_or, not_or]
  exact ⟨⟨notMem_replicate control rfl _, notMem_of_printed control rfl⟩,
    notMem_locationText control file⟩

theorem notMem_sourceRow (line : Nat) {text : String} (inside : c ∉ text.toList) :
    c ∉ shown (sourceRow line text) := by
  rw [shown_sourceRow, List.mem_append, List.mem_append, not_or, not_or]
  exact ⟨⟨notMem_toDigits control (by decide) _, notMem_of_printed control rfl⟩, inside⟩

theorem notMem_behindCarets {text : String} (inside : c ∉ text.toList) :
    c ∉ behindCarets text := by
  unfold behindCarets
  split
  · exact List.not_mem_nil
  · rw [List.mem_cons, not_or]
    exact ⟨ne_of_printed control rfl, inside⟩

theorem notMem_labelRow (line : Nat) {label : Label} (inside : c ∉ label.text.toList) :
    c ∉ shown (labelRow line label) := by
  simp only [shown_labelRow, List.mem_append, not_or]
  exact ⟨⟨⟨⟨notMem_replicate control rfl _, notMem_of_printed control rfl⟩,
    notMem_replicate control rfl _⟩, notMem_replicate control rfl _⟩,
    notMem_behindCarets control inside⟩

theorem notMem_remarkRow (colour : Colour) {title text : String}
    (printed : title.toList.all isPrinted = true) (inside : c ∉ text.toList) :
    c ∉ shown (remarkRow colour title text) := by
  simp only [shown_remarkRow, List.mem_append, not_or]
  exact ⟨⟨⟨notMem_of_printed control rfl, notMem_of_printed control printed⟩,
    notMem_of_printed control rfl⟩, inside⟩

theorem Lacks.locationRows (lacks : d.Lacks c) {loc : Location}
    (located : d.location = some loc) : ∀ row ∈ d.locationRows loc, c ∉ shown row := by
  have gutter := notMem_emptyGutter control loc.line
  have location := notMem_locationRow control (lacks.file located)
  cases source : d.sourceLine with
  | none => simp [Diagnostic.locationRows, source, gutter, location]
  | some text =>
    intro row member
    simp only [Diagnostic.locationRows, source, Option.elim_some, List.cons_append,
      List.nil_append, List.mem_cons, List.mem_append, List.mem_map, List.not_mem_nil,
      or_false] at member
    obtain rfl | rfl | rfl | ⟨label, member, rfl⟩ | rfl := member
    · exact location
    · exact gutter
    · exact notMem_sourceRow control _ (lacks.sourceLine source)
    · exact notMem_labelRow control _ (lacks.label member)
    · exact gutter

/-- The rows of a diagnostic hold no control character but those in its texts. -/
theorem Lacks.rows (lacks : d.Lacks c) : ∀ row ∈ d.rows, c ∉ shown row := by
  have message : c ∉ shown d.messageRow := by
    simp only [shown_messageRow, List.mem_append, not_or]
    exact ⟨⟨⟨notMem_of_printed control rfl, lacks.code⟩,
      notMem_of_printed control rfl⟩, lacks.message⟩
  have location : ∀ row ∈ d.location.elim [] d.locationRows, c ∉ shown row := by
    cases located : d.location with
    | none => simp
    | some loc => exact lacks.locationRows control located
  have help : ∀ row ∈ (d.help.map (remarkRow .green "help")).toList, c ∉ shown row := by
    intro row member
    obtain ⟨text, given, rfl⟩ := Option.map_eq_some_iff.1 (Option.mem_toList.1 member)
    exact notMem_remarkRow control _ rfl (lacks.help given)
  have notes : ∀ row ∈ d.notes.map (remarkRow .cyan "note"), c ∉ shown row := by
    intro row member
    obtain ⟨text, given, rfl⟩ := List.mem_map.1 member
    exact notMem_remarkRow control _ rfl (lacks.note given)
  intro row member
  simp only [Diagnostic.rows, List.mem_append, List.mem_singleton] at member
  obtain ((rfl | member) | member) | member := member
  · exact message
  · exact location row member
  · exact help row member
  · exact notes row member

end Lacks

theorem OneLine.rows {d : Diagnostic} (oneLine : OneLine d) : ∀ row ∈ d.rows, '\n' ∉ shown row :=
  oneLine.lacks.rows rfl

/-! ## The block of the location -/

/-- The number of rows that show the line and its labels. -/
def sourceRows (d : Diagnostic) : Nat :=
  d.sourceLine.elim 0 fun _ => 1 + d.labels.length

/-- A row of carets, from the character at `first` to the one at `last`: nothing but spaces between
    its bar and the carets, and the text of the label behind them, if there is any. -/
structure CaretRow (column first last : Nat) (text : String) (row : List Char) : Prop where
  bar : row[column]? = some '|'
  gap : ∀ i, column < i → i < first → row[i]? = some ' '
  carets : ∀ i, first ≤ i → i ≤ last → row[i]? = some '^'
  behind : row.drop (last + 1) = behindCarets text

/-- The rows that a located diagnostic is displayed in. -/
structure LaidOut (d : Diagnostic) (loc : Location) (rows : List (List Char)) : Prop where
  display : (d.display false).toList = rows.flatMap (· ++ ['\n'])
  oneLine : ∀ row ∈ rows, '\n' ∉ row
  count : rows.length =
    1 + 2 + d.sourceRows + 1 + (if d.help.isSome then 1 else 0) + d.notes.length
  location : rows[1]? =
    some (List.replicate (digits loc.line) ' ' ++ "--> ".toList ++ loc.text.toList)
  -- The block goes on to the last row in front of the help, and begins and ends with a bare row.
  bare : ∀ i, i = 2 ∨ i = 3 + d.sourceRows →
    rows[i]? = some (List.replicate (digits loc.line + 1) ' ' ++ ['|'])
  bars : ∀ i, 2 ≤ i → i < 1 + 2 + d.sourceRows + 1 →
    ∃ row, rows[i]? = some row ∧ row[digits loc.line + 1]? = some '|'
  sourceLine : ∀ text ∈ d.sourceLine, ∃ front, front.length = digits loc.line + 3 ∧
    rows[3]? = some (front ++ text.toList)
  carets : ∀ text ∈ d.sourceLine, ∀ i label, d.labels[i]? = some label →
    ∃ row, rows[4 + i]? = some row ∧
      CaretRow (digits loc.line + 1) (digits loc.line + 3 + max label.column 1 - 1)
        (digits loc.line + 3 + max label.column 1 - 1 + max label.length 1 - 1) label.text row

theorem caretRow_append (margin gap carets : Nat) (text : String) :
    CaretRow margin (margin + 1 + gap) (margin + 1 + gap + carets) text
      (List.replicate margin ' ' ++ ['|'] ++ List.replicate gap ' ' ++
        List.replicate (carets + 1) '^' ++ behindCarets text) := by
  have toBar : (List.replicate margin ' ' ++ ['|']).length = margin + 1 := by simp
  have toCarets : (List.replicate margin ' ' ++ ['|'] ++ List.replicate gap ' ').length =
      margin + 1 + gap := by
    rw [List.length_append, toBar, List.length_replicate]
  refine ⟨by simp, ?_, ?_, ?_⟩
  · intro i low high
    have inGap : i - (margin + 1) < gap := by omega
    rw [List.append_assoc, List.getElem?_append_left (by omega),
      List.getElem?_append_right (by omega), toBar, List.getElem?_replicate, if_pos inGap]
  · intro i low high
    have inCarets : i - (margin + 1 + gap) < carets + 1 := by omega
    rw [List.append_assoc, List.getElem?_append_right (by omega), toCarets,
      List.getElem?_append_left (by rwa [List.length_replicate]), List.getElem?_replicate,
      if_pos inCarets]
  · refine List.drop_left' ?_
    rw [List.length_append, toCarets, List.length_replicate, Nat.add_assoc _ carets]

theorem caretRow_labelRow (line : Nat) (label : Label) :
    CaretRow (digits line + 1) (digits line + 3 + max label.column 1 - 1)
      (digits line + 3 + max label.column 1 - 1 + max label.length 1 - 1) label.text
      (shown (labelRow line label)) := by
  have row := caretRow_append (digits line + 1) (label.column - 1 + 1) (max label.length 1 - 1)
    label.text
  have first : digits line + 1 + 1 + (label.column - 1 + 1) =
      digits line + 3 + max label.column 1 - 1 := by omega
  have count : max label.length 1 - 1 + 1 = max label.length 1 := by omega
  have last : digits line + 3 + max label.column 1 - 1 + (max label.length 1 - 1) =
      digits line + 3 + max label.column 1 - 1 + max label.length 1 - 1 := by omega
  rw [first, count, last] at row
  rw [shown_labelRow]
  exact row

/-! ## All rows -/

/-- The rows of the line and its labels. -/
def block (d : Diagnostic) (line : Nat) : List (List Span) :=
  d.sourceLine.elim [] fun text => sourceRow line text :: d.labels.map (labelRow line)

def remarks (d : Diagnostic) : List (List Span) :=
  (d.help.map (remarkRow .green "help")).toList ++ d.notes.map (remarkRow .cyan "note")

section Rows

variable {d : Diagnostic} {loc : Location}

theorem rows_eq (located : d.location = some loc) :
    d.rows = d.messageRow :: locationRow loc ::
      ((emptyGutter loc.line :: d.block loc.line) ++ emptyGutter loc.line :: d.remarks) := by
  simp [rows, located, Diagnostic.locationRows, block, remarks]

theorem length_block (d : Diagnostic) (line : Nat) : (d.block line).length = d.sourceRows := by
  cases source : d.sourceLine with
  | none => simp [block, sourceRows, source]
  | some text => simp [block, sourceRows, source, Nat.add_comm]

theorem length_remarks (d : Diagnostic) :
    d.remarks.length = (if d.help.isSome then 1 else 0) + d.notes.length := by
  cases given : d.help <;> simp [remarks, given, Nat.add_comm]

theorem bar_of_mem_block {line : Nat} {row : List Span} (member : row ∈ d.block line) :
    (shown row)[digits line + 1]? = some '|' := by
  cases source : d.sourceLine with
  | none => simp [block, source] at member
  | some text =>
    rw [block, source] at member
    obtain rfl | member := List.mem_cons.1 member
    · simp [shown_sourceRow, digits]
    · obtain ⟨label, -, rfl⟩ := List.mem_map.1 member
      exact (caretRow_labelRow line label).bar

/-- The rows between the empty gutters have their bars where these have them. -/
theorem bar_of_mem_gutters {line : Nat} {row : List Span}
    (member : row ∈ emptyGutter line :: d.block line ++ [emptyGutter line]) :
    (shown row)[digits line + 1]? = some '|' := by
  have gutter : (shown (emptyGutter line))[digits line + 1]? = some '|' := by
    simp [shown_emptyGutter]
  rw [List.mem_append, List.mem_cons, List.mem_singleton] at member
  obtain (rfl | member) | rfl := member
  · exact gutter
  · exact bar_of_mem_block member
  · exact gutter

/-- A located diagnostic without LFs in its texts is displayed in rows, of which those of its block
    are aligned with each other. -/
theorem OneLine.laidOut (oneLine : OneLine d) (located : d.location = some loc) :
    LaidOut d loc (d.rows.map shown) where
  display := by rw [Diagnostic.display, String.toList_ofList, Span.writeRows_eq]
  oneLine := by
    intro row member
    obtain ⟨spans, laid, rfl⟩ := List.mem_map.1 member
    exact oneLine.rows spans laid
  count := by
    rw [List.length_map, rows_eq located]
    simp only [List.length_cons, List.length_append, length_block, length_remarks]
    omega
  location := by rw [rows_eq located, List.map_cons, List.map_cons, ← shown_locationRow]; rfl
  bare := by
    have atEnd : (d.block loc.line).length = d.sourceRows := length_block d loc.line
    rintro i (rfl | rfl)
    · rw [rows_eq located, ← shown_emptyGutter]
      rfl
    · rw [rows_eq located, Nat.add_comm, List.getElem?_map, ← shown_emptyGutter]
      simp [← atEnd]
  bars := by
    intro i low high
    obtain ⟨j, rfl⟩ := Nat.exists_eq_add_of_le' low
    have inBlock :
        j < (emptyGutter loc.line :: d.block loc.line ++ [emptyGutter loc.line]).length := by
      simp only [List.length_append, List.length_cons, List.length_nil, length_block]
      omega
    obtain ⟨row, found⟩ : ∃ row,
        (emptyGutter loc.line :: d.block loc.line ++ [emptyGutter loc.line])[j]? = some row :=
      ⟨_, List.getElem?_eq_getElem inBlock⟩
    refine ⟨shown row, ?_, bar_of_mem_gutters (List.mem_of_getElem? found)⟩
    rw [rows_eq located, List.append_cons, List.getElem?_map]
    simp only [List.getElem?_cons_succ, List.getElem?_append_left inBlock, found, Option.map_some]
  sourceLine := by
    intro text source
    refine ⟨Nat.toDigits 10 loc.line ++ [' ', '|', ' '], by simp [digits], ?_⟩
    rw [rows_eq located, block, source, ← shown_sourceRow]
    rfl
  carets := by
    intro text source i label member
    have laid : (d.labels.map (labelRow loc.line))[i]? = some (labelRow loc.line label) := by
      rw [List.getElem?_map, member, Option.map_some]
    obtain ⟨inLabels, -⟩ := List.getElem?_eq_some_iff.1 laid
    refine ⟨_, ?_, caretRow_labelRow loc.line label⟩
    rw [rows_eq located, block, source, Nat.add_comm, List.getElem?_map]
    simp only [Option.elim_some, List.cons_append, List.getElem?_cons_succ,
      List.getElem?_append_left inLabels, laid, Option.map_some]

end Rows

end Diagnostic

end LoxFront
