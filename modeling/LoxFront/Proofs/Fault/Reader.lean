import LoxFront.Proofs.Segment.Place

/-! # The faults of a text, read off character by character

A reader goes through a text one character at a time and knows no tokens.  All that it remembers is
whether it is in code, in a comment, or in a string, and where the string was opened; in code it
also sees the next character, to tell a comment from a slash.  `faults_eq_read` says that it finds
the faults of the scan.

The scan moves by whole segments, so the two are compared where a segment ends.  There the reader is
back in code (`read_segment`); only behind a comment it is not, but then what follows is a LF or
nothing, on which both modes agree.
-/

namespace LoxFront

open Text (byteLength)

/-- What a reader is in the middle of; a string is known by the offset of its opening quote. -/
inductive Mode where
  | code
  | comment
  | string (opening : Nat)
deriving DecidableEq, Repr

/-- A fault without the line on which it is noticed. -/
structure Spot where
  kind : FaultKind
  offset : Nat
  length : Nat
deriving DecidableEq, Repr

def Fault.spot (f : Fault) : Spot :=
  ⟨f.kind, f.offset, f.length⟩

/-- The characters that may stand in code: ASCII letters, digits, the underscore, white space, the
    double quote, and those that marks are made of. -/
def isKnown (c : Char) : Bool :=
  c.isAlpha || c.isDigit ||
    ['_', ' ', '\t', '\r', '\n', '"', '(', ')', '{', '}', ',', '.', '-', '+', ';', '*',
      '!', '=', '<', '>', '/'].contains c

namespace Mode

/-- Read the character at an offset, with the next one in sight: the mode behind it, and the fault
    that it is, if it is one. -/
def step (mode : Mode) (offset : Nat) (c : Char) (next : Option Char) : Mode × Option Spot :=
  match mode with
  | code =>
      if c = '"' then (string offset, none)
      else if c = '/' ∧ next = some '/' then (comment, none)
      else if isKnown c then (code, none)
      else (code, some ⟨.unexpectedCharacter c, offset, c.utf8Size⟩)
  | comment => (if c = '\n' then code else comment, none)
  | string opening => (if c = '"' then code else string opening, none)

/-- What is wrong when the text ends at an offset. -/
def finish : Mode → Nat → Option Spot
  | string opening, offset => some ⟨.unterminatedString, opening, offset - opening⟩
  | _, _ => none

def read (mode : Mode) (offset : Nat) : List Char → List Spot
  | [] => (mode.finish offset).toList
  | c :: rest =>
      let taken := mode.step offset c rest.head?
      taken.2.toList ++ taken.1.read (offset + c.utf8Size) rest

theorem read_cons {mode after : Mode} {offset : Nat} {c : Char} {rest : List Char}
    (h : mode.step offset c rest.head? = (after, none)) :
    mode.read offset (c :: rest) = after.read (offset + c.utf8Size) rest := by
  rw [read, h]
  rfl

/-! ## Runs of characters that change nothing -/

/-- Whether a character leaves the reader as it is, wherever it stands and whatever comes next. -/
def Keeps (mode : Mode) (c : Char) : Prop :=
  ∀ offset next, mode.step offset c next = (mode, none)

theorem read_run {mode : Mode} {run : List Char} (keeps : ∀ c ∈ run, mode.Keeps c) (offset : Nat)
    (rest : List Char) :
    mode.read offset (run ++ rest) = mode.read (offset + byteLength run) rest := by
  induction run generalizing offset with
  | nil => rfl
  | cons c run ih =>
    obtain ⟨first, others⟩ := List.forall_mem_cons.1 keeps
    rw [List.cons_append, read_cons (first _ _), ih others, Text.byteLength_cons, Nat.add_assoc]

/-- Whether a character may stand in code and is neither a quote nor a slash. -/
def isQuiet (c : Char) : Bool :=
  isKnown c && c != '"' && c != '/'

theorem keeps_code {run : List Char} (quiet : run.all isQuiet = true) :
    ∀ c ∈ run, code.Keeps c := by
  intro c member offset next
  have first := List.all_eq_true.1 quiet c member
  simp only [isQuiet, Bool.and_eq_true, bne_iff_ne] at first
  obtain ⟨⟨known, noQuote⟩, noSlash⟩ := first
  simp [step, known, noQuote, noSlash]

theorem keeps_comment {run : List Char} (inside : '\n' ∉ run) : ∀ c ∈ run, comment.Keeps c := by
  intro c member offset next
  have other : c ≠ '\n' := ne_of_mem_of_not_mem member inside
  simp [step, other]

theorem keeps_string {run : List Char} (inside : '"' ∉ run) (opening : Nat) :
    ∀ c ∈ run, (string opening).Keeps c := by
  intro c member offset next
  have other : c ≠ '"' := ne_of_mem_of_not_mem member inside
  simp [step, other]

theorem read_comment_end {rest : List Char} (stops : rest.head?.any (· != '\n') = false)
    (offset : Nat) : comment.read offset rest = code.read offset rest := by
  cases rest with
  | nil => rfl
  | cons c rest =>
    have newline : c = '\n' := by simpa using stops
    subst newline
    rfl

/-! ## Segments -/

def singleMarks : List Char :=
  ['(', ')', '{', '}', ',', '.', '-', '+', ';', '*', '!', '=', '<', '>', '/']

theorem isSome_ofSpelling?_iff {c : Char} :
    (Punct.ofSpelling? [c]).isSome = true ↔ c ∈ singleMarks := by
  constructor
  · intro found
    obtain ⟨p, hp⟩ := Option.isSome_iff_exists.1 found
    have spelled := Punct.ofSpelling?_eq_some_iff.1 hp
    cases p <;> simp [Punct.spelling] at spelled <;> subst spelled <;> simp [singleMarks]
  · intro member
    have each : singleMarks.all (fun d => (Punct.ofSpelling? [d]).isSome) = true := rfl
    exact List.all_eq_true.1 each c member

theorem isKnown_eq (c : Char) : isKnown c = !startsNothing c := by
  rw [startsNothing, Bool.not_not, Bool.eq_iff_iff]
  simp only [isKnown, isBlank, isWordStart, Bool.or_eq_true, beq_iff_eq, isSome_ofSpelling?_iff,
    singleMarks, List.contains_iff_mem, List.mem_cons, List.not_mem_nil, or_false]
  grind

theorem isQuiet_of_isWordPart {c : Char} (h : isWordPart c = true) : isQuiet c = true := by
  have known : isKnown c = true := by
    simp only [isWordPart, Char.isAlphanum, Bool.or_eq_true, beq_iff_eq] at h
    obtain rfl | alpha | digit := h
    · rfl
    · simp [isKnown, alpha]
    · simp [isKnown, digit]
  have noQuote : c ≠ '"' := ne_of_class h rfl
  have noSlash : c ≠ '/' := ne_of_class h rfl
  simp [isQuiet, known, noQuote, noSlash]

theorem isQuiet_of_isDigit {c : Char} (h : c.isDigit = true) : isQuiet c = true :=
  isQuiet_of_isWordPart (by simp [isWordPart, Char.isAlphanum, h])

theorem isQuiet_of_isBlank {c : Char} (h : isBlank c = true) : isQuiet c = true := by
  simp only [isBlank, Bool.or_eq_true, beq_iff_eq] at h
  obtain (rfl | rfl) | rfl := h <;> rfl

theorem all_isQuiet_numeral {n : Numeral} (wellFormed : n.WellFormed) :
    n.text.all isQuiet = true := by
  rw [List.all_eq_true]
  intro c member
  obtain digit | rfl := Numeral.isDigit_or_point_of_mem_text wellFormed c member
  · exact isQuiet_of_isDigit digit
  · rfl

/-- A slash that no other follows is a mark like any other. -/
theorem read_punct {p : Punct} {rest : List Char} (stops : rest.head?.any p.joins = false)
    (offset : Nat) :
    code.read offset (p.spelling ++ rest) = code.read (offset + byteLength p.spelling) rest := by
  cases p with
  | slash =>
    have alone : rest.head? ≠ some '/' := by
      intro second
      simp [second, Punct.joins] at stops
    have stays : code.step offset '/' rest.head? = (code, none) := by
      simp [step, alone, show isKnown '/' = true from rfl]
    exact read_cons stays
  | _ => exact read_run (keeps_code rfl) offset rest

theorem read_comment {body rest : List Char} (inside : '\n' ∉ body)
    (stops : rest.head?.any (· != '\n') = false) (offset : Nat) :
    code.read offset ('/' :: '/' :: body ++ rest) =
      code.read (offset + byteLength ('/' :: '/' :: body)) rest := by
  have opens : code.step offset '/' ('/' :: body ++ rest).head? = (comment, none) := rfl
  -- The second slash is the first character inside the comment.
  have inside : '\n' ∉ '/' :: body := by simp [inside]
  rw [List.cons_append, read_cons opens, read_run (keeps_comment inside), read_comment_end stops,
    Nat.add_assoc, ← Text.byteLength_cons]

theorem read_string {body : List Char} (inside : '"' ∉ body) (rest : List Char) (offset : Nat) :
    code.read offset ('"' :: (body ++ ['"']) ++ rest) =
      code.read (offset + byteLength ('"' :: (body ++ ['"']))) rest := by
  have opens : code.step offset '"' (body ++ ['"'] ++ rest).head? = (string offset, none) := rfl
  rw [List.cons_append, read_cons opens, List.append_assoc, read_run (keeps_string inside _)]
  -- What follows the quote that closes the string makes no difference.
  have closes : ∀ at' next, (string offset).step at' '"' next = (code, none) := fun _ _ => rfl
  rw [List.singleton_append, read_cons (closes _ _)]
  simp [Nat.add_assoc]

theorem read_openString {body : List Char} (inside : '"' ∉ body) (offset : Nat) :
    code.read offset ('"' :: body) =
      [⟨.unterminatedString, offset, byteLength ('"' :: body)⟩] := by
  have opens : code.step offset '"' body.head? = (string offset, none) := rfl
  have ends := read_run (keeps_string inside offset) (offset + '"'.utf8Size) []
  rw [List.append_nil] at ends
  rw [read_cons opens, ends]
  simp only [read, finish, Option.toList_some, Text.byteLength_cons]
  rw [Nat.add_assoc, Nat.add_sub_cancel_left]

theorem read_stray {c : Char} (stray : startsNothing c = true) (rest : List Char) (offset : Nat) :
    code.read offset (c :: rest) =
      ⟨.unexpectedCharacter c, offset, c.utf8Size⟩ :: code.read (offset + c.utf8Size) rest := by
  have unknown : isKnown c = false := by simp [isKnown_eq, stray]
  have noQuote : '"' ≠ c := ne_of_class (p := isKnown) rfl unknown
  have noSlash : '/' ≠ c := ne_of_class (p := isKnown) rfl unknown
  simp [read, step, unknown, noQuote.symm, noSlash.symm]

/-- Over a segment the reader finds the fault that the segment is, and is back in code. -/
theorem read_segment {s : Segment} (wellFormed : s.WellFormed) {rest : List Char}
    (stops : s.goesOn rest = false) (p : Place) :
    code.read p.offset (s.text ++ rest) =
      ((Placed.fault? ⟨s, p⟩).map Fault.spot).toList ++
        code.read (p.after s.text).offset rest := by
  cases s with
  | blank c =>
    have quiet : [c].all isQuiet = true := by simpa using isQuiet_of_isBlank wellFormed
    exact read_run (keeps_code quiet) p.offset rest
  | newline => exact read_run (keeps_code rfl) p.offset rest
  | comment body => exact read_comment wellFormed stops p.offset
  | punct mark => exact read_punct stops p.offset
  | word letters =>
    have quiet : letters.all isQuiet = true := by
      rw [List.all_eq_true]
      intro c member
      exact isQuiet_of_isWordPart (wellFormed.2 c member)
    exact read_run (keeps_code quiet) p.offset rest
  | numeral n => exact read_run (keeps_code (all_isQuiet_numeral wellFormed)) p.offset rest
  | string body => exact read_string wellFormed rest p.offset
  | openString body =>
    obtain rfl : rest = [] := by simpa [Segment.goesOn] using stops
    rw [List.append_nil]
    exact read_openString wellFormed p.offset
  | stray c => exact read_stray wellFormed rest p.offset

end Mode

/-! ## Texts -/

theorem read_segments (p : Place) (text : List Char) :
    ((Placed.layOut p (segments text)).filterMap Placed.fault?).map Fault.spot =
      Mode.code.read p.offset text := by
  fun_induction segments text generalizing p with
  | case1 => rfl
  | case2 c rest ih =>
    -- Both go on from the place behind the first segment.
    have first := Mode.read_segment (Segment.wellFormed_cut c rest) (Segment.goesOn_cut c rest) p
    rw [Segment.text_cut, ← ih (p.after (Segment.cut c rest).1.text)] at first
    rw [first, Placed.layOut, List.filterMap_cons]
    cases Placed.fault? ⟨(Segment.cut c rest).1, p⟩ <;> rfl

/-- The faults of a scan are, in order, those that a reader finds who goes through the source
    one character at a time.  They lie one behind another without overlap; an unterminated string
    is the last of them, and its span ends with the source. -/
theorem faults_eq_read (source : String) :
    (scan source).faults.map Fault.spot = Mode.code.read 0 source.toList ∧
    (scan source).faults.Pairwise (fun f g => f.offset < g.offset) ∧
    (scan source).faults.Pairwise (fun f g => f.offset + f.length ≤ g.offset) ∧
    ∀ (before : List Fault) (f : Fault) (after : List Fault),
      (scan source).faults = before ++ f :: after → f.kind = .unterminatedString →
      after = [] ∧ (∀ g ∈ before, g.kind ≠ .unterminatedString) ∧
        f.offset + f.length = source.utf8ByteSize := by
  have disjoint := pairwise_faults source
  refine ⟨read_segments .start source.toList, ?_, disjoint, ?_⟩
  · refine disjoint.imp_of_mem ?_
    intro f g hf _ order
    have := (span_of_mem_faults hf).1
    omega
  · intro before f after split unterminated
    have inside : ∀ g ∈ (scan source).faults, 0 < g.length ∧
        g.offset + g.length ≤ source.utf8ByteSize ∧
        (g.kind = .unterminatedString → g.offset + g.length = source.utf8ByteSize) :=
      fun g member => span_of_mem_faults member
    have ends := (inside f (by simp [split])).2.2 unterminated
    -- Nothing lies behind a span that ends with the source.
    have last : ∀ g ∈ (scan source).faults, ¬ f.offset + f.length ≤ g.offset := by
      intro g member order
      obtain ⟨positive, bound, -⟩ := inside g member
      omega
    rw [split] at disjoint inside last
    obtain ⟨-, behind, across⟩ := List.pairwise_append.1 disjoint
    refine ⟨?_, ?_, ends⟩
    · cases after with
      | nil => rfl
      | cons g after =>
        exact absurd ((List.pairwise_cons.1 behind).1 g (by simp)) (last g (by simp))
    · intro g member unterminated'
      have order := across g member f (by simp)
      have ends' := (inside g (by simp [member])).2.2 unterminated'
      obtain ⟨positive, bound, -⟩ := inside f (by simp)
      omega

-- The first quote is in a comment, the second one opens a string.
example : Mode.code.read 0 ['/', '/', '"', '\n', '@', '"'] =
    [⟨.unexpectedCharacter '@', 4, 1⟩, ⟨.unterminatedString, 5, 1⟩] := by decide

end LoxFront
