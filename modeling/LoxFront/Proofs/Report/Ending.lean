import LoxFront.Diagnostic.Layout
import LoxFront.Proofs.Listing.Ending
import LoxFront.Proofs.Report.Check
import LoxFront.Proofs.Scan.Join

/-! # Sources with other line endings

A source whose lines end by CR LF is read as if they ended by LF: its tokens are the same but for
the line endings inside strings, and its diagnostics are the same in full (`check_withLF`), although
its faults have other offsets and lengths.

The two scans go along each other segment by segment.  A CR in front of a LF is a blank of its own,
or ends a comment, or stands inside a string, so each segment has a counterpart in the other source
(`exists_respelled`) or is such a blank and has none.  What carries the induction is that whatever
of the source stands in front of a segment and whatever stands in front of its counterpart make up
the two whole sources with what is behind them.
-/

namespace LoxFront

open Text (byteLength newlines lfEndings lineBefore shownAfter)

/-- A source with every CR LF written as a LF. -/
def withLF (source : String) : String :=
  String.ofList (lfEndings source.toList)

def Literal.withLF : Literal → Literal
  | string value => string (LoxFront.withLF value)
  | number value => number value

/-- A token with every CR LF in it written as a LF; only strings can hold any. -/
def Token.withLF (t : Token) : Token :=
  match t.kind with
  | .string => { t with
      lexeme := LoxFront.withLF t.lexeme
      literal := t.literal.map Literal.withLF }
  | _ => t

theorem toList_withLF (source : String) : (withLF source).toList = lfEndings source.toList :=
  String.toList_ofList

theorem lastLine_withLF (source : String) : lastLine (withLF source) = lastLine source := by
  simp only [lastLine, Place.after, toList_withLF, Text.newlines_lfEndings]

/-! ## Segments -/

namespace Segment

/-- What becomes of a segment where every CR LF is written as a LF.  Of a comment only its end can
    change, but nothing is found in it, so all comments go together. -/
inductive Respelled : Segment → Segment → Prop where
  | blank (c : Char) : Respelled (blank c) (blank c)
  | newline : Respelled newline newline
  | comment (body body' : List Char) : Respelled (comment body) (comment body')
  | punct (p : Punct) : Respelled (punct p) (punct p)
  | word (letters : List Char) : Respelled (word letters) (word letters)
  | numeral (n : Numeral) : Respelled (numeral n) (numeral n)
  | string (body : List Char) : Respelled (string body) (string (lfEndings body))
  | openString (body : List Char) : Respelled (openString body) (openString (lfEndings body))
  | stray (c : Char) : Respelled (stray c) (stray c)

theorem lfEndings_text_string (body rest : List Char) :
    lfEndings ((string body).text ++ rest) =
      (string (lfEndings body)).text ++ lfEndings rest := by
  have quote (behind : List Char) : lfEndings ('"' :: behind) = '"' :: lfEndings behind :=
    Text.lfEndings_cons_of_ne (by decide) behind
  have inner : lfEndings (body ++ '"' :: rest) = lfEndings body ++ '"' :: lfEndings rest := by
    rw [Text.lfEndings_append (by simp), quote]
  simp [text, quote, inner]

theorem lfEndings_text_comment {body rest : List Char} (inside : '\n' ∉ body)
    (apart : body.getLast? = some '\r' → rest.head? ≠ some '\n') :
    lfEndings ((comment body).text ++ rest) = (comment body).text ++ lfEndings rest := by
  have slash (behind : List Char) : lfEndings ('/' :: behind) = '/' :: lfEndings behind :=
    Text.lfEndings_cons_of_ne (by decide) behind
  have inner : lfEndings (body ++ rest) = body ++ lfEndings rest := by
    rw [Text.lfEndings_append apart, Text.lfEndings_eq_self inside]
  simp [text, slash, inner]

theorem Respelled.token? {s s' : Segment} (respelled : Respelled s s') (line : Nat) :
    s'.token? line = (s.token? line).map Token.withLF := by
  cases respelled with
  | word letters =>
    simp only [Segment.token?, kind?]
    cases Keyword.ofSpelling? letters <;> rfl
  | string body =>
    have spelled := lfEndings_text_string body []
    simp only [List.append_nil, Text.lfEndings_nil] at spelled
    simp [Segment.token?, kind?, literal?, Token.withLF, Literal.withLF, withLF, spelled]
  | _ => rfl

theorem goesOn_lfEndings {s : Segment} {rest : List Char} (stops : s.goesOn rest = false) :
    s.goesOn (lfEndings rest) = false := by
  by_cases isOpen : s.isOpen = true
  · have nothing := rest_of_isOpen isOpen stops
    rw [nothing] at stops ⊢
    exact stops
  · have ended := isEndedBy_newline (Bool.not_eq_true _ ▸ isOpen)
    exact goesOn_of_head? ended stops (fun p => Text.any_head?_lfEndings)
      Numeral.opensFraction_lfEndings

/-- Every segment has a counterpart, except that a CR in front of a LF has none. -/
theorem exists_respelled {s : Segment} {rest : List Char} (wellFormed : s.WellFormed)
    (stops : s.goesOn rest = false) (kept : s = blank '\r' → rest.head? ≠ some '\n') :
    ∃ s', Respelled s s' ∧ s'.WellFormed ∧ s'.goesOn (lfEndings rest) = false ∧
      lfEndings (s.text ++ rest) = s'.text ++ lfEndings rest := by
  have stops' := goesOn_lfEndings stops
  -- Most segments hold no CR, so they are their own counterparts.
  have same (noCR : '\r' ∉ s.text) (respelled : Respelled s s) :
      ∃ s', Respelled s s' ∧ s'.WellFormed ∧ s'.goesOn (lfEndings rest) = false ∧
        lfEndings (s.text ++ rest) = s'.text ++ lfEndings rest :=
    ⟨s, respelled, wellFormed, stops', Text.lfEndings_append_left noCR rest⟩
  cases s with
  | newline => exact same (by decide) .newline
  | punct p => exact same (by cases p <;> decide) (.punct p)
  | word letters =>
    refine same ?_ (.word letters)
    intro member
    exact absurd (wellFormed.2 _ member) (by decide)
  | numeral n =>
    refine same ?_ (.numeral n)
    have inside := Numeral.isDigit_or_point_of_mem_text wellFormed
    intro member
    exact absurd (inside _ member) (by decide)
  | stray c =>
    refine same ?_ (.stray c)
    have := ne_of_class (show startsNothing c = true from wellFormed) (d := '\r') rfl
    simpa [text] using this.symm
  | blank c =>
    have spelled : lfEndings (c :: rest) = c :: lfEndings rest :=
      Text.lfEndings_cons fun cr => kept (by rw [cr])
    exact ⟨_, .blank c, wellFormed, stops', spelled⟩
  | comment body =>
    by_cases ended : body.getLast? = some '\r' ∧ rest.head? = some '\n'
    · -- The CR belongs to the line ending and not to the comment.
      obtain ⟨body', rfl⟩ := List.getLast?_eq_some_iff.1 ended.1
      obtain ⟨tail, rfl⟩ := List.head?_eq_some_iff.1 ended.2
      have inside : '\n' ∉ body' := fun member => wellFormed (List.mem_append_left _ member)
      have spelled := lfEndings_text_comment inside
        (show body'.getLast? = some '\r' → ('\r' :: '\n' :: tail).head? ≠ some '\n' by simp)
      have newline : lfEndings ('\n' :: tail) = '\n' :: lfEndings tail :=
        Text.lfEndings_cons_of_ne (by decide) tail
      refine ⟨_, .comment _ body', inside, stops', ?_⟩
      rw [newline, ← Text.lfEndings_crlf, ← spelled]
      simp [text]
    · exact ⟨_, .comment body body, wellFormed, stops',
        lfEndings_text_comment wellFormed fun cr lf => ended ⟨cr, lf⟩⟩
  | string body =>
    have inside : '"' ∉ lfEndings body := by
      rw [Text.mem_lfEndings (by decide)]
      exact wellFormed
    exact ⟨_, .string body, inside, rfl, lfEndings_text_string body rest⟩
  | openString body =>
    have inside : '"' ∉ lfEndings body := by
      rw [Text.mem_lfEndings (by decide)]
      exact wellFormed
    have nothing := rest_of_isOpen (s := openString body) rfl stops
    refine ⟨_, .openString body, inside, stops', ?_⟩
    subst nothing
    simp [text, Text.lfEndings_cons_of_ne]

end Segment

/-! ## The two scans -/

/-- What stands in front of a text in a source has its own counterpart, unless a CR LF stands across
    the two. -/
theorem eq_lfEndings_of_append {before before' text : List Char}
    (whole : lfEndings (before ++ text) = before' ++ lfEndings text)
    (apart : text.head? ≠ some '\n') : before' = lfEndings before := by
  rw [Text.lfEndings_append fun _ => apart] at whole
  exact (List.append_cancel_right whole).symm

theorem newlines_of_append {before before' text : List Char}
    (whole : lfEndings (before ++ text) = before' ++ lfEndings text) :
    newlines before' = newlines before := by
  have count := congrArg newlines whole
  simp only [Text.newlines_lfEndings, Text.newlines_append] at count
  omega

section Diagnoses

variable {source : String} {before before' rest : List Char}

theorem diagnose_withLF_stray (file : String) {c : Char} (strange : startsNothing c = true)
    (split : source.toList = before ++ c :: rest)
    (split' : lfEndings source.toList = before' ++ lfEndings (c :: rest)) (line : Nat) :
    (Listing.ofSource file (withLF source)).diagnose
        (.unexpectedCharacter c line (byteLength before')) =
      (Listing.ofSource file source).diagnose
        (.unexpectedCharacter c line (byteLength before)) := by
  have notLF : c ≠ '\n' := ne_of_class strange rfl
  have notCR : c ≠ '\r' := ne_of_class strange rfl
  have whole : (withLF source).toList = before' ++ c :: lfEndings rest := by
    rw [toList_withLF, split', Text.lfEndings_cons_of_ne notCR]
  have front : before' = lfEndings before :=
    eq_lfEndings_of_append (split ▸ split') (by simpa using notLF)
  rw [Listing.diagnose_unexpectedCharacter file whole notLF notCR,
    Listing.diagnose_unexpectedCharacter file split notLF notCR, front, Text.newlines_lfEndings,
    Text.lineBefore_lfEndings, Text.shownAfter_lfEndings]

theorem diagnose_withLF_openString (file : String) {body : List Char}
    (split : source.toList = before ++ '"' :: body)
    (split' : lfEndings source.toList = before' ++ lfEndings ('"' :: body)) (line : Nat) :
    (Listing.ofSource file (withLF source)).diagnose (.unterminatedString line
        (byteLength before') (byteLength ('"' :: lfEndings body))) =
      (Listing.ofSource file source).diagnose (.unterminatedString line
        (byteLength before) (byteLength ('"' :: body))) := by
  have whole : (withLF source).toList = before' ++ '"' :: lfEndings body := by
    rw [toList_withLF, split', Text.lfEndings_cons_of_ne (by decide)]
  have front : before' = lfEndings before :=
    eq_lfEndings_of_append (split ▸ split') (by simp)
  rw [Listing.diagnose_unterminatedString file whole,
    Listing.diagnose_unterminatedString file split, front, Text.newlines_lfEndings,
    Text.lineBefore_lfEndings, Text.shownAfter_lfEndings]

theorem Segment.Respelled.tokens_found {s s' : Segment} (respelled : Respelled s s')
    (lines : newlines before' = newlines before) :
    (Placed.found [⟨s', Place.start.after before'⟩]).tokens =
      (Placed.found [⟨s, Place.start.after before⟩]).tokens.map Token.withLF := by
  have token := respelled.token? (1 + newlines before)
  simp only [Placed.found, List.filterMap_cons, List.filterMap_nil, Placed.token?,
    Place.start_after, lines, token]
  cases s.token? (1 + newlines before) <;> rfl

/-- The fault that a segment is, and the one that its counterpart is, have the same diagnostic. -/
theorem Segment.Respelled.diagnose_eq (file : String) {s s' : Segment}
    (respelled : Respelled s s') (wellFormed : s.WellFormed) (stops : s.goesOn rest = false)
    (split : source.toList = before ++ (s.text ++ rest))
    (split' : lfEndings source.toList = before' ++ lfEndings (s.text ++ rest)) :
    (Placed.found [⟨s', Place.start.after before'⟩]).faults.map
        (Listing.ofSource file (withLF source)).diagnose =
      (Placed.found [⟨s, Place.start.after before⟩]).faults.map
        (Listing.ofSource file source).diagnose := by
  have lines : newlines before' = newlines before := newlines_of_append (split ▸ split')
  cases respelled with
  | stray c =>
    have same := diagnose_withLF_stray file wellFormed split split' (1 + newlines before)
    simp only [Placed.found, List.filterMap_cons, List.filterMap_nil, Placed.fault?,
      Place.start_after, lines, List.map_cons, List.map_nil, same]
  | openString body =>
    have nothing : rest = [] := Segment.rest_of_isOpen (s := .openString body) rfl stops
    simp only [nothing, List.append_nil] at split split'
    -- Both strings end on the last line.
    have line : (Placed.mk (.openString (lfEndings body))
          ⟨byteLength before', 1 + newlines before'⟩).stop.line =
        (Placed.mk (.openString body) ⟨byteLength before, 1 + newlines before⟩).stop.line := by
      simp [Placed.stop, Place.after, Segment.text, lines, Text.newlines_lfEndings]
    have same := diagnose_withLF_openString file split split'
    simp only [Placed.found, List.filterMap_cons, List.filterMap_nil, Placed.fault?, line,
      Place.start_after, Segment.text, List.map_cons, List.map_nil, same]
  | _ =>
    simp only [Placed.found, List.filterMap_cons, List.filterMap_nil, Placed.fault?, List.map_nil]

end Diagnoses

/-- Behind a place the source with LFs has the same tokens, but for the line endings in strings, and
    its faults have the same diagnostics. -/
theorem scanAt_lfEndings (file : String) {source : String} {text before before' : List Char}
    (split : source.toList = before ++ text)
    (split' : lfEndings source.toList = before' ++ lfEndings text) :
    (scanAt (Place.start.after before') (lfEndings text)).tokens =
        (scanAt (Place.start.after before) text).tokens.map Token.withLF ∧
      (scanAt (Place.start.after before') (lfEndings text)).faults.map
          (Listing.ofSource file (withLF source)).diagnose =
        (scanAt (Place.start.after before) text).faults.map
          (Listing.ofSource file source).diagnose := by
  induction text using segments_induction generalizing before before' with
  | nil => simp
  | cons s rest wellFormed stops ih =>
    by_cases dropped : s = .blank '\r' ∧ rest.head? = some '\n'
    · -- Only the source with CRs has a blank here, and the other one goes straight on.
      obtain ⟨rfl, newline⟩ := dropped
      obtain ⟨tail, rfl⟩ := List.head?_eq_some_iff.1 newline
      have text : (Segment.blank '\r').text ++ '\n' :: tail = '\r' :: '\n' :: tail := rfl
      rw [text] at split split' ⊢
      have shorter : lfEndings ('\r' :: '\n' :: tail) = lfEndings ('\n' :: tail) := by
        rw [Text.lfEndings_crlf, Text.lfEndings_cons_of_ne (by decide)]
      rw [shorter] at split' ⊢
      have behind : source.toList = (before ++ ['\r']) ++ '\n' :: tail := by simp [split]
      have found := ih behind split'
      rw [Place.after_append] at found
      rwa [scanAt_separator (c := '\r') rfl]
    · obtain ⟨s', respelled, wellFormed', stops', spelled⟩ :=
        Segment.exists_respelled wellFormed stops fun cr lf => dropped ⟨cr, lf⟩
      have first := respelled.diagnose_eq file wellFormed stops split split'
      have token := respelled.tokens_found (newlines_of_append (split ▸ split'))
      rw [spelled] at split' ⊢
      have behind : source.toList = (before ++ s.text) ++ rest := by rw [split, List.append_assoc]
      have behind' : lfEndings source.toList = (before' ++ s'.text) ++ lfEndings rest := by
        rw [split', List.append_assoc]
      obtain ⟨tokens, faults⟩ := ih behind behind'
      rw [Place.after_append, Place.after_append] at tokens faults
      rw [scanAt_segment wellFormed stops, scanAt_segment wellFormed' stops']
      simp only [Scan.tokens_append, Scan.faults_append, List.map_append, tokens, faults, token,
        first, and_self]

/-! ## Checking -/

/-- A source with every CR LF written as a LF has the same tokens on the same lines, but for the
    strings, in which CR LF is written as LF too.  Checking it gives the same diagnostics, so what
    is displayed of them is the same. -/
theorem check_withLF (file source : String) :
    (scan (withLF source)).tokens = (scan source).tokens.map Token.withLF ∧
    (∃ diagnostics, check file source = .ok ⟨(scan source).tokens, diagnostics⟩ ∧
      check file (withLF source) = .ok ⟨(scan source).tokens.map Token.withLF, diagnostics⟩) ∧
    ∀ colours,
      (check file (withLF source)).map (·.diagnostics.map (Diagnostic.display colours)) =
        (check file source).map (·.diagnostics.map (Diagnostic.display colours)) := by
  have whole : source.toList = [] ++ source.toList := rfl
  have whole' : lfEndings source.toList = [] ++ lfEndings source.toList := rfl
  obtain ⟨found, diagnoses⟩ := scanAt_lfEndings file whole whole'
  rw [Place.after_nil, ← toList_withLF] at found diagnoses
  have tokens : (scan (withLF source)).tokens = (scan source).tokens.map Token.withLF := by
    rw [scan_tokens, scan_tokens, found, lastLine_withLF, List.map_append]
    rfl
  obtain ⟨ds, shown⟩ := exists_diagnostics file source
  have diagnosed := forall₂_diagnose_iff.1 (shown.imp fun _ _ h => h.1)
  have checked := check_eq_ok (forall₂_diagnose_iff.2 diagnosed)
  rw [scan_faults, ← diagnoses, ← scan_faults] at diagnosed
  have checked' := check_eq_ok (forall₂_diagnose_iff.2 diagnosed)
  rw [tokens] at checked'
  refine ⟨tokens, ⟨_, checked, checked'⟩, ?_⟩
  intro colours
  rw [checked, checked']
  rfl

end LoxFront
