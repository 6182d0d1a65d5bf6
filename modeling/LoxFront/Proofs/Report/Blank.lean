import LoxFront.Proofs.Listing.Table
import LoxFront.Proofs.Report.Run

/-! # Reports without a table

The blank listing has no lines at all, the listing of the empty text has an empty one.  Nothing that
a listing is asked tells the two apart (`alike_blank`): an offset is on the first line, either
because that line covers it or is the last, or because there is no other answer, and that line
starts at the start of the text and reads as nothing, in the table or outside of it.

Listings that are alike in this way carry an action on a report through alike (`Steady`).  That is
kept by running one action after another, so the steps have it, and runs of them do.
-/

namespace LoxFront

open Text (sliceBytes?)

namespace Listing

/-- Two listings of the same text whose tables give the same answers, whatever lines they hold. -/
structure Alike (l l' : Listing) : Prop where
  file : l.file = l'.file
  source : l.source = l'.source
  lineIndex : l.lineIndex = l'.lineIndex
  lineStart : l.lineStart = l'.lineStart
  lineText : l.lineText = l'.lineText

namespace Alike

variable {l l' : Listing}

theorem locate (alike : Alike l l') : l.locate = l'.locate := by
  funext offset
  simp only [Listing.locate, alike.file, alike.source, alike.lineIndex, alike.lineStart]

theorem annotate (alike : Alike l l') : l.annotate = l'.annotate := by
  funext d offset length label
  simp only [Listing.annotate, underline, alike.locate, alike.source, alike.lineText]

theorem diagnose (alike : Alike l l') : l.diagnose = l'.diagnose := by
  funext f
  simp only [Listing.diagnose, alike.locate, alike.annotate]

end Alike

/-! ## The listing of the empty text -/

theorem lines_empty : (ofSource "" "").lines = [⟨0, []⟩] := rfl

theorem lineIndex_empty (offset : Nat) : (ofSource "" "").lineIndex offset = 0 := by
  rw [lineIndex, lines_empty, List.findIdx?_singleton]
  split <;> rfl

theorem lineStart_empty (index : Nat) : (ofSource "" "").lineStart index = 0 := by
  rw [lineStart, lines_empty]
  cases index <;> rfl

theorem lineText_empty (line : Nat) : (ofSource "" "").lineText line = [] := by
  obtain rfl | outside := Decidable.em (line = 1)
  · rfl
  · refine lineText_outside _ ?_
    rw [lines_empty, List.length_singleton]
    omega

theorem alike_blank : Alike blank (ofSource "" "") where
  file := rfl
  source := rfl
  lineIndex := funext fun offset => (lineIndex_empty offset).symm
  lineStart := funext fun index => (lineStart_empty index).symm
  lineText := by
    funext line
    rw [lineText_empty]
    exact lineText_outside blank (Nat.eq_zero_or_pos line)

end Listing

namespace Report

/-! ## Actions on alike listings -/

/-- An action that goes alike on two listings: on reports that hold the same, it gives the same
    result and stores the same. -/
def Steady {α : Type} (l l' : Listing) (action : ReportM α) : Prop :=
  ∀ stored, ∃ result stored', action.run.run ⟨l, stored⟩ = (result, ⟨l, stored'⟩) ∧
    action.run.run ⟨l', stored⟩ = (result, ⟨l', stored'⟩)

namespace Steady

variable {α β : Type} {l l' : Listing}

theorem pure (a : α) : Steady l l' (pure a : ReportM α) :=
  fun stored => ⟨.ok a, stored, rfl, rfl⟩

theorem bind {action : ReportM α} {next : α → ReportM β} (first : Steady l l' action)
    (rest : ∀ a, Steady l l' (next a)) : Steady l l' (action >>= next) := by
  intro stored
  obtain ⟨result, stored', here, there⟩ := first stored
  cases result with
  | error e => exact ⟨.error e, stored', run_bind_error here, run_bind_error there⟩
  | ok a =>
    obtain ⟨result, final, here', there'⟩ := rest a stored'
    exact ⟨result, final, by rw [run_bind_ok here, here'], by rw [run_bind_ok there, there']⟩

/-- What an action reads off the listing has to be the same on both. -/
theorem ask {question : Listing → Except LocateError α} (same : question l = question l') :
    Steady l l' (ask question) :=
  fun stored => ⟨question l, stored, rfl, by rw [run_ask, same]⟩

theorem readLine (alike : l.Alike l') (line : Nat) (answer : String → α) :
    Steady l l' (do return answer (String.ofList ((← get).listing.lineText line))) := by
  intro stored
  refine ⟨.ok (answer (String.ofList (l.lineText line))), stored, rfl, ?_⟩
  rw [alike.lineText]
  rfl

theorem store {diagnostic : Listing → Except LocateError Diagnostic}
    (same : diagnostic l = diagnostic l') : Steady l l' (store diagnostic) :=
  (ask same).bind fun d stored => ⟨.ok (), stored.push d, rfl, rfl⟩

theorem fault (alike : l.Alike l') (f : Fault) : Steady l l' (fault f) :=
  store (congrFun alike.diagnose f)

theorem forM {action : α → ReportM Unit} (each : ∀ a, Steady l l' (action a)) (as : List α) :
    Steady l l' (as.forM action) := by
  induction as with
  | nil => exact pure ()
  | cons a as ih => exact (each a).bind fun _ => ih

theorem perform (alike : l.Alike l') (s : Step) : Steady l l' (perform s) := by
  cases s with
  | lineText line => exact readLine alike line Answer.text
  | locate offset =>
    exact (ask (congrFun alike.locate offset)).bind fun loc =>
      readLine alike loc.line (Answer.location loc)
  | annotate d offset length label => exact (store (by rw [alike.annotate])).bind fun _ => pure _
  | fault f => exact (fault alike f).bind fun _ => pure _
  | scan source =>
    rw [Report.perform, scanWith_eq]
    exact ((forM (fault alike) _).bind fun _ => pure _).bind fun tokens => pure _

end Steady

/-! ## The blank report -/

/-- Reports that hold the same, whatever they list. -/
structure Matches (r r' : Report) : Prop where
  diagnostics : r.diagnostics = r'.diagnostics
  count : r.count = r'.count
  hasDiagnostics : r.hasDiagnostics = r'.hasDiagnostics

/-- No step fails on the empty text, since no offset splits a character of it. -/
theorem exists_answer_empty (stored : Array Diagnostic) (s : Step) :
    ∃ answer, ((⟨.ofSource "" "", stored⟩ : Report).step s).1 = .ok answer := by
  obtain ⟨result, ds, performs, step⟩ := exists_performs "" "" stored s
  rw [step]
  cases result with
  | ok answer => exact ⟨answer, rfl⟩
  | error e =>
    obtain ⟨offset, -, splits⟩ := performs.fails_iff.1 ⟨e, rfl⟩
    exact absurd (Text.splitsCharacter_iff.1 splits).1 (Nat.not_lt_zero offset)

/-- A step on reports that hold the same succeeds on both, with the same answer, and they hold the
    same after it. -/
theorem step_blank (stored : Array Diagnostic) (s : Step) :
    ∃ answer stored',
      (⟨.blank, stored⟩ : Report).step s = (.ok answer, ⟨.blank, stored'⟩) ∧
      (⟨.ofSource "" "", stored⟩ : Report).step s =
        (.ok answer, ⟨.ofSource "" "", stored'⟩) := by
  obtain ⟨result, stored', blank, empty⟩ := Steady.perform Listing.alike_blank s stored
  obtain ⟨answer, success⟩ := exists_answer_empty stored s
  obtain rfl : result = .ok answer := by rwa [step, empty] at success
  exact ⟨answer, stored', blank, empty⟩

/-- Two runs whose steps all succeed with the same answers, and whose reports match after each. -/
def AnswerAlike : List (Except LocateError Answer × Report) →
    List (Except LocateError Answer × Report) → Prop :=
  List.Forall₂ fun outcome outcome' =>
    (∃ answer, outcome.1 = .ok answer ∧ outcome'.1 = .ok answer) ∧ Matches outcome.2 outcome'.2

theorem answerAlike_blank (stored : Array Diagnostic) (steps : List Step) :
    AnswerAlike (run ⟨.blank, stored⟩ steps) (run ⟨.ofSource "" "", stored⟩ steps) ∧
      Matches (after ⟨.blank, stored⟩ steps) (after ⟨.ofSource "" "", stored⟩ steps) := by
  induction steps generalizing stored with
  | nil => exact ⟨.nil, rfl, rfl, rfl⟩
  | cons s steps ih =>
    obtain ⟨answer, stored', blank, empty⟩ := step_blank stored s
    obtain ⟨outcomes, final⟩ := ih stored'
    rw [run, run, after, after, List.foldl_cons, List.foldl_cons, blank, empty]
    exact ⟨.cons ⟨⟨answer, rfl, rfl⟩, rfl, rfl, rfl⟩ outcomes, final⟩

/-- Without a table steps run as they do on the table of the empty text: every step succeeds, with
    the same answer, and the reports hold the same after each step and at the end.  The lines that
    either of them reads can be cut out of its text. -/
theorem run_blank (steps : List Step) :
    AnswerAlike (run (.ofListing .blank) steps) (run (.ofListing (.ofSource "" "")) steps) ∧
      Matches (after (.ofListing .blank) steps) (after (.ofListing (.ofSource "" "")) steps) ∧
      ∀ l ∈ [Listing.blank, .ofSource "" ""], ∀ line ∈ l.lines,
        sliceBytes? line.start line.stop l.source = some line.text := by
  obtain ⟨answers, final⟩ := answerAlike_blank #[] steps
  refine ⟨answers, final, ?_⟩
  intro l member line held
  obtain rfl | member := List.mem_cons.1 member
  · exact absurd held List.not_mem_nil
  · obtain rfl := List.mem_singleton.1 member
    exact Text.slice_of_mem_lines held

-- The two reports differ all the same.
example : Report.ofListing .blank ≠ .ofListing (.ofSource "" "") := by decide

end Report

end LoxFront
