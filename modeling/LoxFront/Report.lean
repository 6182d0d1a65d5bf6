import LoxFront.Listing
import LoxFront.Scan

/-! # Reports

A report is a listing with the diagnostics stored for it so far.  Every action on it either
succeeds or fails at an offset that has no location; what was stored before a failure stays.  The
faults of a scan can be sent to a report as they are found, also those of a text other than the
one that is listed, and `check` does it for the listed text itself.
-/

namespace LoxFront

/-- A listing and the diagnostics stored for it, in the order in which they came. -/
structure Report where
  listing : Listing
  diagnostics : Array Diagnostic
deriving DecidableEq, Repr

/-- An action on a report, which may fail; it keeps what it had stored by then. -/
abbrev ReportM (α : Type) : Type :=
  ExceptT LocateError (StateM Report) α

namespace Report

def ofListing (l : Listing) : Report :=
  ⟨l, #[]⟩

def count (r : Report) : Nat :=
  r.diagnostics.size

def hasDiagnostics (r : Report) : Bool :=
  !r.diagnostics.isEmpty

def ask {α : Type} (question : Listing → Except LocateError α) : ReportM α := do
  let r ← get
  question r.listing

def store (diagnostic : Listing → Except LocateError Diagnostic) : ReportM Unit := do
  let d ← ask diagnostic
  modify fun r => { r with diagnostics := r.diagnostics.push d }

def fault (f : Fault) : ReportM Unit :=
  store (·.diagnose f)

/-! ## Steps -/

inductive Step where
  | lineText (line : Nat)
  | locate (offset : Nat)
  | annotate (d : Diagnostic) (offset length : Nat) (label : String)
  | fault (f : Fault)
  | scan (source : String)
deriving Repr

inductive Answer where
  | text (line : String)
  | location (loc : Location) (line : String)
  | stored
  | tokens (tokens : List Token)
deriving DecidableEq

def perform : Step → ReportM Answer
  | .lineText line => do
      return .text (String.ofList ((← get).listing.lineText line))
  | .locate offset => do
      let loc ← ask (·.locate offset)
      return .location loc (String.ofList ((← get).listing.lineText loc.line))
  | .annotate d offset length label => do
      store (·.annotate d offset length label)
      return .stored
  | .fault f => do
      fault f
      return .stored
  | .scan source => do
      return .tokens (← scanWith fault source)

/-- Carry out a step: its answer or failure, and the report after it. -/
def step (r : Report) (s : Step) : Except LocateError Answer × Report :=
  (perform s).run.run r

/-- Carry out steps one after another, whether they succeed or fail: what each of them answers, and
    the report after it. -/
def run (r : Report) : List Step → List (Except LocateError Answer × Report)
  | [] => []
  | s :: rest =>
      let after := r.step s
      after :: run after.2 rest

end Report

/-! ## Checking a text -/

structure Checked where
  tokens : List Token
  diagnostics : Array Diagnostic
deriving DecidableEq

namespace Checked

def count (c : Checked) : Nat :=
  c.diagnostics.size

def hasDiagnostics (c : Checked) : Bool :=
  !c.diagnostics.isEmpty

end Checked

/-- Scan a text and report its faults on the listing of the text itself. -/
def check (file source : String) : Except LocateError Checked :=
  let outcome := (scanWith Report.fault source).run.run (.ofListing (.ofSource file source))
  outcome.1.map fun tokens => ⟨tokens, outcome.2.diagnostics⟩

end LoxFront
