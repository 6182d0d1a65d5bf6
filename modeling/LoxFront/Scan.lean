import LoxFront.Fault

/-! # Scanning

A scan reads a source text from its first character to its last and never gives up: what is a
token goes into the list of tokens, what no token matches is a fault, and reading goes on behind
it.  `scan` gives both lists; `scanWith` gives the tokens and hands each fault to an action at the
moment it is found, so that whoever listens may keep a record of its own, or stop the scan.  The
two agree (`scanWith_eq`): the action sees the faults of `scan`, each once and in order.
-/

namespace LoxFront

/-- The tokens of a text, ended by the end-of-text token, and its faults, both in order. -/
structure Scan where
  tokens : List Token
  faults : List Fault
deriving DecidableEq

namespace Scan

def hasFaults (s : Scan) : Bool :=
  !s.faults.isEmpty

end Scan

def placedSegments (source : String) : List Placed :=
  Placed.layOut .start (segments source.toList)

def lastLine (source : String) : Nat :=
  (Place.start.after source.toList).line

def scan (source : String) : Scan where
  tokens := (placedSegments source).filterMap Placed.token? ++ [.endOfText (lastLine source)]
  faults := (placedSegments source).filterMap Placed.fault?

/-- Scan the text that stands at place `p`, handing each fault to `report` when it is found. -/
def scanFrom {m : Type → Type} [Monad m] (report : Fault → m Unit) (p : Place) :
    List Char → m (List Token)
  | [] => return [.endOfText p.line]
  | c :: rest => do
      let cutting := Segment.cut c rest
      let found : Placed := ⟨cutting.1, p⟩
      -- The fault is reported before anything behind it is read.
      if let some fault := found.fault? then
        report fault
      let tokens ← scanFrom report found.stop cutting.2
      return found.token?.toList ++ tokens
termination_by text => text.length
decreasing_by exact Nat.lt_succ_of_le (Segment.length_cut_le c rest)

def scanWith {m : Type → Type} [Monad m] (report : Fault → m Unit) (source : String) :
    m (List Token) :=
  scanFrom report .start source.toList

/-- Reporting faults on the way is reporting them all and then giving the tokens. -/
theorem scanFrom_eq {m : Type → Type} [Monad m] [LawfulMonad m] (report : Fault → m Unit)
    (p : Place) (text : List Char) :
    scanFrom report p text = (do
      ((Placed.layOut p (segments text)).filterMap Placed.fault?).forM report
      return (Placed.layOut p (segments text)).filterMap Placed.token? ++
        [.endOfText (p.after text).line]) := by
  fun_induction segments text generalizing p with
  | case1 => simp [scanFrom, Placed.layOut]
  | case2 c rest ih =>
    -- Both sides go on from the same place, the one after the first segment.
    have stop : (p.after (Segment.cut c rest).1.text).after (Segment.cut c rest).2 =
        p.after (c :: rest) := by
      rw [← Place.after_append, Segment.text_cut]
    rw [scanFrom]
    simp only [ih, Placed.layOut, Placed.stop, stop]
    cases fault : Placed.fault? ⟨(Segment.cut c rest).1, p⟩ <;>
      cases token : Placed.token? ⟨(Segment.cut c rest).1, p⟩ <;> simp [fault, token]

theorem scanWith_eq {m : Type → Type} [Monad m] [LawfulMonad m] (report : Fault → m Unit)
    (source : String) :
    scanWith report source = (do
      (scan source).faults.forM report
      return (scan source).tokens) :=
  scanFrom_eq report .start source.toList

end LoxFront
