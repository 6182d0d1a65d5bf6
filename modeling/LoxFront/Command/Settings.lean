import LoxFront.Command.Log.Event
import LoxFront.Command.Options
import LoxFront.Diagnostic.Layout
import LoxFront.Report

/-! # Settings of a run

What the command prints depends on its options and on a few environment variables.  Both modes of
the command, a script and the prompt, work with the settings that follow from them, and gather
what they print on the two output streams.
-/

namespace LoxFront.Command

/-! ## Environment -/

/-- The environment variables that matter, each as it is set. -/
structure Environment where
  colourForce : Option String
  colourOff : Option String
  logFilter : Option String
  terminal : Option String
deriving DecidableEq, Repr

namespace Environment

def names : List String :=
  ["CLICOLOR_FORCE", "NO_COLOR", "RUST_LOG", "TERM"]

def ofLookup (lookup : String → Option String) : Environment where
  colourForce := lookup "CLICOLOR_FORCE"
  colourOff := lookup "NO_COLOR"
  logFilter := lookup "RUST_LOG"
  terminal := lookup "TERM"

/-- Whether the environment asks for colours in diagnostics where there is no terminal: any setting
    but zero does. -/
def forcesColour (e : Environment) : Bool :=
  match e.colourForce with
  | none => false
  | some value => value != "0"

/-- Whether the environment asks for colours in the help where there is no terminal: any setting but
    the empty one does, zero included, unless colours are switched off by such a setting. -/
def coloursHelp (e : Environment) : Bool :=
  let isSet (setting : Option String) := setting.any (!·.isEmpty)
  isSet e.colourForce && !isSet e.colourOff

/-- The terminals on which a line cannot be edited. -/
def plainTerminals : List String :=
  ["dumb", "cons25", "emacs"]

def hasPlainTerminal (e : Environment) : Bool :=
  match e.terminal with
  | none => false
  | some name => plainTerminals.contains name.toLower

end Environment

/-! ## Settings -/

structure Settings where
  quiet : Bool
  colours : Bool
  filter : Filter
  plainTerminal : Bool
deriving DecidableEq, Repr

/-! ## Output -/

/-- What a run prints on its two output streams. -/
structure Output where
  stdout : String
  stderr : String
deriving DecidableEq, Repr

namespace Output

def empty : Output :=
  ⟨"", ""⟩

def append (a b : Output) : Output :=
  ⟨a.stdout ++ b.stdout, a.stderr ++ b.stderr⟩

instance : Append Output :=
  ⟨append⟩

end Output

/-! ## Exit codes -/

def ExitCode.success : Nat := 0

def ExitCode.usage : Nat := 64

def ExitCode.faults : Nat := 65

def ExitCode.unreadable : Nat := 74

def ExitCode.brokenInput : Nat := 1

def ExitCode.internal : Nat := 101

/-! ## Outcome -/

/-- Why a run breaks down: the filter in the environment is cut inside a character, a fault has no
    location in its own text, or what is typed in a line is no text in the end. -/
inductive Breakdown where
  | noFilter
  | noLocation (e : LocateError)
  | noText (line : Nat)
deriving DecidableEq, Repr

def Breakdown.message : Breakdown → String
  | noFilter => "no filter of the log"
  | noLocation (.insideCharacter offset) => "no location at offset " ++ offset.repr
  | noText line => "no text in line " ++ line.repr

structure Outcome where
  code : Nat
  output : Output
deriving DecidableEq, Repr

def checkText (file source : String) : Except Breakdown Checked :=
  (check file source).mapError .noLocation

namespace Settings

/-- The filter that options and environment make: the one in the environment, if it is written like
    one, or else the one that the options ask for. -/
def filterOf (o : Options) (e : Environment) : Except Breakdown Filter :=
  match e.logFilter.map fun text => Filter.parse text.toList with
  | some (.ok filter) => .ok filter
  | some (.error .insideCharacter) => .error .noFilter
  | some (.error .malformed) | none => .ok (.ofVerbosity o.verbosity)

def of (o : Options) (e : Environment) : Except Breakdown Settings := do
  return {
    quiet := o.quiet
    colours := e.forcesColour && !o.noColour
    filter := ← filterOf o e
    plainTerminal := e.hasPlainTerminal }

def listTokens (s : Settings) (tokens : List Token) : String :=
  if s.quiet then "" else Token.dump tokens

def failureLine (s : Settings) (message : String) : String :=
  String.ofList <| Span.writeRow s.colours
    [.styled (.strong .red) "error".toList, .plain ([':', ' '] ++ message.toList)]

end Settings

end LoxFront.Command
