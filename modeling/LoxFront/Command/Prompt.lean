import LoxFront.Command.Script
import LoxFront.Text.Typing

/-! # The prompt

Without a script the command reads lines and scans each of them by itself, as a source text named
after the number of the line, until the input ends or a line is no text.  A line is first typed,
so that backspaces in it take back what stands before them.  What one line prints depends on its
number and its text alone, and a fault in it is no reason to stop.
-/

namespace LoxFront.Command

/-! ## Lines of input -/

/-- The lines of an input: what stands before each LF, without the CR right before it if there is
    one, and what stands behind the last LF if that is anything. -/
def inputLines (input : List UInt8) : List (List UInt8) :=
  let pieces := input.splitOn 10
  -- Every piece but the last was ended by a LF; a CR belongs to the ending only there.
  let ended := pieces.dropLast.map fun line =>
    if line.getLast? = some 13 then line.dropLast else line
  let last := pieces.getLast?.getD []
  if last.isEmpty then ended else ended ++ [last]

def typeLine (number : Nat) (line : String) : Except Breakdown String :=
  match Text.typed? line.toList with
  | none => .error (.noText number)
  | some text => .ok (String.ofList text)

def lineName (number : Nat) : String :=
  "<repl:" ++ number.repr ++ ">"

namespace Settings

/-- What is printed before a line is read: the prompt, if the terminal is one on which a line
    cannot be edited. -/
def prompt (s : Settings) : Output :=
  ⟨if s.plainTerminal then ">>> " else "", s.filter.write [.lineAwaited s.plainTerminal]⟩

def runLine (s : Settings) (number : Nat) (text : String) : Except Breakdown Output := do
  let name := lineName number
  let checked ← checkText name text
  let diagnostics := String.join (checked.diagnostics.toList.map (Diagnostic.display s.colours))
  return ⟨s.listTokens checked.tokens, s.filter.write (Event.ofScan name text) ++ diagnostics⟩

/-- The outcome of reading lines, of which `number` have been read before. -/
def runLines (s : Settings) (number : Nat) : List (List UInt8) → Except Breakdown Outcome
  | [] =>
      .ok ⟨ExitCode.success, s.prompt ++ ⟨"", s.filter.write [.promptClosed number]⟩⟩
  | line :: rest =>
      match decode? line with
      | none =>
          let message := "line editor failed: " ++ ReadError.notText.message
          .ok ⟨ExitCode.brokenInput, s.prompt ++ ⟨"", s.failureLine message⟩⟩
      | some typed => do
          let output ← s.runLine (number + 1) (← typeLine (number + 1) typed)
          let outcome ← s.runLines (number + 1) rest
          return { outcome with output := s.prompt ++ output ++ outcome.output }

def runPrompt (s : Settings) (input : List UInt8) : Except Breakdown Outcome :=
  s.runLines 0 (inputLines input)

end Settings

end LoxFront.Command
