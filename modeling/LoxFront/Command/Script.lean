import LoxFront.Command.Settings
import LoxFront.Command.Directory

/-! # Running a script

A script is read, scanned and judged as a whole.  Its tokens are printed even if it has faults; the
diagnostics follow in the order of the text, each with an empty line below it, and then how many
they were.  The exit code tells a script without faults from one with faults and from one that
could not be read.
-/

namespace LoxFront.Command

namespace Settings

def verdictLine (s : Settings) (count : Nat) : String :=
  let noun := if count = 1 then " error" else " errors"
  String.ofList <| Span.writeRow s.colours
    [.styled (.strong .red) (count.repr ++ noun).toList, .plain " generated".toList]

/-- The diagnostics of a script and the count of them; nothing if there are none. -/
def verdict (s : Settings) (diagnostics : List Diagnostic) : String :=
  if diagnostics.isEmpty then ""
  else
    String.join (diagnostics.map fun d => d.display s.colours ++ "\n") ++
      s.verdictLine diagnostics.length

def runText (s : Settings) (path source : String) : Except Breakdown Outcome := do
  let checked ← checkText path source
  let diagnostics := checked.diagnostics.toList
  let events := Event.scriptRead path source.utf8ByteSize :: Event.ofScan path source
  return {
    code := if diagnostics.isEmpty then ExitCode.success else ExitCode.faults
    output := ⟨s.listTokens checked.tokens, s.filter.write events ++ s.verdict diagnostics⟩ }

def runScript (s : Settings) (read : String → Except ReadError (List UInt8)) (path : String) :
    Except Breakdown Outcome :=
  match readText read path with
  | .ok source => s.runText path source
  | .error e =>
      let message := "could not read file '" ++ path ++ "': " ++ e.message
      .ok ⟨ExitCode.unreadable, ⟨"", s.failureLine message⟩⟩

end Settings

end LoxFront.Command
