import LoxFront.Command.Prompt

/-! # The command

The command as a function: from its arguments, its environment, a way of reading files and the
bytes of its input to what it prints and the code that it exits with.  It breaks down only if the
filter of the log is cut inside a character, if a fault has no location in the text that it was
found in, or if a typed line is no text.
-/

namespace LoxFront.Command

/-- The outcome of the command: for its arguments and environment, the files it can read, and its
    input. -/
def run (args : List String) (environment : Environment)
    (read : String → Except ReadError (List UInt8)) (input : List UInt8) :
    Except Breakdown Outcome :=
  match Options.parse args with
  | .error .help => .ok ⟨ExitCode.success, ⟨helpText environment.coloursHelp, ""⟩⟩
  | .error .version => .ok ⟨ExitCode.success, ⟨versionText, ""⟩⟩
  | .error (.misuse e) => .ok ⟨ExitCode.usage, ⟨"", "error: " ++ e.message ++ "\n"⟩⟩
  | .ok options => do
      let settings ← Settings.of options environment
      match options.script with
      | some path => settings.runScript read path
      | none => settings.runPrompt input

end LoxFront.Command
