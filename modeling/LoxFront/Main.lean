import LoxFront.Command.Run

/-! # The program

Gathers what the command works on, prints what it answers and exits with its code.
-/

namespace LoxFront

open Command

partial def readAll (stream : IO.FS.Stream) (read : ByteArray) : IO ByteArray := do
  let more ← stream.read 65536
  if more.isEmpty then return read else readAll stream (read ++ more)

/-- The number of a system error; some calls report it negated. -/
def errorNumber (code : UInt32) : Nat :=
  (min code (0 - code)).toNat

def readErrorOf : IO.Error → ReadError
  | .noFileOrDirectory _ _ _ => .noSuchFile
  -- The system tells by the number which of the two it is.
  | .inappropriateType _ code _ => if errorNumber code = 21 then .isDirectory else .notDirectory
  | .permissionDenied _ code details =>
      .other (details ++ " (os error " ++ (errorNumber code).repr ++ ")")
  | .invalidArgument _ code details =>
      if errorNumber code = 36 then .nameTooLong
      else .other (details ++ " (os error " ++ (errorNumber code).repr ++ ")")
  | e => .other e.toString

def readFileAt (path : String) : IO (Except ReadError (List UInt8)) := do
  try
    let content ← IO.FS.readBinFile path
    return .ok content.toList
  catch e =>
    return .error (readErrorOf e)

end LoxFront

open LoxFront LoxFront.Command in
/-- Run the command on the arguments and the surroundings of the process. -/
def main (args : List String) : IO UInt32 := do
  let pairs ← Environment.names.mapM fun name => return (name, ← IO.getEnv name)
  let environment := Environment.ofLookup fun name => (pairs.lookup name).join
  let script := (Options.parse args).toOption.map Options.script
  -- Only what the options ask for is read: the script, or else the input.
  let file ← match script with
    | some (some path) => readFileAt path
    | _ => pure (.error .noSuchFile)
  let input ← match script with
    | some none => readAll (← IO.getStdin) .empty
    | _ => pure .empty
  match run args environment (fun _ => file) input.toList with
  | .ok outcome =>
      (← IO.getStdout).putStr outcome.output.stdout
      (← IO.getStderr).putStr outcome.output.stderr
      return .ofNat outcome.code
  | .error e =>
      (← IO.getStderr).putStr (e.message ++ "\n")
      return .ofNat ExitCode.internal
