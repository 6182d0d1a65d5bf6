import LoxFront.Command.Log.Filter
import LoxFront.Scan

/-! # Events of the log

What the log tells: that a script was read, that a fault was found, that a text was scanned, that
the prompt waits for a line and that it was closed.  Every event has a level, a target and fields,
by which filters choose, and is told in a line of its own.
-/

namespace LoxFront.Command

/-- What the log tells.  The prompt waits for a line either on a terminal on which no line can be
    edited, or on an input that is no terminal. -/
inductive Event where
  | scriptRead (path : String) (bytes : Nat)
  | faultFound (f : Fault)
  | scanComplete (tokens lines : Nat)
  | sourceScanned (file : String) (tokens faults : Nat)
  | lineAwaited (plainTerminal : Bool)
  | promptClosed (lines : Nat)
deriving DecidableEq, Repr

namespace Event

def level : Event → Level
  | faultFound _ => .trace
  | _ => .debug

/-- The target of an event: the part of the program that it happens in. -/
def target : Event → String
  | scriptRead _ _ => "lox::driver"
  | faultFound _ => "lox::lexer::scanner"
  | scanComplete _ _ => "lox::lexer::scanner"
  | sourceScanned _ _ _ => "lox::driver"
  | lineAwaited _ => "rustyline"
  | promptClosed _ => "lox::repl"

def message : Event → String
  | scriptRead _ _ => "read script"
  | faultFound f => f.message
  | scanComplete _ _ => "scan complete"
  | sourceScanned _ _ _ => "scanned source"
  | lineAwaited plainTerminal =>
      if plainTerminal then "unsupported terminal" else "stdin is not a tty"
  | promptClosed _ => "prompt closed"

def data : Event → List (String × String)
  | scriptRead path bytes => [("path", path), ("bytes", bytes.repr)]
  | faultFound f => [("line", f.line.repr), ("offset", f.offset.repr)]
  | scanComplete tokens lines => [("tokens", tokens.repr), ("lines", lines.repr)]
  | sourceScanned file tokens faults =>
      [("file", file), ("tokens", tokens.repr), ("errors", faults.repr)]
  | lineAwaited _ => []
  | promptClosed lines => [("lines", lines.repr)]

/-- The names of all fields of an event: its message, its data, and what is known about the place
    in the program but never told. -/
def fields (e : Event) : List String :=
  let place :=
    match e with
    | lineAwaited _ => ["log.target", "log.module_path", "log.file", "log.line"]
    | _ => []
  "message" :: e.data.map Prod.fst ++ place

def text (e : Event) : String :=
  e.level.column ++ " " ++ e.target ++ ": " ++ e.message ++
    String.join (e.data.map fun (name, value) => " " ++ name ++ "=" ++ value) ++ "\n"

def ofScan (file source : String) : List Event :=
  let found := scan source
  let tokens := found.tokens.length
  found.faults.map faultFound ++
    [scanComplete tokens (lastLine source), sourceScanned file tokens found.faults.length]

end Event

def Filter.write (f : Filter) (events : List Event) : String :=
  String.join ((events.filter fun e => f.shows e.level e.target e.fields).map Event.text)

end LoxFront.Command
