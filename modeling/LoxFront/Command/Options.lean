/-! # Command-line options

The arguments are read from left to right, and the first thing that is wrong, or that asks for the
help or the version, ends the reading; what comes after it does not matter.  Switches may come
before or after the script, one-letter switches may share a dash, and after `--` every argument is
a script.
-/

namespace LoxFront.Command

inductive Switch where
  | quiet | noColour | verbose | help | version
deriving DecidableEq, Repr

namespace Switch

def longName : Switch → String
  | quiet => "quiet"
  | noColour => "no-color"
  | verbose => "verbose"
  | help => "help"
  | version => "version"

def letter? : Switch → Option Char
  | quiet => some 'q'
  | noColour => none
  | verbose => some 'v'
  | help => some 'h'
  | version => some 'V'

def all : List Switch :=
  [quiet, noColour, verbose, help, version]

def ofLongName? (name : String) : Option Switch :=
  all.find? (·.longName == name)

def ofLetter? (c : Char) : Option Switch :=
  all.find? (·.letter? == some c)

end Switch

/-- What the arguments ask for. -/
structure Options where
  script : Option String
  quiet : Bool
  noColour : Bool
  verbosity : Nat
deriving DecidableEq, Repr

def Options.initial : Options :=
  ⟨none, false, false, 0⟩

inductive UsageError where
  | unknownOption (arg : String)
  | needlessValue (switch : Switch)
  | repeatedSwitch (switch : Switch)
  | emptyScript
  | secondScript (arg : String)
deriving DecidableEq, Repr

def UsageError.message : UsageError → String
  | unknownOption arg => "unknown option '" ++ arg ++ "'"
  | needlessValue switch => "option '--" ++ switch.longName ++ "' takes no value"
  | repeatedSwitch switch => "option '--" ++ switch.longName ++ "' cannot be given twice"
  | emptyScript => "the script needs a name"
  | secondScript arg => "unexpected argument '" ++ arg ++ "'"

/-- Why the reading of the arguments ended before the last of them. -/
inductive Stop where
  | help
  | version
  | misuse (e : UsageError)
deriving DecidableEq, Repr

namespace Options

/-- Take one switch.  Only verbosity adds up. -/
def takeSwitch (o : Options) : Switch → Except Stop Options
  | .quiet =>
      if o.quiet then .error (.misuse (.repeatedSwitch .quiet)) else .ok { o with quiet := true }
  | .noColour =>
      if o.noColour then .error (.misuse (.repeatedSwitch .noColour))
      else .ok { o with noColour := true }
  | .verbose => .ok { o with verbosity := o.verbosity + 1 }
  | .help => .error .help
  | .version => .error .version

def takeScript (o : Options) (arg : String) : Except Stop Options :=
  if o.script.isSome then .error (.misuse (.secondScript arg))
  else if arg.isEmpty then .error (.misuse .emptyScript)
  else .ok { o with script := some arg }

/-- Take what stands behind two dashes: the name of a switch, and nothing more. -/
def takeLong (o : Options) (arg : String) (body : List Char) : Except Stop Options :=
  let name := body.takeWhile (· != '=')
  match Switch.ofLongName? (String.ofList name) with
  | none => .error (.misuse (.unknownOption arg))
  | some switch =>
      if name = body then o.takeSwitch switch else .error (.misuse (.needlessValue switch))

/-- Take the letters behind one dash, one switch each. -/
def takeLetters (o : Options) (arg : String) (letters : List Char) : Except Stop Options :=
  letters.foldlM (fun o c =>
    match Switch.ofLetter? c with
    | none => .error (.misuse (.unknownOption arg))
    | some switch => o.takeSwitch switch) o

/-- Take all arguments; `scriptsOnly` once `--` has been seen. -/
def takeAll (o : Options) (scriptsOnly : Bool) : List String → Except Stop Options
  | [] => .ok o
  | arg :: rest =>
      if scriptsOnly then do (← o.takeScript arg).takeAll true rest
      else
        match arg.toList with
        | ['-', '-'] => o.takeAll true rest
        | '-' :: '-' :: body => do (← o.takeLong arg body).takeAll false rest
        | '-' :: c :: letters => do (← o.takeLetters arg (c :: letters)).takeAll false rest
        | _ => do (← o.takeScript arg).takeAll false rest

def parse (args : List String) : Except Stop Options :=
  Options.initial.takeAll false args

end Options

/-! ## Texts -/

/-- A piece of the help: plain, a heading, or a word that is typed as it stands. -/
inductive HelpSpan where
  | plain (text : String)
  | heading (text : String)
  | literal (text : String)
deriving DecidableEq, Repr

/-- A piece of the help as it is displayed; with colours on, headings are bold and underlined, and
    words that are typed are bold. -/
def HelpSpan.write (colours : Bool) : HelpSpan → String
  | plain text => text
  | heading text => if colours then "\x1b[1m\x1b[4m" ++ text ++ "\x1b[0m" else text
  | literal text => if colours then "\x1b[1m" ++ text ++ "\x1b[0m" else text

def helpRows : List (List HelpSpan) :=
  [[.plain "Lox scanner - prints the tokens of a script, or of each line typed at the prompt"],
   [],
   [.heading "Usage:", .plain " ", .literal "lox", .plain " [OPTIONS] [SCRIPT]"],
   [],
   [.heading "Arguments:"],
   [.plain "  [SCRIPT]  Script to scan; starts an interactive prompt when omitted"],
   [],
   [.heading "Options:"],
   [.plain "  ", .literal "-q", .plain ", ", .literal "--quiet",
    .plain "       Do not print tokens, only diagnostics"],
   [.plain "      ", .literal "--no-color", .plain "    Disable colored output"],
   [.plain "  ", .literal "-v", .plain ", ", .literal "--verbose",
    .plain "...  Increase log verbosity (-v debug, -vv trace)"],
   [.plain "  ", .literal "-h", .plain ", ", .literal "--help", .plain "        Print help"],
   [.plain "  ", .literal "-V", .plain ", ", .literal "--version", .plain "     Print version"]]

def helpText (colours : Bool) : String :=
  String.join (helpRows.map fun row => String.join (row.map (HelpSpan.write colours)) ++ "\n")

def versionText : String :=
  "lox 0.1.0\n"

end LoxFront.Command
