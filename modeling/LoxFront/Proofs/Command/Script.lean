import LoxFront.Proofs.Command.Options
import LoxFront.Proofs.Command.Start

/-! # Scripts and their verdicts

What a plain run on a script prints, and the code that it exits with, are known from the content of
the script: whether it is text, which tokens it has and which faults (`script_verdict`).  A quiet
run differs in what it prints as output only, whatever the settings are and whatever the script is
(`Settings.runScript_hush`).
-/

namespace LoxFront.Command

/-! ## Quiet runs -/

/-- The same settings for a quiet run. -/
def Settings.hush (s : Settings) : Settings :=
  { s with quiet := true }

/-- The same outcome without what was printed as output. -/
def Outcome.hush (o : Outcome) : Outcome :=
  { o with output := { o.output with stdout := "" } }

theorem Settings.of_hush {o : Options} {environment : Environment} {s : Settings}
    (settings : Settings.of o environment = .ok s) :
    Settings.of o.hush environment = .ok s.hush ∧ s.quiet = o.quiet := by
  have filters : filterOf o.hush environment = filterOf o environment := rfl
  unfold Settings.of at settings ⊢
  rw [filters]
  cases filter : filterOf o environment with
  | error e =>
    rw [filter] at settings
    cases settings
  | ok filter' =>
    rw [filter] at settings
    cases settings
    exact ⟨rfl, rfl⟩

theorem Starts.hush {args : List String} {environment : Environment} {script : Option String}
    {s : Settings} (starts : Starts args environment script s) (loud : s.quiet = false) :
    Starts ("--quiet" :: args) environment script s.hush := by
  obtain ⟨options, parsed, isScript, settings⟩ := starts
  obtain ⟨hushed, quiet⟩ := Settings.of_hush settings
  rw [loud] at quiet
  exact ⟨options.hush, Options.parse_quiet parsed quiet.symm, isScript, hushed⟩

/-! ## Texts -/

namespace Settings

variable {s : Settings}

theorem runScript_of_unreadable (s : Settings) {read : String → Except ReadError (List UInt8)}
    {path : String} {e : ReadError} (failed : readText read path = .error e) :
    s.runScript read path = .ok ⟨ExitCode.unreadable,
      ⟨"", s.failureLine ("could not read file '" ++ path ++ "': " ++ e.message)⟩⟩ := by
  rw [runScript, failed]

theorem runScript_of_text (s : Settings) {read : String → Except ReadError (List UInt8)}
    {path source : String} (text : readText read path = .ok source) :
    s.runScript read path = .ok ⟨
      if (diagnosticsOf path source).isEmpty then ExitCode.success else ExitCode.faults,
      ⟨s.listTokens (scan source).tokens,
        s.filter.write (.scriptRead path source.utf8ByteSize :: Event.ofScan path source) ++
          s.verdict (diagnosticsOf path source)⟩⟩ := by
  rw [runScript, text]
  dsimp only
  rw [runText, checkText_eq]
  rfl

/-- A quiet run prints nothing as output, and ends like any other. -/
theorem runScript_hush (s : Settings) (read : String → Except ReadError (List UInt8))
    (path : String) :
    ∃ o, s.runScript read path = .ok o ∧ s.hush.runScript read path = .ok o.hush := by
  cases content : readText read path with
  | error e => exact ⟨_, s.runScript_of_unreadable content, s.hush.runScript_of_unreadable content⟩
  | ok source => exact ⟨_, s.runScript_of_text content, s.hush.runScript_of_text content⟩

/-! ## Plain verdicts -/

theorem Plain.verdict_eq (plain : s.Plain) (ds : List Diagnostic) :
    s.verdict ds =
      if ds.length = 0 then ""
      else
        String.join (ds.map fun d => d.display false ++ "\n") ++ ds.length.repr ++
          (if ds.length = 1 then " error" else " errors") ++ " generated\n" := by
  have lastLine : s.verdictLine ds.length =
      ds.length.repr ++ (if ds.length = 1 then " error" else " errors") ++ " generated\n" := by
    refine String.toList_injective ?_
    simp [verdictLine, plain.colours, Span.writeRow, Span.write]
  cases ds with
  | nil => rfl
  | cons d ds => rw [verdict, lastLine, plain.colours]; simp [String.append_assoc]

end Settings

/-- A displayed diagnostic ends with a LF, so that another one makes an empty line. -/
theorem exists_display_eq (colours : Bool) (d : Diagnostic) :
    ∃ rows, d.display colours = rows ++ "\n" := by
  obtain none | ⟨above, last, rows⟩ := d.rows.eq_nil_or_concat
  · exact absurd none (List.cons_ne_nil _ _)
  · refine ⟨String.ofList (Span.writeRows colours above ++ last.flatMap (Span.write colours)),
      String.toList_injective ?_⟩
    simp [Diagnostic.display, rows, Span.writeRows, Span.writeRow]

section Content

variable {read : String → Except ReadError (List UInt8)} {path : String} {bytes : List UInt8}

theorem readText_of_notText (readable : read path = .ok bytes) (notText : decode? bytes = none) :
    readText read path = .error .notText := by
  simp [readText, readable, notText, bind, Except.bind]

theorem readText_of_text {source : String} (readable : read path = .ok bytes)
    (text : decode? bytes = some source) : readText read path = .ok source := by
  simp [readText, readable, text, bind, Except.bind]

end Content

/-! ## The verdict -/

/-- What a plain run on a readable script prints and exits with, for every content: the failure of
    a script that is no text is one line and nothing else; the tokens of a text are all printed
    unless the run is quiet; the diagnostics, one for each fault and in their order, each with an
    empty line below it, are counted in the last line.  A run that differs in being quiet only, such
    as one with the switch in front of the same arguments, prints the same errors and exits with the
    same code. -/
theorem script_verdict {args : List String} {environment : Environment} {s : Settings}
    {read : String → Except ReadError (List UInt8)} (input : List UInt8) {path : String}
    {bytes : List UInt8} (starts : Starts args environment (some path) s) (plain : s.Plain)
    (oneLine : '\n' ∉ path.toList) (readable : read path = .ok bytes) :
    (decode? bytes = none →
      let line := "error: could not read file '" ++ path ++ "': stream did not contain valid UTF-8"
      '\n' ∉ line.toList ∧ run args environment read input = .ok ⟨74, ⟨"", line ++ "\n"⟩⟩) ∧
    (∀ source, decode? bytes = some source →
      let count := (scan source).faults.length
      let ds := diagnosticsOf path source
      Diagnoses path source ds ∧
        (∀ d ∈ ds, ∃ rows, d.display false = rows ++ "\n") ∧
        run args environment read input = .ok ⟨if count = 0 then 0 else 65,
          ⟨if s.quiet then "" else Token.dump (scan source).tokens,
            if count = 0 then ""
            else
              String.join (ds.map fun d => d.display false ++ "\n") ++ count.repr ++
                (if count = 1 then " error" else " errors") ++ " generated\n"⟩⟩) ∧
    (s.quiet = false → Starts ("--quiet" :: args) environment (some path) s.hush) ∧
    ∀ quietArgs, Starts quietArgs environment (some path) s.hush →
      ∃ code stdout stderr,
        run args environment read input = .ok ⟨code, ⟨stdout, stderr⟩⟩ ∧
        run quietArgs environment read input = .ok ⟨code, ⟨"", stderr⟩⟩ := by
  refine ⟨?notText, ?text, starts.hush, ?quiet⟩
  case notText =>
    intro notText line
    refine ⟨by simp [line, oneLine], ?_⟩
    rw [starts.run_eq, Option.elim_some, s.runScript_of_unreadable (readText_of_notText readable notText),
      plain.failureLine_eq]
    simp only [line, String.append_assoc]
    rfl
  case text =>
    intro source text count ds
    have shown := diagnoses path source
    have asMany : ds.length = count := shown.each.length_eq.symm
    refine ⟨shown, fun d _ => exists_display_eq false d, ?_⟩
    rw [starts.run_eq, Option.elim_some, s.runScript_of_text (readText_of_text readable text),
      plain.silent.write_eq, plain.verdict_eq, String.empty_append, asMany]
    have code : (if ds.isEmpty then ExitCode.success else ExitCode.faults) =
        if count = 0 then 0 else 65 := by
      simp only [← asMany, List.isEmpty_iff, List.length_eq_zero_iff]
      rfl
    rw [code]
    rfl
  case quiet =>
    intro quietArgs quietStarts
    obtain ⟨o, ran, hushed⟩ := s.runScript_hush read path
    refine ⟨o.code, o.output.stdout, o.output.stderr, ?_, ?_⟩
    · rw [starts.run_eq, Option.elim_some, ran]
    · rw [quietStarts.run_eq, Option.elim_some, hushed]
      rfl

/-- A script with two faults, read with and without the switch, and one that is no text. -/
theorem script_verdict_two_faults :
    let environment : Environment := ⟨none, none, none, some "xterm"⟩
    let errors :=
      "error[E001]: Unexpected character.\n --> a.lox:1:1\n" ++
      "  |\n1 | #\n  | ^ unexpected character\n  |\n" ++
      "   = note: '#' does not start any token\n\n" ++
      "error[E002]: Unterminated string.\n --> a.lox:2:1\n" ++
      "  |\n2 | \"\n  | ^ string starts here\n  |\n" ++
      "   = help: add a closing '\"' at the end of the string\n\n2 errors generated\n"
    let failure := "error: could not read file 'a.lox': stream did not contain valid UTF-8\n"
    let read : String → Except ReadError (List UInt8) := fun _ => .ok [35, 10, 34]
    let read' : String → Except ReadError (List UInt8) := fun _ => .ok [255]
    (∃ s, Starts ["a.lox"] environment (some "a.lox") s ∧ s.Plain) ∧ '\n' ∉ "a.lox".toList ∧
      run ["a.lox"] environment read [] = .ok ⟨65, ⟨"EOF  null\n", errors⟩⟩ ∧
      run ["--quiet", "a.lox"] environment read [] = .ok ⟨65, ⟨"", errors⟩⟩ ∧
      run ["a.lox"] environment read' [] = .ok ⟨74, ⟨"", failure⟩⟩ := by
  intro environment errors failure read read'
  let o : Options := ⟨some "a.lox", false, false, 0⟩
  let s : Settings := ⟨false, false, .ofVerbosity 0, false⟩
  have settings : Settings.of o environment = .ok s := by decide +kernel
  have starts : Starts ["a.lox"] environment (some "a.lox") s :=
    ⟨o, by decide +kernel, rfl, settings⟩
  have plain : s.Plain := Settings.plain_of_unset settings rfl rfl rfl
  have oneLine : '\n' ∉ "a.lox".toList := by decide
  have readable : read "a.lox" = .ok [35, 10, 34] := rfl
  have readable' : read' "a.lox" = .ok [255] := rfl
  obtain ⟨-, verdict, hushed, quiet⟩ := script_verdict [] starts plain oneLine readable
  obtain ⟨-, -, ran⟩ := verdict "#\n\"" (by decide +kernel)
  have printed : run ["a.lox"] environment read [] = .ok ⟨65, ⟨"EOF  null\n", errors⟩⟩ :=
    ran.trans (by decide +kernel)
  obtain ⟨code, stdout, stderr, loud, silent⟩ := quiet _ (hushed rfl)
  rw [printed] at loud
  cases loud
  obtain ⟨notText, -⟩ := script_verdict [] starts plain oneLine readable'
  exact ⟨⟨_, starts, plain⟩, oneLine, printed, silent, (notText (by decide +kernel)).2⟩

end LoxFront.Command
