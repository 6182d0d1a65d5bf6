import LoxFront.Proofs.Command.Start

/-! # Lines at the prompt

A plain run at the prompt prints, line after line, what each of them gives alone: its tokens, and
its diagnostics under the name that has its number.  Nothing but the number goes from one line to
the next (`runLines_append`), so neither a blank line nor a fault changes what the lines below it
print, and when a line cannot be read, what was printed for the lines above it stays
(`prompt_prints`).
-/

namespace LoxFront.Command

/-! ## Lines of an input -/

/-- How an input falls into lines: each is ended by a LF, or by a CR and a LF, and what stands
    behind the last ending is a line if it is anything. -/
inductive Reads : List UInt8 → List (List UInt8) → Prop where
  | nothing : Reads [] []
  | last {line : List UInt8} (unended : 10 ∉ line) (nonempty : line ≠ []) : Reads line [line]
  | lf {line rest : List UInt8} {lines : List (List UInt8)} (whole : 10 ∉ line)
      (noCR : line.getLast? ≠ some 13) (reads : Reads rest lines) :
      Reads (line ++ 10 :: rest) (line :: lines)
  | crlf {line rest : List UInt8} {lines : List (List UInt8)} (whole : 10 ∉ line)
      (reads : Reads rest lines) : Reads (line ++ 13 :: 10 :: rest) (line :: lines)

theorem inputLines_of_notMem {line : List UInt8} (whole : 10 ∉ line) :
    inputLines line = if line.isEmpty then [] else [line] := by
  simp [inputLines, List.splitOn_eq_singleton whole]

theorem inputLines_append {line : List UInt8} (whole : 10 ∉ line) (rest : List UInt8) :
    inputLines (line ++ 10 :: rest) =
      (if line.getLast? = some 13 then line.dropLast else line) :: inputLines rest := by
  have nonempty := List.splitOn_ne_nil 10 rest
  unfold inputLines
  rw [List.splitOn_append_cons_self_of_not_mem whole]
  dsimp only
  rw [List.dropLast_cons_of_ne_nil nonempty, List.map_cons, List.getLast?_cons_of_ne_nil nonempty]
  split <;> split <;> simp

theorem Reads.eq {input : List UInt8} {lines : List (List UInt8)} (reads : Reads input lines) :
    lines = inputLines input := by
  induction reads with
  | nothing => rfl
  | last unended nonempty =>
    rw [inputLines_of_notMem unended, if_neg (by simpa using nonempty)]
  | lf whole noCR reads ih => rw [inputLines_append whole, if_neg noCR, ih]
  | @crlf line rest lines whole reads ih =>
    have whole' : 10 ∉ line ++ [13] := by simp [whole]
    rw [List.append_cons line 13, inputLines_append whole', ih]
    simp

theorem reads_inputLines (input : List UInt8) : Reads input (inputLines input) := by
  induction h : input.length using Nat.strong_induction_on generalizing input with
  | _ length ih =>
    by_cases ended : 10 ∈ input
    · obtain ⟨line, rest, rfl, whole⟩ := List.eq_append_cons_of_mem ended
      rw [inputLines_append whole]
      have reads := ih rest.length (by simp at h; omega) rest rfl
      split
      · rename_i isCR
        obtain ⟨front, rfl⟩ : ∃ front, line = front ++ [13] := List.getLast?_eq_some_iff.1 isCR
        rw [List.dropLast_concat, List.append_assoc]
        exact .crlf (fun member => whole (List.mem_append_left _ member)) reads
      · rename_i noCR
        exact .lf whole noCR reads
    · rw [inputLines_of_notMem ended]
      split
      · rename_i empty
        rw [List.isEmpty_iff.1 empty]
        exact .nothing
      · rename_i nonempty
        exact .last ended (by simpa using nonempty)

/-- An input falls into lines in one way. -/
theorem reads_iff {input : List UInt8} {lines : List (List UInt8)} :
    Reads input lines ↔ lines = inputLines input :=
  ⟨Reads.eq, fun same => same ▸ reads_inputLines input⟩

/-! ## Typed lines -/

/-- A line is a text, and types another one: itself, unless there are backspaces in it. -/
def Yields (line : List UInt8) (text : String) : Prop :=
  ∃ typed, decode? line = some typed ∧ Text.typed? typed.toList = some text.toList

theorem yields_of_notMem {line : List UInt8} {text : String} (isText : decode? line = some text)
    (noBackspace : Text.backspace ∉ text.toList) : Yields line text :=
  ⟨text, isText, Text.typed?_eq_some noBackspace⟩

/-! ## What lines print -/

/-- The tokens of lines, one line after the other. -/
def lineTokens (quiet : Bool) (texts : List String) : String :=
  if quiet then "" else String.join (texts.map fun text => Token.dump (scan text).tokens)

/-- The diagnostics of lines of which `number` have been read before, one line after the other. -/
def lineFaults (number : Nat) (texts : List String) : String :=
  String.join (texts.mapIdx fun i text =>
    String.join ((diagnosticsOf (lineName (number + i + 1)) text).map (Diagnostic.display false)))

theorem lineTokens_nil (quiet : Bool) : lineTokens quiet [] = "" := by
  cases quiet <;> rfl

theorem lineTokens_cons (quiet : Bool) (text : String) (texts : List String) :
    lineTokens quiet (text :: texts) =
      (if quiet then "" else Token.dump (scan text).tokens) ++ lineTokens quiet texts := by
  cases quiet with
  | true => rfl
  | false => exact String.join_cons

theorem lineFaults_nil (number : Nat) : lineFaults number [] = "" := rfl

theorem lineFaults_cons (number : Nat) (text : String) (texts : List String) :
    lineFaults number (text :: texts) =
      String.join ((diagnosticsOf (lineName (number + 1)) text).map (Diagnostic.display false)) ++
        lineFaults (number + 1) texts := by
  have next : ∀ i, number + (i + 1) + 1 = number + 1 + i + 1 := fun i => by omega
  simp only [lineFaults, List.mapIdx_cons, String.join_cons, next, Nat.add_zero]

/-! ## Running -/

theorem Output.empty_append (o : Output) : Output.empty ++ o = o := by
  show (⟨"" ++ o.stdout, "" ++ o.stderr⟩ : Output) = o
  rw [String.empty_append, String.empty_append]

theorem Yields.typeLine_eq {line : List UInt8} {text : String} (yields : Yields line text)
    (number : Nat) :
    ∃ typed, decode? line = some typed ∧ typeLine number typed = .ok text := by
  obtain ⟨typed, isText, types⟩ := yields
  exact ⟨typed, isText, by simp [typeLine, types]⟩

namespace Settings.Plain

variable {s : Settings} (plain : s.Plain)
include plain

theorem runLine_eq (number : Nat) (text : String) :
    s.runLine number text = .ok ⟨s.listTokens (scan text).tokens,
      String.join ((diagnosticsOf (lineName number) text).map (Diagnostic.display false))⟩ := by
  rw [runLine, checkText_eq, plain.silent.write_eq, plain.colours]
  simp [bind, Except.bind, pure, Except.pure]

variable (noPrompt : s.plainTerminal = false)
include noPrompt

theorem prompt_eq : s.prompt = .empty := by
  rw [prompt, noPrompt, plain.silent.write_eq]
  rfl

theorem runLines_nil (number : Nat) : s.runLines number [] = .ok ⟨0, .empty⟩ := by
  rw [runLines, plain.prompt_eq noPrompt, plain.silent.write_eq]
  rfl

theorem runLines_of_notText {line : List UInt8} (notText : decode? line = none) (number : Nat)
    (below : List (List UInt8)) :
    s.runLines number (line :: below) = .ok ⟨1,
      ⟨"", "error: line editor failed: stream did not contain valid UTF-8\n"⟩⟩ := by
  rw [runLines, notText]
  dsimp only
  rw [plain.prompt_eq noPrompt, Output.empty_append, plain.failureLine_eq]
  rfl

/-- One line prints what it gives alone, in front of what the lines below it print. -/
theorem runLines_cons {line : List UInt8} {text : String} (yields : Yields line text)
    {number : Nat} {below : List (List UInt8)} {o : Outcome}
    (ran : s.runLines (number + 1) below = .ok o) :
    s.runLines number (line :: below) = .ok ⟨o.code,
      ⟨s.listTokens (scan text).tokens ++ o.output.stdout,
        String.join ((diagnosticsOf (lineName (number + 1)) text).map (Diagnostic.display false)) ++
          o.output.stderr⟩⟩ := by
  obtain ⟨typed, isText, types⟩ := yields.typeLine_eq (number + 1)
  simp only [runLines, isText, types, plain.runLine_eq, ran, plain.prompt_eq noPrompt,
    Output.empty_append, bind, Except.bind, pure, Except.pure]
  rfl

/-- Lines that can be read print what each of them gives alone, in front of what the lines below
    them print; only their count goes on. -/
theorem runLines_append {lines : List (List UInt8)} {texts : List String}
    (yield : List.Forall₂ Yields lines texts) (number : Nat) {below : List (List UInt8)}
    {o : Outcome} (ran : s.runLines (number + lines.length) below = .ok o) :
    s.runLines number (lines ++ below) = .ok ⟨o.code,
      ⟨lineTokens s.quiet texts ++ o.output.stdout,
        lineFaults number texts ++ o.output.stderr⟩⟩ := by
  induction yield generalizing number with
  | nil =>
    rw [lineTokens_nil, lineFaults_nil, String.empty_append, String.empty_append]
    exact ran
  | @cons line text lines texts first others ih =>
    rw [List.length_cons, Nat.add_comm lines.length, ← Nat.add_assoc] at ran
    rw [List.cons_append, plain.runLines_cons noPrompt first (ih (number + 1) ran),
      lineTokens_cons, lineFaults_cons, String.append_assoc, String.append_assoc]
    rfl

end Settings.Plain

/-- What a plain run at the prompt prints and exits with.  If every line can be read, it prints the
    tokens of each line, scanned alone, and the diagnostics of each line under its number, counted
    from one, and it exits without a failure, whatever the lines hold.  At the first line that
    cannot be read it prints one line about that and stops, with what the lines above have printed
    in front of it.  Lines without backspaces are scanned as they stand. -/
theorem prompt_prints {args : List String} {environment : Environment} {s : Settings}
    (read : String → Except ReadError (List UInt8)) {input : List UInt8}
    {lines : List (List UInt8)} (starts : Starts args environment none s) (plain : s.Plain)
    (noPrompt : s.plainTerminal = false) (reads : Reads input lines) :
    (∀ texts, List.Forall₂ Yields lines texts →
      run args environment read input =
        .ok ⟨0, ⟨lineTokens s.quiet texts, lineFaults 0 texts⟩⟩) ∧
    (∀ above line below texts, lines = above ++ line :: below → List.Forall₂ Yields above texts →
      decode? line = none →
      run args environment read input =
        .ok ⟨1, ⟨lineTokens s.quiet texts, lineFaults 0 texts ++
          "error: line editor failed: stream did not contain valid UTF-8\n"⟩⟩) ∧
    (∀ line text, decode? line = some text → Text.backspace ∉ text.toList → Yields line text) ∧
    ∀ number text, Diagnoses (lineName number) text (diagnosticsOf (lineName number) text) := by
  have started : run args environment read input = s.runLines 0 lines := by
    rw [starts.run_eq, reads.eq]
    rfl
  refine ⟨?finished, ?stopped, fun _ _ => yields_of_notMem, fun _ _ => diagnoses _ _⟩
  case finished =>
    intro texts yield
    have ran := plain.runLines_append noPrompt yield 0 (plain.runLines_nil noPrompt _)
    rw [List.append_nil] at ran
    rw [started, ran]
    simp [Output.empty]
  case stopped =>
    intro above line below texts split yield notText
    rw [started, split,
      plain.runLines_append noPrompt yield 0 (plain.runLines_of_notText noPrompt notText _ below)]
    simp

/-- Two lines with a fault and a blank line between them, and then a line that is no text. -/
theorem prompt_prints_until_failure :
    let environment : Environment := ⟨none, none, none, some "xterm"⟩
    let tokens := "EOF  null\nEOF  null\nNUMBER 1 1\nEOF  null\n"
    let errors :=
      "error[E001]: Unexpected character.\n --> <repl:1>:1:1\n" ++
      "  |\n1 | #\n  | ^ unexpected character\n  |\n" ++
      "   = note: '#' does not start any token\n" ++
      "error[E002]: Unterminated string.\n --> <repl:3>:1:2\n" ++
      "  |\n1 | 1\"\n  |  ^ string starts here\n  |\n" ++
      "   = help: add a closing '\"' at the end of the string\n"
    let failure := "error: line editor failed: stream did not contain valid UTF-8\n"
    let read : String → Except ReadError (List UInt8) := fun _ => .error .noSuchFile
    (∃ s, Starts [] environment none s ∧ s.Plain ∧ s.plainTerminal = false) ∧
      Reads [35, 13, 10, 10, 49, 34, 10, 255] [[35], [], [49, 34], [255]] ∧
      run [] environment read [35, 13, 10, 10, 49, 34] =
        .ok ⟨0, ⟨tokens, errors⟩⟩ ∧
      run [] environment read [35, 13, 10, 10, 49, 34, 10, 255] =
        .ok ⟨1, ⟨tokens, errors ++ failure⟩⟩ := by
  intro environment tokens errors failure read
  let s : Settings := ⟨false, false, .ofVerbosity 0, false⟩
  have settings : Settings.of .initial environment = .ok s := by decide +kernel
  have starts : Starts [] environment none s := ⟨.initial, rfl, rfl, settings⟩
  have plain : s.Plain := Settings.plain_of_unset settings rfl rfl rfl
  have yield : List.Forall₂ Yields [[35], [], [49, 34]] ["#", "", "1\""] :=
    .cons (yields_of_notMem (by decide +kernel) (by decide))
      (.cons (yields_of_notMem (by decide +kernel) (by decide))
        (.cons (yields_of_notMem (by decide +kernel) (by decide)) .nil))
  have reads : Reads [35, 13, 10, 10, 49, 34] [[35], [], [49, 34]] :=
    reads_iff.2 (by decide +kernel)
  have reads' : Reads [35, 13, 10, 10, 49, 34, 10, 255] [[35], [], [49, 34], [255]] :=
    reads_iff.2 (by decide +kernel)
  obtain ⟨finished, -⟩ := prompt_prints read starts plain rfl reads
  obtain ⟨-, stopped, -⟩ := prompt_prints read starts plain rfl reads'
  have ran := finished _ yield
  have ran' := stopped [[35], [], [49, 34]] [255] [] _ rfl yield (by decide +kernel)
  have tokens_eq : lineTokens false ["#", "", "1\""] = tokens := by decide +kernel
  have errors_eq : lineFaults 0 ["#", "", "1\""] = errors := by decide +kernel
  rw [tokens_eq, errors_eq] at ran ran'
  exact ⟨⟨_, starts, plain, rfl⟩, reads', ran, ran'⟩

end LoxFront.Command
