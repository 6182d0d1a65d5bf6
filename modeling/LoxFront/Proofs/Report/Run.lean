import LoxFront.Proofs.Report.Check

/-! # Runs of a report

Steps may fail, and a run goes on after a failure.  A step fails exactly where it needs the location
of an offset that splits a character of the listed text (`fails_iff`), and what it stores then is
what it had stored before that, nothing for a report on its own and the diagnostics of the faults in
front for a scan.  `Performs` says this step by step and `Runs` of a run, in which every step finds
what those before it have stored (`runs_run`).
-/

namespace LoxFront

open Text (SplitsCharacter)

namespace Report

/-! ## What a step asks for -/

/-- The offsets that a step needs the locations of, in this order. -/
def Step.offsets : Step → List Nat
  | .lineText _ => []
  | .locate offset => [offset]
  | .annotate _ offset _ _ => [offset]
  | .fault f => [f.offset]
  | .scan source => (LoxFront.scan source).faults.map Fault.offset

/-- The diagnostics that a step asks the listing for in order to store them. -/
def Step.diagnoses (l : Listing) : Step → List (Except LocateError Diagnostic)
  | .lineText _ => []
  | .locate _ => []
  | .annotate d offset length label => [l.annotate d offset length label]
  | .fault f => [l.diagnose f]
  | .scan source => (LoxFront.scan source).faults.map l.diagnose

/-- The results in front of the first failure. -/
def untilFailure {ε α : Type} : List (Except ε α) → List α
  | .ok a :: rest => a :: untilFailure rest
  | _ => []

/-- The diagnostics that a step stores, those of its successful reports. -/
def Step.stored (l : Listing) (s : Step) : List Diagnostic :=
  untilFailure (s.diagnoses l)

/-- The report after steps. -/
def after (r : Report) (steps : List Step) : Report :=
  steps.foldl (fun r s => (r.step s).2) r

/-! ## What a step does -/

/-- Faults are reported as diagnostics, one for each. -/
def Reported (l : Listing) (faults : List Fault) (ds : List Diagnostic) : Prop :=
  List.Forall₂ (fun f d => ¬SplitsCharacter f.offset l.source ∧ l.diagnose f = .ok d) faults ds

/-- What a step on a listing answers, and the diagnostics that it stores. -/
inductive Performs (l : Listing) : Step → Except LocateError Answer → List Diagnostic → Prop where
  | lineText (line : Nat) :
      Performs l (.lineText line) (.ok (.text (String.ofList (l.lineText line)))) []
  | located {offset : Nat} {loc : Location} (whole : ¬SplitsCharacter offset l.source)
      (found : l.locate offset = .ok loc) :
      Performs l (.locate offset)
        (.ok (.location loc (String.ofList (l.lineText loc.line)))) []
  | unlocated {offset : Nat} (splits : SplitsCharacter offset l.source) :
      Performs l (.locate offset) (.error (.insideCharacter offset)) []
  | annotated {d annotated : Diagnostic} {offset length : Nat} {label : String}
      (whole : ¬SplitsCharacter offset l.source)
      (found : l.annotate d offset length label = .ok annotated) :
      Performs l (.annotate d offset length label) (.ok .stored) [annotated]
  | unannotated {d : Diagnostic} {offset length : Nat} {label : String}
      (splits : SplitsCharacter offset l.source) :
      Performs l (.annotate d offset length label) (.error (.insideCharacter offset)) []
  | reported {f : Fault} {d : Diagnostic} (whole : ¬SplitsCharacter f.offset l.source)
      (found : l.diagnose f = .ok d) :
      Performs l (.fault f) (.ok .stored) [d]
  | unreported {f : Fault} (splits : SplitsCharacter f.offset l.source) :
      Performs l (.fault f) (.error (.insideCharacter f.offset)) []
  | scanned {source : String} {ds : List Diagnostic}
      (reported : Reported l (scan source).faults ds) :
      Performs l (.scan source) (.ok (.tokens (scan source).tokens)) ds
  | stopped {source : String} {seen rest : List Fault} {f : Fault} {ds : List Diagnostic}
      (faults : (scan source).faults = seen ++ f :: rest) (reported : Reported l seen ds)
      (splits : SplitsCharacter f.offset l.source) :
      Performs l (.scan source) (.error (.insideCharacter f.offset)) ds

/-- A run from what is stored at first to what is stored at last.  Every step performs and leaves
    what was stored before it in front of what it stores itself. -/
inductive Runs (l : Listing) : Array Diagnostic → List Step →
    List (Except LocateError Answer × Report) → Array Diagnostic → Prop where
  | nil (stored : Array Diagnostic) : Runs l stored [] [] stored
  | cons {stored final : Array Diagnostic} {s : Step} {answer : Except LocateError Answer}
      {ds : List Diagnostic} {steps : List Step}
      {outcomes : List (Except LocateError Answer × Report)}
      (first : Performs l s answer ds) (rest : Runs l (stored ++ ds.toArray) steps outcomes final) :
      Runs l stored (s :: steps) ((answer, ⟨l, stored ++ ds.toArray⟩) :: outcomes) final

/-! ## Steps -/

section Steps

variable {r : Report} {offset : Nat} {e : LocateError}

theorem step_lineText (r : Report) (line : Nat) :
    r.step (.lineText line) = (.ok (.text (String.ofList (r.listing.lineText line))), r) := rfl

theorem step_locate {loc : Location} (located : r.listing.locate offset = .ok loc) :
    r.step (.locate offset) =
      (.ok (.location loc (String.ofList (r.listing.lineText loc.line))), r) := by
  have answer := run_ask (·.locate offset) r
  rw [located] at answer
  rw [step, perform, run_bind_ok answer]
  rfl

theorem step_locate_error (unlocated : r.listing.locate offset = .error e) :
    r.step (.locate offset) = (.error e, r) := by
  have answer := run_ask (·.locate offset) r
  rw [unlocated] at answer
  rw [step, perform, run_bind_error answer]

/-- The outcome of a report: one more diagnostic, or a failure and the report as it was. -/
def outcome (r : Report) : Except LocateError Diagnostic → Except LocateError Answer × Report
  | .ok d => (.ok .stored, { r with diagnostics := r.diagnostics.push d })
  | .error e => (.error e, r)

theorem run_store_stored (diagnostic : Listing → Except LocateError Diagnostic) (r : Report) :
    (store diagnostic >>= fun _ => (return .stored : ReportM Answer)).run.run r =
      r.outcome (diagnostic r.listing) := by
  have stored := run_store diagnostic r
  cases given : diagnostic r.listing with
  | ok d =>
    rw [given] at stored
    rw [run_bind_ok stored]
    rfl
  | error e =>
    rw [given] at stored
    rw [run_bind_error stored]
    rfl

theorem step_annotate (r : Report) (d : Diagnostic) (offset length : Nat) (label : String) :
    r.step (.annotate d offset length label) =
      r.outcome (r.listing.annotate d offset length label) :=
  run_store_stored (·.annotate d offset length label) r

theorem step_fault (r : Report) (f : Fault) :
    r.step (.fault f) = r.outcome (r.listing.diagnose f) :=
  run_store_stored (·.diagnose f) r

end Steps

section Scans

variable {l : Listing} {ds : List Diagnostic} {source : String}

theorem step_scan
    (diagnosed : List.Forall₂ (fun f d => l.diagnose f = .ok d) (scan source).faults ds)
    (stored : Array Diagnostic) :
    (⟨l, stored⟩ : Report).step (.scan source) =
      (.ok (.tokens (scan source).tokens), ⟨l, stored ++ ds.toArray⟩) := by
  have scanned : (scanWith fault source).run.run ⟨l, stored⟩ =
      (.ok (scan source).tokens, ⟨l, stored ++ ds.toArray⟩) := by
    rw [scanWith_eq, run_bind_ok (run_forM_fault diagnosed stored)]
    rfl
  rw [step, perform, run_bind_ok scanned]
  rfl

/-- The faults behind one that has no diagnostic are not reported any more. -/
theorem run_forM_fault_stopped {seen : List Fault} {f : Fault} {e : LocateError}
    (diagnosed : List.Forall₂ (fun f d => l.diagnose f = .ok d) seen ds)
    (fails : l.diagnose f = .error e) (rest : List Fault) (stored : Array Diagnostic) :
    ((seen ++ f :: rest).forM fault).run.run ⟨l, stored⟩ =
      (.error e, ⟨l, stored ++ ds.toArray⟩) := by
  have stop : (fault f).run.run ⟨l, stored ++ ds.toArray⟩ =
      (.error e, ⟨l, stored ++ ds.toArray⟩) := by
    rw [fault, run_store, fails]
  have parts : (seen ++ f :: rest).forM fault = seen.forM fault >>= fun _ =>
      (f :: rest).forM fault := List.forM_append
  rw [parts, run_bind_ok (run_forM_fault diagnosed stored), List.forM, run_bind_error stop]

theorem step_scan_stopped {seen rest : List Fault} {f : Fault} {e : LocateError}
    (faults : (scan source).faults = seen ++ f :: rest)
    (diagnosed : List.Forall₂ (fun f d => l.diagnose f = .ok d) seen ds)
    (fails : l.diagnose f = .error e) (stored : Array Diagnostic) :
    (⟨l, stored⟩ : Report).step (.scan source) = (.error e, ⟨l, stored ++ ds.toArray⟩) := by
  have stopped : (scanWith fault source).run.run ⟨l, stored⟩ =
      (.error e, ⟨l, stored ++ ds.toArray⟩) := by
    rw [scanWith_eq, faults, run_bind_error (run_forM_fault_stopped diagnosed fails rest stored)]
  rw [step, perform, run_bind_error stopped]

end Scans

/-! ## Reports of a text -/

section OfSource

variable {file source : String}

theorem exists_diagnose (file : String) {f : Fault}
    (whole : ¬SplitsCharacter f.offset source.toList) :
    ∃ d, (Listing.ofSource file source).diagnose f = .ok d := by
  obtain ⟨before, after, -, -, located⟩ := Listing.exists_place file whole
  exact Listing.exists_diagnose_of_located located

theorem diagnose_of_splitsCharacter (file : String) {f : Fault}
    (splits : SplitsCharacter f.offset source.toList) :
    (Listing.ofSource file source).diagnose f = .error (.insideCharacter f.offset) :=
  Listing.diagnose_of_unlocated (Listing.locate_of_splitsCharacter file splits)

theorem Reported.diagnosed {l : Listing} {faults : List Fault} {ds : List Diagnostic}
    (reported : Reported l faults ds) :
    List.Forall₂ (fun f d => l.diagnose f = .ok d) faults ds :=
  ((List.forall₂_and_left faults ds).1 reported).2

theorem Reported.whole {l : Listing} {faults : List Fault} {ds : List Diagnostic}
    (reported : Reported l faults ds) : ∀ f ∈ faults, ¬SplitsCharacter f.offset l.source :=
  ((List.forall₂_and_left faults ds).1 reported).1

/-- Either all faults are reported, or there is a first one that is not. -/
theorem reported_or_stopped (file source : String) (faults : List Fault) :
    (∃ ds, Reported (.ofSource file source) faults ds) ∨
      ∃ seen f rest ds, faults = seen ++ f :: rest ∧
        Reported (.ofSource file source) seen ds ∧ SplitsCharacter f.offset source.toList := by
  induction faults with
  | nil => exact .inl ⟨[], .nil⟩
  | cons f faults ih =>
    by_cases splits : SplitsCharacter f.offset source.toList
    · exact .inr ⟨[], f, faults, [], rfl, .nil, splits⟩
    · obtain ⟨d, found⟩ := exists_diagnose file splits
      obtain ⟨ds, reported⟩ | ⟨seen, g, rest, ds, rfl, reported, stops⟩ := ih
      · exact .inl ⟨d :: ds, .cons ⟨splits, found⟩ reported⟩
      · exact .inr ⟨f :: seen, g, rest, d :: ds, rfl, .cons ⟨splits, found⟩ reported, stops⟩

/-- A step performs, whatever is stored already. -/
theorem exists_performs (file source : String) (stored : Array Diagnostic) (s : Step) :
    ∃ answer ds, Performs (.ofSource file source) s answer ds ∧
      (⟨.ofSource file source, stored⟩ : Report).step s =
        (answer, ⟨.ofSource file source, stored ++ ds.toArray⟩) := by
  cases s with
  | lineText line => exact ⟨_, [], .lineText line, step_lineText _ line⟩
  | locate offset =>
    by_cases splits : SplitsCharacter offset source.toList
    · have unlocated := Listing.locate_of_splitsCharacter file splits
      exact ⟨_, [], .unlocated splits, step_locate_error unlocated⟩
    · obtain ⟨before, after, -, -, located⟩ := Listing.exists_place file splits
      exact ⟨_, [], .located splits located, step_locate located⟩
  | annotate d offset length label =>
    by_cases splits : SplitsCharacter offset source.toList
    · have unannotated := Listing.annotate_of_unlocated
        (Listing.locate_of_splitsCharacter file splits) d length label
      refine ⟨_, [], .unannotated splits, ?_⟩
      rw [step_annotate, unannotated]
      rfl
    · obtain ⟨before, after, -, -, located⟩ := Listing.exists_place file splits
      have annotated := Listing.annotate_of_located located d length label
      refine ⟨_, [_], .annotated splits annotated, ?_⟩
      rw [step_annotate, annotated]
      rfl
  | fault f =>
    by_cases splits : SplitsCharacter f.offset source.toList
    · refine ⟨_, [], .unreported splits, ?_⟩
      rw [step_fault, diagnose_of_splitsCharacter file splits]
      rfl
    · obtain ⟨d, found⟩ := exists_diagnose file splits
      refine ⟨_, [d], .reported splits found, ?_⟩
      rw [step_fault, found]
      rfl
  | scan text =>
    obtain ⟨ds, reported⟩ | ⟨seen, f, rest, ds, faults, reported, splits⟩ :=
      reported_or_stopped file source (LoxFront.scan text).faults
    · exact ⟨_, ds, .scanned reported, step_scan reported.diagnosed stored⟩
    · have fails := diagnose_of_splitsCharacter file splits
      exact ⟨_, ds, .stopped faults reported splits,
        step_scan_stopped faults reported.diagnosed fails stored⟩

/-! ## When a step fails, and what it stores -/

theorem Performs.fails_iff {l : Listing} {s : Step} {answer : Except LocateError Answer}
    {ds : List Diagnostic} (performs : Performs l s answer ds) :
    (∃ e, answer = .error e) ↔ ∃ offset ∈ s.offsets, SplitsCharacter offset l.source := by
  cases performs with
  | lineText line => simp [Step.offsets]
  | located whole found => simp [Step.offsets, whole]
  | unlocated splits => simp [Step.offsets, splits]
  | annotated whole found => simp [Step.offsets, whole]
  | unannotated splits => simp [Step.offsets, splits]
  | reported whole found => simp [Step.offsets, whole]
  | unreported splits => simp [Step.offsets, splits]
  | scanned reported => simpa [Step.offsets] using reported.whole
  | stopped faults reported splits =>
    refine iff_of_true ⟨_, rfl⟩ ⟨_, ?_, splits⟩
    simp [Step.offsets, faults]

theorem untilFailure_append {ε α : Type} (as : List α) (rest : List (Except ε α)) :
    untilFailure (as.map .ok ++ rest) = as ++ untilFailure rest := by
  induction as with
  | nil => rfl
  | cons a as ih => rw [List.map_cons, List.cons_append, untilFailure, ih, List.cons_append]

theorem Performs.stored_eq {s : Step} {answer : Except LocateError Answer} {ds : List Diagnostic}
    (performs : Performs (.ofSource file source) s answer ds) :
    s.stored (.ofSource file source) = ds := by
  cases performs with
  | lineText line => rfl
  | located whole found => rfl
  | unlocated splits => rfl
  | annotated whole found => rw [Step.stored, Step.diagnoses, found]; rfl
  | unannotated splits =>
    have unlocated := Listing.locate_of_splitsCharacter file splits
    rw [Step.stored, Step.diagnoses, Listing.annotate_of_unlocated unlocated]
    rfl
  | reported whole found => rw [Step.stored, Step.diagnoses, found]; rfl
  | unreported splits =>
    rw [Step.stored, Step.diagnoses, diagnose_of_splitsCharacter file splits]
    rfl
  | scanned reported =>
    have diagnosed := forall₂_diagnose_iff.1 reported.diagnosed
    rw [Step.stored, Step.diagnoses, diagnosed, ← List.append_nil (ds.map _), untilFailure_append]
    exact List.append_nil ds
  | stopped faults reported splits =>
    have diagnosed := forall₂_diagnose_iff.1 reported.diagnosed
    rw [Step.stored, Step.diagnoses, faults, List.map_append, diagnosed, untilFailure_append,
      List.map_cons, diagnose_of_splitsCharacter file splits]
    exact List.append_nil ds

/-! ## Runs -/

theorem runs_run (file source : String) (stored : Array Diagnostic) (steps : List Step) :
    Runs (.ofSource file source) stored steps (run ⟨.ofSource file source, stored⟩ steps)
      (after ⟨.ofSource file source, stored⟩ steps).diagnostics := by
  induction steps generalizing stored with
  | nil => exact .nil stored
  | cons s steps ih =>
    obtain ⟨answer, ds, performs, step⟩ := exists_performs file source stored s
    have rest := ih (stored ++ ds.toArray)
    rw [run, after, List.foldl_cons, step]
    exact .cons performs rest

/-- A run stores what its steps store, one after another. -/
theorem Runs.diagnostics_eq {stored final : Array Diagnostic} {steps : List Step}
    {outcomes : List (Except LocateError Answer × Report)}
    (runs : Runs (.ofSource file source) stored steps outcomes final) :
    final.toList = stored.toList ++ steps.flatMap (Step.stored (.ofSource file source)) := by
  induction runs with
  | nil stored => exact (List.append_nil _).symm
  | cons first rest ih =>
    rw [ih, List.flatMap_cons, first.stored_eq, Array.toList_append, List.append_assoc]

end OfSource

theorem hasDiagnostics_iff (r : Report) : r.hasDiagnostics = true ↔ r.count ≠ 0 := by
  simp [hasDiagnostics, count]

/-- Steps on a report of a text run as `Runs` says.  A step fails exactly if it needs the location
    of an offset that splits a character of the text.  The report holds the diagnostics of all the
    successful reports in their order, and counts them. -/
theorem run_stores (file source : String) (steps : List Step) :
    Runs (.ofSource file source) #[] steps (run (.ofListing (.ofSource file source)) steps)
      (after (.ofListing (.ofSource file source)) steps).diagnostics ∧
    (∀ stored s, (∃ e, ((⟨.ofSource file source, stored⟩ : Report).step s).1 = .error e) ↔
      ∃ offset ∈ s.offsets, SplitsCharacter offset source.toList) ∧
    (after (.ofListing (.ofSource file source)) steps).diagnostics.toList =
      steps.flatMap (Step.stored (.ofSource file source)) ∧
    (after (.ofListing (.ofSource file source)) steps).count =
      (steps.map fun s => (s.stored (.ofSource file source)).length).sum ∧
    ((after (.ofListing (.ofSource file source)) steps).hasDiagnostics = true ↔
      (after (.ofListing (.ofSource file source)) steps).count ≠ 0) := by
  have runs := runs_run file source #[] steps
  have diagnostics := runs.diagnostics_eq
  refine ⟨runs, ?_, diagnostics, ?_, hasDiagnostics_iff _⟩
  · intro stored s
    obtain ⟨answer, ds, performs, step⟩ := exists_performs file source stored s
    rw [step]
    exact performs.fails_iff
  · rw [count, ← Array.length_toList, ← List.length_flatMap]
    exact congrArg List.length diagnostics

end Report

end LoxFront
