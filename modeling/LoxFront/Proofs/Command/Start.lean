import LoxFront.Command.Run
import LoxFront.Proofs.Report.Check

/-! # Plain runs

A run starts with settings that come from its arguments and its environment, on a script or at the
prompt (`Starts`).  A run is plain if it has no colours and a silent log: then what it prints is
the tokens, the diagnostics of the checked texts (`diagnosticsOf`), and what it says itself.
-/

namespace LoxFront

/-! ## Diagnostics of a text -/

/-- The diagnostics of a text, one for each of its faults and in the order of the text. -/
structure Diagnoses (file source : String) (ds : List Diagnostic) : Prop where
  check_eq : check file source = .ok ⟨(scan source).tokens, ds.toArray⟩
  each : List.Forall₂ (fun f d => (Listing.ofSource file source).diagnose f = .ok d)
    (scan source).faults ds
  inOrder : (scan source).faults.Pairwise fun f g => f.offset < g.offset

/-- The diagnostics found when a text is checked; checking never fails. -/
def diagnosticsOf (file source : String) : List Diagnostic :=
  (check file source).toOption.elim [] fun checked => checked.diagnostics.toList

theorem diagnoses (file source : String) : Diagnoses file source (diagnosticsOf file source) := by
  obtain ⟨ds, shown⟩ := exists_diagnostics file source
  have each := shown.imp fun _ _ h => h.1
  have stored := check_eq_ok each
  have found : diagnosticsOf file source = ds := by rw [diagnosticsOf, stored]; rfl
  rw [found]
  refine ⟨stored, each, (pairwise_faults source).imp_of_mem ?_⟩
  intro f g member _ order
  have nonempty := (span_of_mem_faults member).1
  omega

namespace Command

theorem checkText_eq (file source : String) :
    checkText file source = .ok ⟨(scan source).tokens, (diagnosticsOf file source).toArray⟩ := by
  rw [checkText, (diagnoses file source).check_eq]
  rfl

/-! ## Silent logs -/

/-- Whether no event of the log is shown. -/
def Filter.Silent (f : Filter) : Prop :=
  ∀ e : Event, f.shows e.level e.target e.fields = false

namespace Filter

theorem Silent.write_eq {f : Filter} (silent : f.Silent) (events : List Event) :
    f.write events = "" := by
  have none : (events.filter fun e => f.shows e.level e.target e.fields) = [] :=
    List.filter_eq_nil_iff.2 fun e _ => by simp [silent e]
  rw [write, none]
  rfl

/-- The limit that decides about an event is one of the filter. -/
theorem mem_of_limit? {f : Filter} {target : List Char} {fields : List String} {l : Limit}
    (found : f.limit? target fields = some l) : l ∈ f := by
  have known : ∀ l, f.limit? target fields = some l → l ∈ f := by
    refine List.foldlRecOn (motive := fun best => ∀ l, best = some l → l ∈ f) _ _ (by simp) ?_
    intro best inFilter limit concerned l chosen
    have isLimit : limit ∈ f := (List.mem_filter.1 concerned).1
    cases best with
    | none => exact Option.some.inj chosen ▸ isLimit
    | some other =>
      dsimp only at chosen
      split at chosen
      · exact Option.some.inj chosen ▸ isLimit
      · exact inFilter l chosen
  exact known l found

/-- The log tells nothing that is not a detail, so a filter that shows no details is silent. -/
theorem silent_of_forall {f : Filter}
    (brief : ∀ l ∈ f, ∀ level, l.level = some level → level.rank < Level.debug.rank) :
    f.Silent := by
  intro e
  have detail : Level.debug.rank ≤ e.level.rank := by cases e <;> exact Nat.le_of_ble_eq_true rfl
  unfold shows
  split
  · rfl
  · rename_i level found
    obtain ⟨l, isLimit, isLevel⟩ := Option.bind_eq_some_iff.1 found
    have below := brief l (mem_of_limit? isLimit) level isLevel
    exact decide_eq_false (by omega)

theorem silent_ofVerbosity_zero : (ofVerbosity 0).Silent := by
  refine silent_of_forall ?_
  intro l member level isLevel
  obtain rfl := List.mem_singleton.1 member
  obtain rfl := Option.some.inj isLevel
  decide

end Filter

/-! ## Plain settings -/

/-- A run without colours and with a silent log. -/
structure Settings.Plain (s : Settings) : Prop where
  colours : s.colours = false
  silent : s.filter.Silent

/-- A run is plain where nothing asks for colours or for a log. -/
theorem Settings.plain_of_unset {o : Options} {environment : Environment} {s : Settings}
    (settings : Settings.of o environment = .ok s) (uncoloured : environment.forcesColour = false)
    (unfiltered : environment.logFilter = none) (brief : o.verbosity = 0) : s.Plain := by
  have filter : filterOf o environment = .ok (.ofVerbosity 0) := by
    rw [filterOf, unfiltered, brief]
    rfl
  rw [Settings.of, filter] at settings
  cases settings
  exact ⟨by simp [uncoloured], Filter.silent_ofVerbosity_zero⟩

theorem Settings.Plain.failureLine_eq {s : Settings} (plain : s.Plain) (message : String) :
    s.failureLine message = "error: " ++ message ++ "\n" := by
  refine String.toList_injective ?_
  simp [failureLine, plain.colours, Span.writeRow, Span.write]

/-! ## Starting -/

/-- Arguments and an environment start a run with certain settings, on a script or at the prompt. -/
def Starts (args : List String) (environment : Environment) (script : Option String)
    (s : Settings) : Prop :=
  ∃ options, Options.parse args = .ok options ∧ options.script = script ∧
    Settings.of options environment = .ok s

theorem Starts.run_eq {args : List String} {environment : Environment} {script : Option String}
    {s : Settings} (starts : Starts args environment script s)
    (read : String → Except ReadError (List UInt8)) (input : List UInt8) :
    run args environment read input = script.elim (s.runPrompt input) (s.runScript read) := by
  obtain ⟨options, parsed, rfl, settings⟩ := starts
  rw [run, parsed]
  dsimp only
  rw [settings]
  cases options.script <;> rfl

end Command

end LoxFront
