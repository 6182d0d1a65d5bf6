import LoxFront.Proofs.Report.Check

/-! # Listening to a scan

A listener has a state of its own, and every fault of a scan changes it.  The scan cannot tell who
listens: its tokens are the same for all of them, and each hears of every fault once, in the order
of the text (`scanWith_listener`).
-/

namespace LoxFront

/-- A listener: what its state becomes when it hears of a fault. -/
structure Listener (σ : Type) where
  hear : σ → Fault → σ

namespace Listener

variable {σ : Type}

def report (l : Listener σ) (f : Fault) : StateM σ Unit :=
  modify fun s => l.hear s f

/-- The listener that keeps the faults, behind what is stored already. -/
def storing : Listener (Array Fault) :=
  ⟨Array.push⟩

/-- The listener that passes the line and the message of a fault on, and nothing else of it. -/
def calling (call : σ → Nat × String → σ) : Listener σ :=
  ⟨fun s f => call s (f.line, f.message)⟩

theorem run_forM_report (l : Listener σ) (faults : List Fault) (s : σ) :
    (faults.forM l.report).run s = ((), faults.foldl l.hear s) := by
  induction faults generalizing s with
  | nil => rfl
  | cons f faults ih =>
    -- What is heard first changes the state in which the others are heard.
    have later := ih (l.hear s f)
    rw [List.forM, StateT.run_bind, List.foldl_cons]
    exact later

/-- A listener ends in the state that the faults of the text take it to, one after another. -/
theorem run_scanWith (l : Listener σ) (source : String) (s : σ) :
    (scanWith l.report source).run s =
      ((scan source).tokens, (scan source).faults.foldl l.hear s) := by
  rw [scanWith_eq, StateT.run_bind, run_forM_report]
  rfl

theorem foldl_hear_calling (call : σ → Nat × String → σ) (faults : List Fault) (s : σ) :
    faults.foldl (calling call).hear s =
      (faults.map fun f => (f.line, f.message)).foldl call s := by
  rw [List.foldl_map]
  rfl

theorem foldl_hear_storing (faults : List Fault) (stored : Array Fault) :
    faults.foldl storing.hear stored = stored ++ faults.toArray := by
  simp [storing]

end Listener

/-- A report of the listed text is a listener too, one that never fails. -/
theorem exists_check (file source : String) :
    ∃ checked, check file source = .ok checked ∧ checked.tokens = (scan source).tokens ∧
      checked.count = (scan source).faults.length := by
  obtain ⟨ds, shown⟩ := exists_diagnostics file source
  refine ⟨_, check_eq_ok (shown.imp fun _ _ h => h.1), rfl, ?_⟩
  change ds.toArray.size = _
  rw [List.size_toArray, shown.length_eq]

theorem Checked.hasDiagnostics_iff (c : Checked) : c.hasDiagnostics = true ↔ c.count ≠ 0 := by
  simp [hasDiagnostics, count]

/-- A scan gives the same tokens to whoever listens, and the listener hears of the faults of the
    text, each once and in order: a callback gets their lines and messages, a store gets them
    behind what it holds, and checking a text yields one diagnostic for each. -/
theorem scanWith_listener (source : String) :
    (∀ {σ : Type} (l : Listener σ) (s : σ), (scanWith l.report source).run s =
      ((scan source).tokens, (scan source).faults.foldl l.hear s)) ∧
    (∀ {σ : Type} (call : σ → Nat × String → σ) (s : σ),
      (scanWith (Listener.calling call).report source).run s = ((scan source).tokens,
        ((scan source).faults.map fun f => (f.line, f.message)).foldl call s)) ∧
    (∀ stored : Array Fault, (scanWith Listener.storing.report source).run stored =
      ((scan source).tokens, stored ++ (scan source).faults.toArray)) ∧
    ∀ file : String, ∃ checked, check file source = .ok checked ∧
      checked.tokens = (scan source).tokens ∧
      checked.count = (scan source).faults.length ∧
      (checked.hasDiagnostics = true ↔ (scan source).faults.length ≠ 0) := by
  refine ⟨fun l s => l.run_scanWith source s, ?_, ?_, ?_⟩
  · intro σ call s
    rw [Listener.run_scanWith, Listener.foldl_hear_calling]
  · intro stored
    rw [Listener.run_scanWith, Listener.foldl_hear_storing]
  · intro file
    obtain ⟨checked, success, tokens, count⟩ := exists_check file source
    refine ⟨checked, success, tokens, count, ?_⟩
    rw [Checked.hasDiagnostics_iff, count]

end LoxFront
