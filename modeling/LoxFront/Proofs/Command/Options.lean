import LoxFront.Command.Options

/-! # Asking for quiet

Arguments that do not ask for quiet mean the same, but for the quiet, when it is asked for in front
of them (`parse_quiet`).  Every way of taking arguments is followed with both kinds of options at
once: what takes a script, a switch or several of them does not look at the quiet, unless it is
asked for.
-/

namespace LoxFront.Command

/-- The same options for a quiet run. -/
def Options.hush (o : Options) : Options :=
  { o with quiet := true }

/-- Arguments that do not ask for quiet are taken in the same way whether it has been asked for or
    not. -/
def Options.Unhushed (take : Options → Except Stop Options) : Prop :=
  ∀ o o', take o = .ok o' → o'.quiet = false → o.quiet = false ∧ take o.hush = .ok o'.hush

namespace Options.Unhushed

theorem bind {first second : Options → Except Stop Options} (unhushed : Unhushed first)
    (unhushed' : Unhushed second) : Unhushed fun o => first o >>= second := by
  intro o o' taken loud
  dsimp only at taken ⊢
  cases between : first o with
  | error stop =>
    rw [between] at taken
    cases taken
  | ok middle =>
    rw [between] at taken
    obtain ⟨loud', second_eq⟩ := unhushed' middle o' taken loud
    obtain ⟨loud'', first_eq⟩ := unhushed o middle between loud'
    refine ⟨loud'', ?_⟩
    rw [first_eq]
    exact second_eq

theorem takeSwitch (switch : Switch) : Unhushed (Options.takeSwitch · switch) := by
  intro o o' taken loud
  cases switch with
  | quiet =>
    simp only [Options.takeSwitch] at taken
    split at taken
    · cases taken
    · cases taken
      cases loud
  | noColour =>
    simp only [Options.takeSwitch] at taken ⊢
    split at taken
    · cases taken
    · rename_i first
      cases taken
      exact ⟨loud, if_neg first⟩
  | verbose =>
    cases taken
    exact ⟨loud, rfl⟩
  | help | version => cases taken

theorem takeScript (arg : String) : Unhushed (Options.takeScript · arg) := by
  intro o o' taken loud
  simp only [Options.takeScript] at taken ⊢
  split at taken
  · cases taken
  · rename_i first
    split at taken
    · cases taken
    · rename_i nonempty
      cases taken
      exact ⟨loud, by rw [if_neg nonempty]; exact if_neg first⟩

theorem error (stop : Stop) : Unhushed fun _ => .error stop := by
  intro o o' taken
  cases taken

theorem ok : Unhushed .ok := by
  intro o o' taken loud
  cases taken
  exact ⟨loud, rfl⟩

theorem takeLong (arg : String) (body : List Char) : Unhushed (Options.takeLong · arg body) := by
  unfold Options.takeLong
  dsimp only
  split
  · exact error _
  · split
    · exact takeSwitch _
    · exact error _

theorem takeLetters (arg : String) (letters : List Char) :
    Unhushed (Options.takeLetters · arg letters) := by
  induction letters with
  | nil => exact ok
  | cons c letters ih =>
    unfold Options.takeLetters
    simp only [List.foldlM_cons]
    refine bind ?_ ih
    split
    · exact error _
    · exact takeSwitch _

theorem takeAll (scriptsOnly : Bool) (args : List String) :
    Unhushed (Options.takeAll · scriptsOnly args) := by
  induction args generalizing scriptsOnly with
  | nil => exact ok
  | cons arg args ih =>
    unfold Options.takeAll
    split
    · exact (takeScript arg).bind (ih true)
    · split
      · exact ih true
      · exact (takeLong arg _).bind (ih false)
      · exact (takeLetters arg _).bind (ih false)
      · exact (takeScript arg).bind (ih false)

end Options.Unhushed

namespace Options

theorem parse_quiet {args : List String} {o : Options} (parsed : parse args = .ok o)
    (loud : o.quiet = false) : parse ("--quiet" :: args) = .ok o.hush := by
  -- The switch is taken first, and leaves the initial options hushed.
  have first : parse ("--quiet" :: args) = initial.hush.takeAll false args := rfl
  rw [first]
  exact (Unhushed.takeAll false args initial o parsed loud).2

end Options

end LoxFront.Command
