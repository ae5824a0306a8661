import JarLauncher.Machine.Procedure

/-!
What comes of a procedure that may fail when it is run to its end on one machine.
-/

namespace JarLauncher.Machine

variable {Value Result World : Type} {answering : Answering World} {world : World}

/-- What follows a procedure makes its requests behind those of the procedure. -/
theorem Procedure.requests_bind (procedure : Procedure Value) (next : Value → Procedure Result) :
    (procedure >>= next).requests answering world = procedure.requests answering world ++
      (next (procedure.run answering world).1).requests answering (procedure.run answering world).2 := by
  induction procedure generalizing world with
  | done value => rfl
  | ask request rest ih => exact congrArg (request :: ·) (ih _)

namespace Attempt

def outcome (answering : Answering World) (attempt : Attempt Value) (world : World) :
    Except LauncherError Value × World :=
  (ExceptT.run attempt).run answering world

theorem run_bind (attempt : Attempt Value) (next : Value → Attempt Result) :
    ExceptT.run (attempt >>= next) = ExceptT.run attempt >>= fun result =>
      match result with
      | .ok value => ExceptT.run (next value)
      | .error error => pure (.error error) := by
  rw [ExceptT.run_bind]
  congr 1
  funext result
  cases result <;> rfl

theorem run_tryCatch (attempt : Attempt Value) (handle : LauncherError → Attempt Value) :
    ExceptT.run (tryCatch attempt handle) = ExceptT.run attempt >>= fun result =>
      match result with
      | .ok value => pure (.ok value)
      | .error error => ExceptT.run (handle error) := by
  change (ExceptT.run attempt >>= _) = _
  congr 1
  funext result
  cases result <;> rfl

@[simp] theorem outcome_pure (value : Value) :
    outcome answering (pure value) world = (.ok value, world) := rfl

@[simp] theorem outcome_throw (error : LauncherError) :
    outcome answering (throw error : Attempt Value) world = (.error error, world) := rfl

@[simp] theorem outcome_mk (procedure : Procedure (Except LauncherError Value)) :
    outcome answering (ExceptT.mk procedure) world = procedure.run answering world := rfl

/-- What follows an attempt is only tried if the attempt has not failed. -/
theorem outcome_bind (attempt : Attempt Value) (next : Value → Attempt Result) :
    outcome answering (attempt >>= next) world =
      match outcome answering attempt world with
      | (.ok value, after) => outcome answering (next value) after
      | (.error error, after) => (.error error, after) := by
  unfold outcome
  rw [run_bind, Procedure.run_bind]
  rcases (ExceptT.run attempt).run answering world with ⟨result, after⟩
  cases result <;> rfl

theorem outcome_bind_of_ok {attempt : Attempt Value} {value : Value} {after : World}
    (ended : outcome answering attempt world = (.ok value, after)) (next : Value → Attempt Result) :
    outcome answering (attempt >>= next) world = outcome answering (next value) after := by
  rw [outcome_bind, ended]

theorem outcome_bind_of_error {attempt : Attempt Value} {error : LauncherError} {after : World}
    (ended : outcome answering attempt world = (.error error, after)) (next : Value → Attempt Result) :
    outcome answering (attempt >>= next) world = (.error error, after) := by
  rw [outcome_bind, ended]

theorem outcome_bind_eq_ok {attempt : Attempt Value} {next : Value → Attempt Result} {result : Result}
    {after : World} (ended : outcome answering (attempt >>= next) world = (.ok result, after)) :
    ∃ value middle, outcome answering attempt world = (.ok value, middle) ∧
      outcome answering (next value) middle = (.ok result, after) := by
  rw [outcome_bind] at ended
  rcases first : outcome answering attempt world with ⟨_ | value, middle⟩
  · rw [first] at ended
    cases ended
  · rw [first] at ended
    exact ⟨value, middle, rfl, ended⟩

@[simp] theorem outcome_lift (procedure : Procedure Value) :
    outcome answering (ExceptT.lift procedure) world =
      (.ok (procedure.run answering world).1, (procedure.run answering world).2) := by
  unfold outcome
  rw [ExceptT.run_lift]
  exact Procedure.run_bind answering procedure _ world

@[simp] theorem outcome_faultAt (path : Path) (step : Procedure (Except IoFault Value)) :
    outcome answering (faultAt path step) world =
      ((step.run answering world).1.mapError (.fetchFilesystem path), (step.run answering world).2) :=
  Procedure.run_bind answering step _ world

/-- An error is handed on to what handles it. -/
theorem outcome_tryCatch (attempt : Attempt Value) (handle : LauncherError → Attempt Value) :
    outcome answering (tryCatch attempt handle) world =
      match outcome answering attempt world with
      | (.ok value, after) => (.ok value, after)
      | (.error error, after) => outcome answering (handle error) after := by
  unfold outcome
  rw [run_tryCatch, Procedure.run_bind]
  rcases (ExceptT.run attempt).run answering world with ⟨result, after⟩
  cases result <;> rfl

end Attempt
end JarLauncher.Machine
