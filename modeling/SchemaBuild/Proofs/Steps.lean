import SchemaBuild.Job

/-!
# Steps that may fail

What a step comes to, from a given state: its result, and the state it leaves. A step that fails
keeps what was changed before.
-/

namespace SchemaBuild

section

variable {ε σ α β : Type}

/-- The result of a step, and the state behind it. -/
def outcome (step : ExceptT ε (StateM σ) α) (state : σ) : Except ε α × σ :=
  step.run.run state

theorem outcome_bind (first : ExceptT ε (StateM σ) α) (next : α → ExceptT ε (StateM σ) β)
    (state : σ) :
    outcome (first >>= next) state =
      match outcome first state with
      | (.ok value, after) => outcome (next value) after
      | (.error error, after) => (.error error, after) := by
  rw [outcome, ExceptT.run_bind, StateT.run_bind, outcome]
  rcases first.run.run state with ⟨result, after⟩
  cases result <;> rfl

theorem outcome_pure (value : α) (state : σ) :
    outcome (pure value : ExceptT ε (StateM σ) α) state = (.ok value, state) :=
  rfl

theorem outcome_throw (error : ε) (state : σ) :
    outcome (throw error : ExceptT ε (StateM σ) α) state = (.error error, state) :=
  rfl

theorem outcome_get (state : σ) :
    outcome (get : ExceptT ε (StateM σ) σ) state = (.ok state, state) :=
  rfl

theorem outcome_set (state after : σ) :
    outcome (set after : ExceptT ε (StateM σ) PUnit) state = (.ok (), after) :=
  rfl

theorem outcome_modify (change : σ → σ) (state : σ) :
    outcome (modify change : ExceptT ε (StateM σ) PUnit) state = (.ok (), change state) :=
  rfl

theorem outcome_tryCatch (step : ExceptT ε (StateM σ) α) (handle : ε → ExceptT ε (StateM σ) α)
    (state : σ) :
    outcome (tryCatch step handle) state =
      match outcome step state with
      | (.ok value, after) => (.ok value, after)
      | (.error error, after) => outcome (handle error) after := by
  have opened : outcome (tryCatch step handle) state =
      (match (outcome step state).1 with
        | .ok value => pure (.ok value)
        | .error error => (handle error).run : StateM σ (Except ε α)).run
          (outcome step state).2 := rfl
  rw [opened]
  rcases outcome step state with ⟨result, after⟩
  cases result <;> rfl

theorem outcome_observing (step : ExceptT ε (StateM σ) α) (state : σ) :
    outcome (observing step : ExceptT ε (StateM σ) (Except ε α)) state =
      (.ok (outcome step state).1, (outcome step state).2) := by
  rw [observing, outcome_tryCatch, outcome_bind]
  rcases outcome step state with ⟨result, after⟩
  cases result <;> rfl

theorem outcome_discard (step : ExceptT ε (StateM σ) α) (state : σ) :
    outcome (discard step : ExceptT ε (StateM σ) PUnit) state =
      ((outcome step state).1.map fun _ => (), (outcome step state).2) := by
  have opened : outcome (discard step : ExceptT ε (StateM σ) PUnit) state =
      (match (outcome step state).1 with
        | .ok _ => pure (.ok ())
        | .error error => pure (.error error) : StateM σ (Except ε PUnit)).run
          (outcome step state).2 := rfl
  rw [opened]
  rcases outcome step state with ⟨result, after⟩
  cases result <;> rfl

theorem outcome_run {ε' : Type} (step : ExceptT ε (StateM σ) α) (state : σ) :
    outcome (liftM step.run : ExceptT ε' (StateM σ) (Except ε α)) state =
      (.ok (outcome step state).1, (outcome step state).2) :=
  rfl

theorem outcome_ofExcept (result : Except ε α) (state : σ) :
    outcome (ofExcept result : ExceptT ε (StateM σ) α) state = (result, state) := by
  cases result <;> rfl

/-- A step succeeds exactly if its first part does, and its second part from there. -/
theorem outcome_bind_eq_ok {first : ExceptT ε (StateM σ) α} {next : α → ExceptT ε (StateM σ) β}
    {state after : σ} {value : β} :
    outcome (first >>= next) state = (.ok value, after) ↔
      ∃ intermediate middle, outcome first state = (.ok intermediate, middle) ∧
        outcome (next intermediate) middle = (.ok value, after) := by
  rw [outcome_bind]
  rcases outcome first state with ⟨result, middle⟩
  cases result with
  | error error => simp
  | ok intermediate => simp [and_assoc]

theorem outcome_bind_eq_error {first : ExceptT ε (StateM σ) α}
    {next : α → ExceptT ε (StateM σ) β} {state after : σ} {error : ε} :
    outcome (first >>= next) state = (.error error, after) ↔
      outcome first state = (.error error, after) ∨
        ∃ intermediate middle, outcome first state = (.ok intermediate, middle) ∧
          outcome (next intermediate) middle = (.error error, after) := by
  rw [outcome_bind]
  rcases outcome first state with ⟨result, middle⟩
  cases result with
  | error error => simp
  | ok intermediate => simp [and_assoc]

end

namespace FileOperation

variable {α : Type}

theorem outcome_look (operation : FileSystem → Except FileError α) (files : FileSystem) :
    outcome (look operation) files = (operation files, files) := by
  rw [look, outcome_bind, outcome_get]
  cases result : operation files <;> simp [result, outcome_pure, outcome_throw]

theorem outcome_change (operation : FileSystem → Except FileError FileSystem)
    (files : FileSystem) :
    outcome (change operation) files =
      match operation files with
      | .ok after => (.ok (), after)
      | .error error => (.error error, files) := by
  rw [change, outcome_bind, outcome_look]
  cases operation files <;> rfl

end FileOperation

namespace Job

variable {ε α : Type}

theorem mapError_ok (cause : FileError → ε) (value : α) :
    (Except.ok value).mapError cause = .ok value :=
  rfl

theorem mapError_error (cause : FileError → ε) (error : FileError) :
    (Except.error error : Except FileError α).mapError cause = .error (cause error) :=
  rfl

theorem outcome_onFiles (cause : FileError → ε) (operation : FileOperation α) (world : World) :
    outcome (onFiles cause operation) world =
      ((outcome operation world.files).1.mapError cause,
        { world with files := (outcome operation world.files).2 }) := by
  have run : operation.run.run world.files = outcome operation world.files := rfl
  rw [onFiles, outcome_bind, outcome_get]
  simp only [run]
  rw [outcome_bind, outcome_set]
  cases (outcome operation world.files).1 <;> rfl

theorem outcome_onFiles_eq_ok {cause : FileError → ε} {operation : FileOperation α}
    {world after : World} {value : α} :
    outcome (onFiles cause operation) world = (.ok value, after) ↔
      ∃ files, outcome operation world.files = (.ok value, files) ∧
        after = { world with files := files } := by
  rw [outcome_onFiles]
  rcases outcome operation world.files with ⟨result, files⟩
  cases result with
  | ok found =>
      constructor
      · intro equal
        obtain ⟨same, rfl⟩ := Prod.mk.inj equal
        exact ⟨files, by rw [Except.ok.inj same], rfl⟩
      · rintro ⟨other, equal, rfl⟩
        obtain ⟨same, rfl⟩ := Prod.mk.inj equal
        rw [Except.ok.inj same]
        rfl
  | error error => simp [mapError_error]

theorem outcome_ifThere (operation : FileOperation Unit) (files : FileSystem) :
    outcome (ifThere operation) files =
      match outcome operation files with
      | (.error .notFound, after) => (.ok (), after)
      | result => result := by
  rw [ifThere, outcome_tryCatch]
  rcases outcome operation files with ⟨result, after⟩
  cases result with
  | ok => rfl
  | error error => cases error <;> rfl

theorem ifThere_files (operation : FileOperation Unit) (files : FileSystem) :
    (outcome (ifThere operation) files).2 = (outcome operation files).2 := by
  rw [outcome_ifThere]
  rcases outcome operation files with ⟨result, after⟩
  cases result with
  | ok => rfl
  | error error => cases error <;> rfl

end Job

end SchemaBuild
