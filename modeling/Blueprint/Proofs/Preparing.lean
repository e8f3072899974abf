import Blueprint.Proofs.Steps

/-!
What every command starts with. Settings and a source are found or not, whatever was printed before
(`prepare_ok_iff`); a settings file that is read gives settings, an error with its message, or breaks
the command off (`readSettings_run`); and what is told on the way changes nothing else (`Alike`).
-/
set_option autoImplicit false

namespace Blueprint.CommandLine

open FileTree Work

/-! ## What is prepared -/

/-- A file of settings: its bytes are a text that makes them. -/
def IsSettingsFile (tree : FileTree) (path : Path) (settings : Settings) : Prop :=
  ∃ bytes text, tree.read path = .ok bytes ∧ Text.decodeUtf8 bytes = .ok text ∧
    Settings.ofText (Text.universalNewlines text) = .ok settings

/-- The settings of a request, and the directory that their paths start from: those of the settings
file and its directory, or else the defaults and the directory of the source. -/
inductive Configured (tree : FileTree) (common : Common) : Settings → Path → Prop where
  | byDefault (unset : settingsPath? tree common = .ok none) :
    Configured tree common {} (Path.resolve tree.directory (.ofText common.file)).parent
  | byFile {path : Path} {settings : Settings} (found : settingsPath? tree common = .ok (some path))
    (isFile : IsSettingsFile tree path settings) : Configured tree common settings path.parent

/-- The path of the source of a request. -/
def sourcePath (tree : FileTree) (common : Common) : Path :=
  Path.resolve tree.directory (.ofText common.file)

/-- The text of the source of a request. -/
def IsSource (tree : FileTree) (common : Common) (source : String) : Prop :=
  ∃ bytes text, tree.read (sourcePath tree common) = .ok bytes ∧
    Text.decodeUtf8 bytes = .ok text ∧ source = String.ofList (Text.universalNewlines text)

/-- What the source of a request compiles to, by the strategy that is asked for or else by that of the
settings. -/
def Compiled (tree : FileTree) (common : Common) (settings : Settings) (compilation : Compilation) :
    Prop :=
  ∃ source, IsSource tree common source ∧
    compile source (common.strategy.getD settings.strategy) = .ok compilation

/-- All that a request needs before it does its own work. -/
structure Prepared (tree : FileTree) (common : Common) (settings : Settings) (base : Path)
    (compilation : Compilation) : Prop where
  configured : Configured tree common settings base
  compiled : Compiled tree common settings compilation

variable {common : Common} {tree : FileTree} {settings : Settings} {base path : Path}
  {compilation : Compilation} {progress progress' : Progress}

/-! ## Reading settings -/

theorem get_run {α : Type} (next : Progress → Work α) (progress : Progress) :
    ((MonadState.get : Work Progress) >>= next).run progress = (next progress).run progress := rfl

theorem fail_run {α : Type} (message : String) (progress : Progress) :
    (Work.fail message : Work α).run progress =
      (.error .failed, { progress with errors := progress.errors ++ [s!"Error: {message}"] }) := rfl

theorem readSettings_run {bytes : List Nat} (holds : progress.tree.read path = .ok bytes) :
    (readSettings path).run progress = match Text.decodeUtf8 bytes with
      | .error _ => (.error (.crashed .undecodableSettings), progress)
      | .ok text => match Settings.ofText (Text.universalNewlines text) with
        | .ok settings => (.ok settings, progress)
        | .error .unconvertible => (.error (.crashed .unconvertibleSetting), progress)
        | .error error => (Work.fail (error.message path.text) : Work Settings).run progress := by
  rw [readSettings, get_run]
  simp only [holds]
  cases Text.decodeUtf8 bytes with
  | error fault => rfl
  | ok text =>
    simp only
    cases Settings.ofText (Text.universalNewlines text) with
    | ok settings => rfl
    | error error => cases error <;> rfl

theorem readSettings_unreadable {problem : FileProblem}
    (problematic : progress.tree.read path = .error problem) :
    ∃ message, (readSettings path).run progress =
      (Work.fail message : Work Settings).run progress := by
  rw [readSettings, get_run]
  simp only [problematic]
  cases problem <;> exact ⟨_, rfl⟩

theorem readSettings_ok_iff : ((readSettings path).run progress).1 = .ok settings ↔
    IsSettingsFile progress.tree path settings := by
  constructor
  · intro success
    cases holds : progress.tree.read path with
    | error problem =>
      obtain ⟨message, failed⟩ := readSettings_unreadable holds
      rw [failed, fail_run] at success
      contradiction
    | ok bytes =>
      rw [readSettings_run holds] at success
      cases decoded : Text.decodeUtf8 bytes with
      | error fault => simp [decoded] at success
      | ok text =>
        simp only [decoded] at success
        cases means : Settings.ofText (Text.universalNewlines text) with
        | error error => cases error <;> simp [means, fail_run] at success
        | ok settings' =>
          simp only [means, Except.ok.injEq] at success
          exact ⟨bytes, text, holds, decoded, success ▸ means⟩
  · rintro ⟨bytes, text, holds, decoded, means⟩
    rw [readSettings_run holds, decoded]
    simp only [means]

theorem loadSettings_run (common : Common) (progress : Progress) : (loadSettings common).run progress =
    match settingsPath? progress.tree common with
    | .error crash => (.error (.crashed crash), progress)
    | .ok none => (.ok ({}, (sourcePath progress.tree common).parent), progress)
    | .ok (some path) =>
      (readSettings path >>= fun settings => pure (settings, path.parent)).run progress := by
  rw [loadSettings, get_run]
  simp only
  cases settingsPath? progress.tree common with
  | error crash => rfl
  | ok found => cases found <;> rfl

theorem bind_eq_ok {α β : Type} {first : Work α} {next : α → Work β} {value : β} :
    ((first >>= next).run progress).1 = .ok value ↔
      ∃ between, (first.run progress).1 = .ok between ∧
        ((next between).run (first.run progress).2).1 = .ok value := by
  rw [bind_run]
  generalize first.run progress = outcome
  obtain ⟨result, progress'⟩ := outcome
  cases result <;> simp

theorem loadSettings_ok_iff : ((loadSettings common).run progress).1 = .ok (settings, base) ↔
    Configured progress.tree common settings base := by
  rw [loadSettings_run]
  constructor
  · intro success
    cases found : settingsPath? progress.tree common with
    | error crash => simp [found] at success
    | ok place =>
      cases place with
      | none =>
        simp only [found, Except.ok.injEq, Prod.mk.injEq] at success
        obtain ⟨rfl, rfl⟩ := success
        exact .byDefault found
      | some path =>
        simp only [found] at success
        obtain ⟨settings', read, rest⟩ := bind_eq_ok.mp success
        obtain ⟨rfl, rfl⟩ := Prod.mk.inj (Except.ok.inj rest)
        exact .byFile found (readSettings_ok_iff.mp read)
  · intro configured
    cases configured with
    | byDefault unset =>
      rw [unset]
      rfl
    | byFile found isFile =>
      simp only [found]
      exact bind_eq_ok.mpr ⟨_, readSettings_ok_iff.mpr isFile, rfl⟩

/-! ## Reading and compiling the source -/

theorem readSource_ok_iff {source : String} :
    ((readSource path).run progress).1 = .ok source ↔ ∃ bytes text,
      progress.tree.read path = .ok bytes ∧ Text.decodeUtf8 bytes = .ok text ∧
        source = String.ofList (Text.universalNewlines text) := by
  rw [readSource, get_run]
  constructor
  · intro success
    split at success
    · contradiction
    · contradiction
    · next bytes holds =>
      split at success
      · next text decoded => exact ⟨bytes, text, holds, decoded, (Except.ok.inj success).symm⟩
      · contradiction
  · rintro ⟨bytes, text, holds, decoded, rfl⟩
    simp only [holds, decoded]
    rfl

/-- After a quiet part all goes on with the same tree. -/
theorem Work.Quiet.next {α : Type} {first : Work Unit} (quiet : Quiet first) (next : Work α)
    (progress : Progress) : ∃ progress', progress'.tree = progress.tree ∧
      (first >>= fun _ => next).run progress = next.run progress' := by
  obtain ⟨progress', run, same⟩ := quiet.run progress
  refine ⟨progress', same, ?_⟩
  rw [bind_run, run]
  rfl

theorem compileSource_ok_iff :
    ((compileSource common settings).run progress).1 = .ok compilation ↔
      Compiled progress.tree common settings compilation := by
  rw [compileSource, get_run]
  simp only [bind_eq_ok, readSource_ok_iff]
  constructor
  · rintro ⟨source, isSource, _, _, success⟩
    refine ⟨source, isSource, ?_⟩
    split at success
    · contradiction
    · contradiction
    · next compilation' compiled =>
      obtain ⟨_, _, rest⟩ := bind_eq_ok.mp success
      exact compiled.trans (congrArg _ (Except.ok.inj rest))
  · rintro ⟨source, isSource, compiled⟩
    refine ⟨source, isSource, (), ((Quiet.report _ _) _).1, ?_⟩
    simp only [compiled]
    exact bind_eq_ok.mpr ⟨(), ((Quiet.forM fun _ => .printError _) _).1, rfl⟩

theorem prepare_ok_iff : ((prepare common).run progress).1 = .ok (settings, base, compilation) ↔
    Prepared progress.tree common settings base compilation := by
  have still := loadSettings_still common progress
  rw [prepare]
  constructor
  · intro success
    obtain ⟨⟨settings', base'⟩, loaded, rest⟩ := bind_eq_ok.mp success
    obtain ⟨compilation', compiled, done⟩ := bind_eq_ok.mp rest
    obtain ⟨rfl, rfl, rfl⟩ : settings' = settings ∧ base' = base ∧ compilation' = compilation := by
      simpa using Except.ok.inj done
    rw [compileSource_ok_iff, still] at compiled
    exact ⟨loadSettings_ok_iff.mp loaded, compiled⟩
  · rintro ⟨configured, compiled⟩
    refine bind_eq_ok.mpr ⟨(settings, base), loadSettings_ok_iff.mpr configured, ?_⟩
    refine bind_eq_ok.mpr ⟨compilation, ?_, rfl⟩
    rw [compileSource_ok_iff, still]
    exact compiled

/-- With its settings known a request goes on with what its source compiles to. -/
theorem Prepared.run (prepared : Prepared tree common settings base compilation) {β : Type}
    (next : Settings × Path × Compilation → Work β) (same : progress.tree = tree) :
    ∃ progress', progress'.tree = tree ∧ (prepare common >>= next).run progress =
      (next (settings, base, compilation)).run progress' := by
  rw [← same] at prepared
  have still := prepare_still common progress
  have success := prepare_ok_iff.mpr prepared
  rw [bind_run]
  generalize (prepare common).run progress = outcome at still success
  obtain ⟨result, progress'⟩ := outcome
  obtain rfl : result = _ := success
  exact ⟨progress', still.trans same, rfl⟩

/-- Without settings a request is prepared that reads its source and compiles it. -/
theorem Prepared.byDefault {bytes : List Nat} {text : List Char}
    (unset : settingsPath? tree common = .ok none)
    (isSource : tree.read (sourcePath tree common) = .ok bytes)
    (decoded : Text.decodeUtf8 bytes = .ok text)
    (compiled : compile (String.ofList (Text.universalNewlines text))
      (common.strategy.getD .extracted) = .ok compilation) :
    Prepared tree common {} (sourcePath tree common).parent compilation :=
  ⟨.byDefault unset, _, ⟨bytes, text, isSource, decoded, rfl⟩, compiled⟩

/-! ## What breaks a request off -/

/-- Parts that end alike and leave the same tree, whatever was printed and whatever they print. -/
def Alike {α : Type} (work work' : Work α) : Prop :=
  ∀ progress progress' : Progress, progress.tree = progress'.tree →
    (work.run progress).1 = (work'.run progress').1 ∧
      (work.run progress).2.tree = (work'.run progress').2.tree

namespace Alike

variable {α β : Type}

theorem pure (value : α) : Alike (Pure.pure value : Work α) (Pure.pure value) :=
  fun _ _ same => ⟨rfl, same⟩

theorem throw (stop : Stop) : Alike (MonadExcept.throw stop : Work α) (MonadExcept.throw stop) :=
  fun _ _ same => ⟨rfl, same⟩

theorem fail (message : String) : Alike (Work.fail message : Work α) (Work.fail message) :=
  fun _ _ same => ⟨rfl, same⟩

theorem get {next next' : Progress → Work α}
    (nexts : ∀ progress progress' : Progress, progress.tree = progress'.tree →
      Alike (next progress) (next' progress')) :
    Alike ((MonadState.get : Work Progress) >>= next) ((MonadState.get : Work Progress) >>= next') :=
  fun progress progress' same => nexts progress progress' same progress progress' same

theorem bind {first first' : Work α} {next next' : α → Work β} (firsts : Alike first first')
    (nexts : ∀ value, Alike (next value) (next' value)) :
    Alike (first >>= next) (first' >>= next') := by
  intro progress progress' same
  have begun := firsts progress progress' same
  rw [bind_run, bind_run]
  generalize first.run progress = outcome at begun ⊢
  generalize first'.run progress' = outcome' at begun ⊢
  obtain ⟨result, between⟩ := outcome
  obtain ⟨result', between'⟩ := outcome'
  obtain ⟨sameResult, sameTree⟩ := begun
  obtain rfl : result = result' := sameResult
  cases result with
  | ok value => exact nexts value between between' sameTree
  | error stop => exact ⟨rfl, sameTree⟩

/-- Two parts that do the same step and come to the same verdict are alike. -/
theorem concludes {first second : Work Unit} {verdict : Except Stop Unit}
    {step : FileTree → Changed} (concludes : Concludes verdict first step)
    (concludes' : Concludes verdict second step) : Alike first second := by
  intro progress progress' same
  rw [(concludes progress).1, (concludes progress).2, (concludes' progress').1,
    (concludes' progress').2, same]
  exact ⟨rfl, rfl⟩

theorem quiet {first second : Work Unit} (isQuiet : Quiet first) (isQuiet' : Quiet second) :
    Alike first second :=
  concludes (Does.concludes isQuiet) (Does.concludes isQuiet')

end Alike

theorem readSettings_alike (path : Path) : Alike (readSettings path) (readSettings path) := by
  refine .get fun progress progress' same => ?_
  rw [same]
  split
  · exact .fail _
  · exact .fail _
  · split
    · exact .throw _
    · split
      · exact .pure _
      · exact .throw _
      · exact .fail _

theorem readSource_alike (path : Path) : Alike (readSource path) (readSource path) := by
  refine .get fun progress progress' same => ?_
  rw [same]
  split
  · exact .fail _
  · exact .fail _
  · split
    · exact .pure _
    · exact .fail _

/-- What is prepared does not depend on whether it is told. -/
theorem prepare_alike (common : Common) (verbose : Bool) :
    Alike (prepare common) (prepare { common with verbose := verbose }) := by
  refine .bind ?_ fun loaded => .bind ?_ fun compilation => .pure _
  · refine .get fun progress progress' same => ?_
    rw [same]
    simp only [settingsPath?, settingsBeside]
    split
    · exact .throw _
    · exact .pure _
    · exact .bind (readSettings_alike _) fun _ => .pure _
  · refine .get fun progress progress' same => ?_
    rw [same]
    refine .bind (readSource_alike _) fun source =>
      .bind (.quiet (.report _ _) (.report _ _)) fun _ => ?_
    simp only
    split
    · exact .throw _
    · exact .fail _
    · exact .bind (.quiet (.forM fun _ => .printError _) (.forM fun _ => .printError _)) fun _ =>
        .pure _

end Blueprint.CommandLine
