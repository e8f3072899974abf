import Blueprint.Proofs.Requests
import Blueprint.Proofs.SourceFiles

/-!
What a request to generate leaves that succeeds: the files of its platforms, each with its text, the
directories on the way to them, and all else as it was. Files of two platforms never meet, since their
places go through the names of the platforms; so the order of the platforms does not matter, nor
whether one is named twice (`generate_writes`).
-/
set_option autoImplicit false

namespace Blueprint

open FileTree

variable {app : Application} {output : Path} {name : String} {file : Path × String}

theorem Platform.eq_of_ofName? {platform : Platform} (found : Platform.ofName? name = some platform) :
    name = platform.name := by
  have same := List.find?_some found
  exact (beq_iff_eq.mp same).symm

/-- The name of a platform is a single step down. -/
theorem Platform.path_of_name (platform : Platform) :
    Path.ofText platform.name = { names := [platform.name] } ∧ platform.name ≠ ".." := by
  cases platform <;> decide

/-- A file for a platform has a place of its own: down from the directory for the output by the name
of the platform, and then by the segments of the file's path. -/
theorem filesFor_place (named : app.Named) (tree : FileTree)
    (member : file ∈ filesFor app output name) :
    ∃ platform segments, Platform.ofName? name = some platform ∧ segments ≠ [] ∧
      (∀ segment ∈ segments, LeadsDown segment) ∧
      (pathOf segments, file.2) ∈ app.sources platform ∧
      tree.placeOf file.1 = tree.placeOf output ++ name :: segments := by
  unfold filesFor at member
  split at member
  · contradiction
  · next platform found =>
    obtain ⟨⟨path, text⟩, isSource, rfl⟩ := List.mem_map.mp member
    obtain ⟨segments, rfl, some, leads⟩ := exists_place named (List.mem_map_of_mem isSource)
    refine ⟨platform, segments, found, some, leads, isSource, ?_⟩
    obtain rfl := Platform.eq_of_ofName? found
    obtain ⟨single, inward⟩ := platform.path_of_name
    have names : (output.join (.ofText platform.name)).below (pathOf segments) =
        { output with names := output.names ++ platform.name :: segments } := by
      simp [Path.join, Path.below, single, Path.isAbsolute, namesOf_pathOf some leads]
    dsimp only
    rw [names]
    refine below_of_inward (fun segment inside => ?_) tree output
    rcases List.mem_cons.mp inside with rfl | inside
    · exact inward
    · exact (leads segment inside).not_special.2.2

/-- Files for platforms that go to one place are one file. -/
theorem filesFor_consistent (named : app.Named) (output : Path) (names : List String)
    (tree : FileTree) : tree.Consistent (names.flatMap (filesFor app output)) := by
  intro file member other member' onePlace
  obtain ⟨name, _, isFile⟩ := List.mem_flatMap.mp member
  obtain ⟨name', _, isFile'⟩ := List.mem_flatMap.mp member'
  obtain ⟨platform, segments, found, _, _, isSource, place⟩ := filesFor_place named tree isFile
  obtain ⟨platform', segments', found', _, _, isSource', place'⟩ := filesFor_place named tree isFile'
  rw [place, place'] at onePlace
  obtain ⟨rfl, rfl⟩ := List.cons.inj (List.append_cancel_left onePlace)
  obtain rfl := Option.some.inj (found.symm.trans found')
  have distinct : (app.sources platform).names.Nodup := by
    rw [app.sources_eq]
    exact Fields.nodup_names_ofList _
  exact (Prod.mk.inj (List.inj_on_of_nodup_map distinct isSource isSource' rfl)).2

namespace CommandLine

variable {tree tree' : FileTree} {common : Common} {settings settings' : Settings} {base : Path}
  {compilation : Compilation} {output platforms platforms' : Option String}

theorem generate_verdict_iff :
    (Request.generate common output platforms).verdict settings compilation = .ok () ↔
      compilation.application.hasErrors = false ∧
        ∀ name ∈ platformNames platforms settings, isKnown name = true := by
  rw [Request.verdict]
  split
  · next bad =>
    refine iff_of_false (by simp) ?_
    rintro ⟨errorless, known⟩
    rcases bad with errors | ⟨name, member, unknown⟩
    · simp [errorless] at errors
    · simp [known name member] at unknown
  · next good =>
    obtain ⟨errorless, known⟩ := not_or.mp good
    exact iff_of_true rfl ⟨by simpa using errorless, by simpa using known⟩

/-- The files that a request to generate code writes for the platforms of its list. -/
abbrev generatedFiles (output platforms : Option String) (settings : Settings) (base : Path)
    (app : Application) : List (Path × String) :=
  (platformNames platforms settings).flatMap (filesFor app (outputDirectory output settings base))

theorem generate_files (errorless : app.hasErrors = false)
    (known : ∀ name ∈ platformNames platforms settings, isKnown name = true) :
    (Request.generate common output platforms).files settings base app =
      generatedFiles output platforms settings base app := by
  rw [Request.files, if_neg (by simp [errorless]), requestedFiles_known known]

/-- A request that can write the files of its platforms does so. -/
theorem generate_updates (prepared : Prepared tree common settings base compilation)
    (errorless : compilation.application.hasErrors = false)
    (known : ∀ name ∈ platformNames platforms settings, isKnown name = true)
    (fits : Fits tree (generatedFiles output platforms settings base compilation.application)) :
    let outcome := (Request.generate common output platforms).run tree
    outcome.status = .ok 0 ∧ Updates tree
      (generatedFiles output platforms settings base compilation.application) outcome.tree := by
  intro outcome
  have prepared' : Prepared tree (Request.generate common output platforms).common settings base
      compilation := prepared
  obtain ⟨source, _, compiles⟩ := prepared.compiled
  have consistent := filesFor_consistent (compile_named compiles)
    (outputDirectory output settings base) (platformNames platforms settings) tree
  have files := @generate_files _ common _ base output _ errorless known
  constructor
  · refine run_succeeds_iff.mpr ⟨settings, base, compilation, prepared', ?_,
      generate_verdict_iff.mpr ⟨errorless, known⟩⟩
    rwa [files]
  · have left := (run_prepared prepared').2
    rw [files] at left
    rw [left]
    exact writeAll_updates consistent (Prod.ext rfl (writeAll_succeeds_iff.mpr fits))

/-- A request to generate from another tree what a request generates from this one: for the same
platforms, however they are listed and wherever the list comes from. The trees differ at most in what
files hold, such as the settings file with the list. -/
structure Relisted (tree : FileTree) (common : Common) (output platforms : Option String)
    (settings : Settings) (base : Path) (app : Application) (tree' : FileTree)
    (platforms' : Option String) : Prop where
  shape : SameShape tree tree'
  ready : ∃ settings' compilation', Configured tree' common settings' base ∧
    Compiled tree' common settings' compilation' ∧ compilation'.application = app ∧
    outputDirectory output settings' base = outputDirectory output settings base ∧
    ∀ name, name ∈ platformNames platforms' settings' ↔ name ∈ platformNames platforms settings

/-- A request to generate code that succeeds has settings, and a source that compiles without errors;
all platforms of its list are known. For each of them each of its files is then below a directory with
the platform's name in that for the output, and holds its text; directories on the way are made, and
nothing else changes. For the same platforms in another order the request succeeds as well, and leaves
the same. -/
theorem generate_writes (common : Common) (output platforms : Option String) (tree : FileTree)
    (success : ((Request.generate common output platforms).run tree).status = .ok 0) :
    ∃ settings base compilation,
      let outcome := (Request.generate common output platforms).run tree
      let app := compilation.application
      Configured tree common settings base ∧ Compiled tree common settings compilation ∧
        app.hasErrors = false ∧
        (∀ name ∈ platformNames platforms settings, isKnown name = true) ∧
        Updates tree (generatedFiles output platforms settings base app) outcome.tree ∧
        ∀ tree' platforms',
          Relisted tree common output platforms settings base app tree' platforms' →
          let outcome' := (Request.generate common output platforms').run tree'
          outcome'.status = .ok 0 ∧ ∀ place, outcome'.tree.get? place = outcome.tree.get? place ∨
            outcome.tree.get? place = tree.get? place ∧
              outcome'.tree.get? place = tree'.get? place := by
  obtain ⟨settings, base, compilation, prepared, fits, verdict⟩ := run_succeeds_iff.mp success
  obtain ⟨errorless, known⟩ := generate_verdict_iff.mp verdict
  rw [generate_files errorless known] at fits
  have updates := (generate_updates prepared errorless known fits).2
  refine ⟨settings, base, compilation, prepared.configured, prepared.compiled, errorless, known,
    updates, ?_⟩
  rintro tree' platforms'
    ⟨shape, settings', compilation', configured, compiled, same, directory, members⟩
  have files : ∀ file,
      file ∈ generatedFiles output platforms' settings' base compilation'.application ↔
        file ∈ generatedFiles output platforms settings base compilation.application := by
    simp only [generatedFiles, List.mem_flatMap, same, directory, members, implies_true]
  obtain ⟨success', updates'⟩ := generate_updates ⟨configured, compiled⟩ (same ▸ errorless)
    (fun name member => known name ((members name).mp member)) (fits.reordered shape files)
  exact ⟨success', updates.agree updates' shape.directory files⟩

theorem stall_generates :
    ((Request.generate { file := "a.finapp" } none (some "ios,web,ios")).run stall).status = .ok 0 := by
  refine run_succeeds_iff.mpr ⟨{}, { slashes := 1 }, ⟨stallApp, [], {}⟩, stall_prepared, ?_, ?_⟩
  · exact writeAll_succeeds_iff.mp (by decide)
  · exact generate_verdict_iff.mpr (by decide)

theorem generate_writes_stall :
    let outcome := (Request.generate { file := "a.finapp" } none (some "ios,web,ios")).run stall
    let reordered := (Request.generate { file := "a.finapp" } none (some "web,ios")).run stall
    outcome.status = .ok 0 ∧ reordered.status = .ok 0 ∧
      (∀ place, reordered.tree.get? place = outcome.tree.get? place) ∧
      ∃ settings base compilation, Configured stall { file := "a.finapp" } settings base ∧
        Compiled stall { file := "a.finapp" } settings compilation ∧
        Updates stall
          (generatedFiles none (some "ios,web,ios") settings base compilation.application)
          outcome.tree := by
  obtain ⟨settings, base, compilation, configured, compiled, _, _, updates, relisted⟩ :=
    generate_writes { file := "a.finapp" } none (some "ios,web,ios") stall stall_generates
  have listed : platformNames (some "ios,web,ios") settings = ["ios", "web", "ios"] := by
    simp only [platformNames]
    decide
  have listed' : platformNames (some "web,ios") settings = ["web", "ios"] := by
    simp only [platformNames]
    decide
  obtain ⟨success, agree⟩ := relisted stall (some "web,ios") ⟨.refl stall, settings, compilation,
    configured, compiled, rfl, rfl, fun name => by simp [listed, listed', or_comm]⟩
  refine ⟨stall_generates, success, fun place => ?_, settings, base, compilation, configured, compiled,
    updates⟩
  exact (agree place).elim id fun both => both.2.trans both.1.symm

end CommandLine

end Blueprint
