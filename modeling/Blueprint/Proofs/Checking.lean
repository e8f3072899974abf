import Blueprint.Proofs.Requests

/-!
Checking. A check succeeds exactly if there are settings, the source compiles, the dump that settings
ask for can be written, and neither errors nor warnings that count as such are found. It tells more or
less about that, but never decides by it; and it changes nothing but the file of the dump, which is
written for an application with errors as well (`check_outcome`).
-/
set_option autoImplicit false

namespace Blueprint.CommandLine

open FileTree Work

variable {tree : FileTree} {common : Common} {settings : Settings} {base target : Path}
  {compilation : Compilation}

/-- Whether more is told makes no difference to a check. -/
theorem check_alike (common : Common) (verbose : Bool) :
    Alike (Request.check common).work
      (Request.check { common with verbose := verbose }).work := by
  rw [Request.work, Request.work, check, check]
  refine .bind (.quiet (.print _) (.print _)) fun _ => ?_
  refine .bind (prepare_alike common verbose) fun prepared => ?_
  obtain ⟨settings, base, compilation⟩ := prepared
  have ending := Alike.concludes (concludeCheck_concludes common settings compilation)
    (concludeCheck_concludes { common with verbose := verbose } settings compilation)
  refine .bind (.quiet (reportFindings_quiet _) (reportFindings_quiet _)) fun _ => ?_
  dsimp only
  cases nonempty settings.debugDump with
  | none => exact ending
  | some dump =>
    have dumps := (writeDump_does compilation.application (base.join (.ofText dump))).concludes
    exact .bind (.concludes dumps dumps) fun _ => ending

theorem run_alike {request request' : Request} (alike : Alike request.work request'.work)
    (tree : FileTree) : (request'.run tree).status = (request.run tree).status ∧
      (request'.run tree).tree = (request.run tree).tree := by
  obtain ⟨result, made⟩ := alike { tree := tree } { tree := tree } rfl
  exact ⟨congrArg statusOf result.symm, made.symm⟩

theorem check_files (app : Application) (isTarget : debugTarget settings base = some target) :
    (Request.check common).files settings base app = [(target, app.dump)] := by
  rw [Request.files, isTarget]
  rfl

theorem check_fits_iff {app : Application} :
    Fits tree ((Request.check common).files settings base app) ↔
      ∀ target, debugTarget settings base = some target → Fits tree [(target, app.dump)] := by
  cases isTarget : debugTarget settings base with
  | none =>
    have nothing : (Request.check common).files settings base app = [] := by
      rw [Request.files, isTarget]
      rfl
    rw [nothing]
    refine iff_of_true (writeAll_succeeds_iff.mp rfl) fun target impossible => ?_
    contradiction
  | some target =>
    rw [check_files app isTarget]
    simp only [Option.some.injEq, forall_eq']

theorem check_verdict_iff : (Request.check common).verdict settings compilation = .ok () ↔
    compilation.application.hasErrors = false ∧
      ¬ (settings.failOnWarnings = true ∧ 0 < warningCount compilation) := by
  rw [Request.verdict, ← Bool.not_eq_true, ← not_or]
  split
  · next bad => simp [bad]
  · next good => exact iff_of_true rfl good

/-- The only statuses that a request ends with. -/
theorem run_status (request : Request) {status : Nat}
    (ends : (request.run tree).status = .ok status) : status = 0 ∨ status = 1 := by
  have isStatus : statusOf (request.work.run { tree := tree }).1 = .ok status := ends
  generalize (request.work.run { tree := tree }).1 = result at isStatus
  cases result with
  | ok value => exact .inl (Except.ok.inj isStatus).symm
  | error stop =>
    cases stop with
    | failed => exact .inr (Except.ok.inj isStatus).symm
    | crashed crash => contradiction

theorem check_succeeds_iff : ((Request.check common).run tree).status = .ok 0 ↔
    ∃ settings base compilation,
      Configured tree common settings base ∧ Compiled tree common settings compilation ∧
      (∀ target, debugTarget settings base = some target →
        Fits tree [(target, compilation.application.dump)]) ∧
      compilation.application.hasErrors = false ∧
      ¬ (settings.failOnWarnings = true ∧ 0 < warningCount compilation) := by
  simp only [run_succeeds_iff, check_fits_iff, check_verdict_iff]
  constructor
  · rintro ⟨settings, base, compilation, ⟨configured, compiled⟩, rest⟩
    exact ⟨settings, base, compilation, configured, compiled, rest⟩
  · rintro ⟨settings, base, compilation, configured, compiled, rest⟩
    exact ⟨settings, base, compilation, ⟨configured, compiled⟩, rest⟩

/-- A check changes nothing but the file of its dump, and directories that are missing on the way. -/
theorem check_changes (common : Common) (tree : FileTree) (place : Place) :
    let outcome := (Request.check common).run tree
    outcome.tree.get? place = tree.get? place ∨ ∃ settings base target,
      Configured tree common settings base ∧ debugTarget settings base = some target ∧
        (place = tree.placeOf target ∨ tree.OnTheWay target.parent place ∧
          tree.get? place = none ∧ outcome.tree.get? place = some .directory) := by
  intro outcome
  rcases prepared_or_stopped (.check common) tree with
    ⟨settings, base, compilation, prepared⟩ | ⟨_, _, same, _⟩
  · have changes := writeAll_bounded
      ((Request.check common).files settings base compilation.application) tree
    rw [← (run_prepared prepared).2] at changes
    rcases changes.entries place with
      same | ⟨⟨file, member, onTheWay⟩, made⟩ | ⟨file, member, isPlace⟩
    · exact .inl same
    · obtain ⟨target, isTarget, rfl⟩ := List.mem_map.mp member
      exact .inr ⟨settings, base, target, prepared.configured, Option.mem_toList.mp isTarget,
        .inr ⟨onTheWay, made⟩⟩
    · obtain ⟨target, isTarget, rfl⟩ := List.mem_map.mp member
      exact .inr ⟨settings, base, target, prepared.configured, Option.mem_toList.mp isTarget,
        .inl isPlace⟩
  · exact .inl (congrArg (FileTree.get? · place) same)

/-- A dump that can be written is written, whatever else a check comes to. -/
theorem check_dumps (prepared : Prepared tree common settings base compilation)
    (isTarget : debugTarget settings base = some target)
    (fits : Fits tree [(target, compilation.application.dump)]) :
    ((Request.check common).run tree).tree.get? (tree.placeOf target) =
      some (.file (bytesOf compilation.application.dump)) := by
  have prepared' : Prepared tree (Request.check common).common settings base compilation := prepared
  have made := (run_prepared prepared').2
  rw [check_files _ isTarget, writeAll_single] at made
  have success := writeAll_succeeds_iff.mpr fits
  rw [writeAll_single] at success
  rw [made]
  exact (writeBelow_stands (Prod.ext rfl success)).written

/-- A check succeeds exactly if it is configured, its source compiles, the dump that settings ask for
can be written, there are no errors, and no warnings either where settings are strict. Otherwise it
ends with status one, if nothing breaks it off. What it tells does not matter to this. It changes
nothing but the file of the dump and directories that were missing on the way to it; and where it gets
so far and the dump can be written, it is written whatever the check has found. -/
theorem check_outcome (common : Common) (tree : FileTree) :
    let outcome := (Request.check common).run tree
    (outcome.status = .ok 0 ↔ ∃ settings base compilation,
        Configured tree common settings base ∧ Compiled tree common settings compilation ∧
        (∀ target, debugTarget settings base = some target →
          Fits tree [(target, compilation.application.dump)]) ∧
        compilation.application.hasErrors = false ∧
        ¬ (settings.failOnWarnings = true ∧ 0 < warningCount compilation)) ∧
      (∀ status, outcome.status = .ok status → status = 0 ∨ status = 1) ∧
      (∀ verbose,
        let outcome' := (Request.check { common with verbose := verbose }).run tree
        outcome'.status = outcome.status ∧ outcome'.tree = outcome.tree) ∧
      (∀ place, outcome.tree.get? place = tree.get? place ∨ ∃ settings base target,
        Configured tree common settings base ∧ debugTarget settings base = some target ∧
          (place = tree.placeOf target ∨ tree.OnTheWay target.parent place ∧
            tree.get? place = none ∧ outcome.tree.get? place = some .directory)) ∧
      ∀ settings base compilation target, Configured tree common settings base →
        Compiled tree common settings compilation → debugTarget settings base = some target →
        Fits tree [(target, compilation.application.dump)] →
        outcome.tree.get? (tree.placeOf target) =
          some (.file (bytesOf compilation.application.dump)) := by
  refine ⟨check_succeeds_iff, fun status => run_status _,
    fun verbose => run_alike (check_alike common verbose) tree, check_changes common tree, ?_⟩
  intro settings base compilation target configured compiled
  exact check_dumps ⟨configured, compiled⟩

end Blueprint.CommandLine
