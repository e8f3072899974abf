import Blueprint.Proofs.Generating
import Blueprint.Proofs.Preparing
import Blueprint.Proofs.Writing

/-!
What every request does. Once it is prepared it writes its files in order, up to the first that cannot
be written, and comes to its verdict if all of them are (`run_prepared`); a request that cannot be
prepared leaves the file tree as it is (`prepared_or_stopped`).
-/
set_option autoImplicit false

namespace Blueprint.CommandLine

open FileTree Work

/-! ## Files and verdicts -/

/-- The file for the dump that settings ask for. -/
def debugTarget (settings : Settings) (base : Path) : Option Path :=
  (nonempty settings.debugDump).map fun dump => base.join (.ofText dump)

/-- The files that a request writes once its source is compiled. -/
def Request.files (settings : Settings) (base : Path) (app : Application) :
    Request → List (Path × String)
  | .check _ => (debugTarget settings base).toList.map fun target => (target, app.dump)
  | .generate _ output platforms =>
    if app.hasErrors then []
    else requestedFiles app (outputDirectory output settings base) (platformNames platforms settings)
  | .docs _ output =>
    [((outputDirectory output settings base).below Documentation.fileName,
      Documentation.markdown app)]
  | .dump common output => [(dumpTarget common output settings base, app.dump)]
  | .serve _ _ _ => []

/-- How a request ends that has written its files. -/
def Request.verdict (settings : Settings) (compilation : Compilation) : Request → Except Stop Unit
  | .check _ =>
    if compilation.application.hasErrors ∨
        settings.failOnWarnings = true ∧ 0 < warningCount compilation then .error .failed
    else .ok ()
  | .generate _ _ platforms =>
    if compilation.application.hasErrors ∨
        ∃ name ∈ platformNames platforms settings, isKnown name = false then .error .failed
    else .ok ()
  | .docs _ _ | .dump _ _ | .serve _ _ _ => .ok ()

/-! ## Commands -/

variable {tree : FileTree} {common : Common} {settings : Settings} {base : Path}
  {compilation : Compilation} {app : Application}

theorem writeAll_single (path : Path) (text : String) (tree : FileTree) :
    writeAll [(path, text)] tree = tree.writeBelow path text :=
  andThen_done _

theorem writeDump_does (app : Application) (target : Path) :
    Does (writeDump app target) (writeAll [(target, app.dump)]) := by
  intro progress
  rw [writeAll_single]
  exact (Quiet.after (.change _) (.print _)) progress

theorem concludeCheck_concludes (common : Common) (settings : Settings) (compilation : Compilation) :
    Concludes ((Request.check common).verdict settings compilation)
      (concludeCheck common.verbose settings compilation) fun tree => (tree, none) := by
  have facts : Quiet ((detailLines compilation.application).forM print) := .forM fun _ => .print _
  have structure' : Quiet ((structureLines compilation.application).forM print) :=
    .forM fun _ => .print _
  unfold concludeCheck Request.verdict
  dsimp only
  by_cases errors : compilation.application.hasErrors = true
  · rw [if_pos errors, if_pos (.inl errors)]
    exact fun _ => ⟨rfl, rfl⟩
  · have ending : Concludes
        (if settings.failOnWarnings = true ∧ 0 < warningCount compilation then .error .failed
          else .ok ())
        (if warningCount compilation == 0 then print "No issues found."
          else if settings.failOnWarnings then
            Work.fail s!"{warningCount compilation} warning(s) found and 'fail-on-warnings' is enabled."
          else print s!"Validation passed with {warningCount compilation} warning(s).")
        fun tree => (tree, none) := by
      by_cases clean : warningCount compilation = 0
      · have isClean : (warningCount compilation == 0) = true := beq_iff_eq.mpr clean
        have passes : ¬ (settings.failOnWarnings = true ∧ 0 < warningCount compilation) := by omega
        rw [if_pos isClean, if_neg passes]
        exact (Quiet.print _).concludes
      · have unclean : ¬ (warningCount compilation == 0) = true := fun isClean =>
          clean (beq_iff_eq.mp isClean)
        rw [if_neg unclean]
        by_cases strict : settings.failOnWarnings = true
        · rw [if_pos strict, if_pos ⟨strict, Nat.pos_of_ne_zero clean⟩]
          exact .failed _
        · rw [if_neg strict, if_neg (fun both => strict both.1)]
          exact (Quiet.print _).concludes
    have verdict : (compilation.application.hasErrors = true ∨
        settings.failOnWarnings = true ∧ 0 < warningCount compilation) ↔
          settings.failOnWarnings = true ∧ 0 < warningCount compilation := or_iff_right errors
    simp only [if_neg errors, verdict]
    refine .afterQuiet facts ?_
    cases common.verbose with
    | true => exact .afterQuiet structure' ending
    | false => exact ending

theorem documentationTarget_parent (directory : Path) :
    (directory.below Documentation.fileName).parent = directory := by
  have names : Path.namesOf Documentation.fileName = [Documentation.fileName] := by decide
  simp [Path.below, Path.parent, names]

theorem print_run (line : String) (progress : Progress) : (Work.print line).run progress =
    (.ok (), { progress with output := progress.output ++ [line] }) := rfl

/-- With its settings known a request comes to what the rest of it does with them. -/
theorem Prepared.concludes {common : Common} {verdict : Except Stop Unit}
    {step : FileTree → Changed} {next : Settings × Path × Compilation → Work Unit}
    {progress : Progress} (prepared : Prepared tree common settings base compilation)
    (same : progress.tree = tree)
    (concludes : Concludes verdict (next (settings, base, compilation)) step) :
    ((prepare common >>= next).run progress).1 = concluded verdict (step tree).2 ∧
      ((prepare common >>= next).run progress).2.tree = (step tree).1 := by
  obtain ⟨progress', same', run⟩ := prepared.run next same
  rw [run, ← same']
  exact concludes progress'

/-- What a request does that is prepared: it writes its files and comes to its verdict. -/
theorem work_prepared {request : Request}
    (prepared : Prepared tree request.common settings base compilation) :
    (request.work.run { tree := tree }).1 = concluded (request.verdict settings compilation)
        (writeAll (request.files settings base compilation.application) tree).2 ∧
      (request.work.run { tree := tree }).2.tree =
        (writeAll (request.files settings base compilation.application) tree).1 := by
  cases request with
  | check common =>
    rw [Request.work, CommandLine.check, bind_run, print_run]
    refine prepared.concludes rfl (.afterQuiet (reportFindings_quiet _) ?_)
    dsimp only [Request.files, debugTarget]
    cases nonempty settings.debugDump with
    | none => exact concludeCheck_concludes common settings compilation
    | some target =>
      refine (Concludes.after (writeDump_does _ _)
        (concludeCheck_concludes common settings compilation)).congr fun tree => andThen_done _
  | generate common output platforms =>
    rw [Request.work, CommandLine.generate]
    refine prepared.concludes rfl (.afterQuiet (reportFindings_quiet _) ?_)
    dsimp only [Request.files, Request.verdict]
    by_cases errors : compilation.application.hasErrors = true
    · rw [if_pos errors, if_pos (.inl errors)]
      simp only [errors, if_true]
      exact fun _ => ⟨rfl, rfl⟩
    · simp only [if_neg errors, or_iff_right errors]
      exact generateAll_concludes _ _ _ _
  | docs common output =>
    rw [Request.work, CommandLine.docs]
    refine prepared.concludes rfl ?_
    dsimp only [Request.files, Request.verdict]
    refine ((Does.change _).bind (Quiet.after (.change _) (.print _))).concludes.congr ?_
    intro tree
    rw [writeAll_single, writeBelow_eq, documentationTarget_parent]
  | dump common output =>
    rw [Request.work, CommandLine.dump]
    exact prepared.concludes rfl (writeDump_does _ _).concludes
  | serve common host port =>
    rw [Request.work, CommandLine.serve]
    exact prepared.concludes rfl fun _ => ⟨rfl, rfl⟩

/-! ## Runs -/

/-- What a request prints before it is prepared. -/
def Request.opening : Request → List String
  | .check common => [s!"Checking '{common.file}'..."]
  | _ => []

theorem work_begins (request : Request) (tree : FileTree) : ∃ next,
    request.work.run { tree := tree } = (prepare request.common >>= next).run
      { tree := tree, output := request.opening } := by
  cases request with
  | check common =>
    rw [Request.work, CommandLine.check, bind_run, print_run]
    exact ⟨_, rfl⟩
  | _ => exact ⟨_, rfl⟩

theorem run_of_work {request : Request} {result : Except Stop Unit} {progress : Progress}
    (run : request.work.run { tree := tree } = (result, progress)) :
    (request.run tree).status = statusOf result ∧
      (request.run tree).errors = unlines progress.errors ∧
      (request.run tree).tree = progress.tree := by
  rw [Request.run, run]
  exact ⟨rfl, rfl, rfl⟩

/-- A request that cannot be prepared ends there. -/
theorem work_stopped {request : Request} {stop : Stop} {progress : Progress}
    (stopped : (prepare request.common).run { tree := tree, output := request.opening } =
      (.error stop, progress)) :
    request.work.run { tree := tree } = (.error stop, progress) := by
  obtain ⟨next, run⟩ := work_begins request tree
  rw [run, bind_run, stopped]

theorem run_prepared {request : Request}
    (prepared : Prepared tree request.common settings base compilation) :
    (request.run tree).status = statusOf (concluded (request.verdict settings compilation)
        (writeAll (request.files settings base compilation.application) tree).2) ∧
      (request.run tree).tree =
        (writeAll (request.files settings base compilation.application) tree).1 := by
  obtain ⟨ending, made⟩ := work_prepared prepared
  exact ⟨congrArg statusOf ending, made⟩

/-- A request is prepared, or it stops with the file tree as it was. -/
theorem prepared_or_stopped (request : Request) (tree : FileTree) :
    (∃ settings base compilation, Prepared tree request.common settings base compilation) ∨
      ∃ stop, (request.run tree).status = statusOf (.error stop) ∧ (request.run tree).tree = tree ∧
        ((prepare request.common).run { tree := tree, output := request.opening }).1 =
          .error stop := by
  have still := prepare_still request.common { tree := tree, output := request.opening }
  cases run : (prepare request.common).run { tree := tree, output := request.opening } with
  | mk result progress =>
    rw [run] at still
    cases result with
    | ok value =>
      obtain ⟨settings, base, compilation⟩ := value
      exact .inl ⟨settings, base, compilation, prepare_ok_iff.mp (congrArg Prod.fst run)⟩
    | error stop =>
      obtain ⟨status, _, made⟩ := run_of_work (work_stopped run)
      exact .inr ⟨stop, status, made.trans still, rfl⟩

theorem statusOf_error (stop : Stop) : statusOf (.error stop) ≠ .ok 0 := by
  cases stop <;> simp [statusOf]

/-- A request succeeds exactly if it is prepared, its files can be written and its verdict is good. -/
theorem run_succeeds_iff {request : Request} : (request.run tree).status = .ok 0 ↔
    ∃ settings base compilation, Prepared tree request.common settings base compilation ∧
      Fits tree (request.files settings base compilation.application) ∧
      request.verdict settings compilation = .ok () := by
  constructor
  · intro success
    rcases prepared_or_stopped request tree with
      ⟨settings, base, compilation, prepared⟩ | ⟨stop, status, _⟩
    · rw [(run_prepared prepared).1, statusOf_eq_ok] at success
      refine ⟨settings, base, compilation, prepared, ?_⟩
      rw [← writeAll_succeeds_iff]
      generalize (writeAll (request.files settings base compilation.application) tree).2 = problem
        at success ⊢
      cases problem with
      | none => exact ⟨rfl, success⟩
      | some error => contradiction
    · exact absurd (status ▸ success) (statusOf_error stop)
  · rintro ⟨settings, base, compilation, prepared, fits, verdict⟩
    rw [(run_prepared prepared).1, writeAll_succeeds_iff.mpr fits, verdict]
    rfl

end Blueprint.CommandLine
