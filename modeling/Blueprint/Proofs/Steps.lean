import Blueprint.CommandLine.Run
import Blueprint.Proofs.TreeChanges

/-!
What the parts of commands do to the file tree. `Still` parts print, read and fail but leave the tree
as it is: all that a command does before it writes is of this kind. `Does` says that a part changes
the tree as a step does, and fails exactly if the step fails; `Concludes` adds the verdict that it comes
to otherwise.
-/
set_option autoImplicit false

namespace Blueprint.CommandLine

open FileTree

namespace Work

variable {α β : Type}

theorem bind_run (first : Work α) (next : α → Work β) (progress : Progress) :
    (first >>= next).run progress =
      match first.run progress with
      | (.ok value, progress) => (next value).run progress
      | (.error stop, progress) => (.error stop, progress) := by
  have unfolded : (first >>= next).run progress =
      (ExceptT.bindCont next (first.run progress).1) (first.run progress).2 := rfl
  rw [unfolded]
  generalize first.run progress = outcome
  obtain ⟨result, progress'⟩ := outcome
  cases result <;> rfl

/-! ## Parts that leave the tree -/

def Still (work : Work α) : Prop := ∀ progress : Progress, (work.run progress).2.tree = progress.tree

namespace Still

theorem pure (value : α) : Still (Pure.pure value) := fun _ => rfl

theorem bind {first : Work α} {next : α → Work β} (firsts : Still first)
    (nexts : ∀ value, Still (next value)) : Still (first >>= next) := by
  intro progress
  have begun := firsts progress
  rw [bind_run]
  generalize first.run progress = outcome at begun ⊢
  obtain ⟨result, progress'⟩ := outcome
  cases result with
  | ok value => exact (nexts value progress').trans begun
  | error stop => exact begun

theorem get : Still (MonadState.get : Work Progress) := fun _ => rfl

theorem throw (stop : Stop) : Still (MonadExcept.throw stop : Work α) := fun _ => rfl

theorem print (line : String) : Still (Work.print line) := fun _ => rfl

theorem printError (line : String) : Still (Work.printError line) := fun _ => rfl

theorem fail (message : String) : Still (Work.fail message : Work α) := fun _ => rfl

theorem forM {items : List β} {work : β → Work Unit} (works : ∀ item, Still (work item)) :
    Still (items.forM work) := by
  induction items with
  | nil => exact pure ()
  | cons item items ih => exact bind (works item) fun _ => ih

theorem report (verbose : Bool) (events : List Event) : Still (Work.report verbose events) := by
  unfold Work.report
  split
  · exact forM fun _ => printError _
  · exact pure ()

end Still

/-! ## Parts that do a step -/

/-- How a part ends whose step has a problem or has none. -/
def ended : Option FileError → Except Stop Unit
  | none => .ok ()
  | some error => .error (Stop.ofProblem error.problem)

/-- Such a part changes the tree as a step does, and stops exactly if the step has a problem. -/
def Does (work : Work Unit) (step : FileTree → Changed) : Prop :=
  ∀ progress : Progress, (work.run progress).1 = ended (step progress.tree).2 ∧
    (work.run progress).2.tree = (step progress.tree).1

theorem Does.run {work : Work Unit} {step : FileTree → Changed} (does : Does work step)
    (progress : Progress) : ∃ progress', work.run progress =
      (ended (step progress.tree).2, progress') ∧ progress'.tree = (step progress.tree).1 :=
  ⟨_, Prod.ext (does progress).1 rfl, (does progress).2⟩

/-- A part that neither changes the tree nor fails. -/
def Quiet (work : Work Unit) : Prop := Does work fun tree => (tree, none)

/-- How a part ends whose step has a problem, or else comes to a verdict. -/
def concluded (verdict : Except Stop Unit) : Option FileError → Except Stop Unit
  | none => verdict
  | some error => .error (Stop.ofProblem error.problem)

/-- Such a part changes the tree as a step does; if that has no problem, it ends with the verdict. -/
def Concludes (verdict : Except Stop Unit) (work : Work Unit) (step : FileTree → Changed) : Prop :=
  ∀ progress : Progress, (work.run progress).1 = concluded verdict (step progress.tree).2 ∧
    (work.run progress).2.tree = (step progress.tree).1

theorem concludes_ok_iff {work : Work Unit} {step : FileTree → Changed} :
    Concludes (.ok ()) work step ↔ Does work step := by
  have same (problem : Option FileError) : concluded (.ok ()) problem = ended problem := by
    cases problem <;> rfl
  simp only [Concludes, Does, same]

theorem Does.concludes {work : Work Unit} {step : FileTree → Changed} (does : Does work step) :
    Concludes (.ok ()) work step :=
  concludes_ok_iff.mpr does

namespace Concludes

variable {first second : Work Unit} {step step' : FileTree → Changed} {verdict : Except Stop Unit}

theorem after (does : Does first step) (concludes : Concludes verdict second step') :
    Concludes verdict (first >>= fun _ => second) (fun tree => andThen (step tree) step') := by
  intro progress
  obtain ⟨progress', begun, made⟩ := does.run progress
  rw [bind_run, begun]
  dsimp only
  generalize step progress.tree = changed at made ⊢
  obtain ⟨_, problem⟩ := changed
  obtain rfl := made
  cases problem with
  | none => exact concludes progress'
  | some error => exact ⟨rfl, rfl⟩

theorem afterQuiet (quiet : Quiet first) (concludes : Concludes verdict second step) :
    Concludes verdict (first >>= fun _ => second) step :=
  after quiet concludes

theorem failed (message : String) :
    Concludes (.error .failed) (Work.fail message) fun tree => (tree, none) :=
  fun _ => ⟨rfl, rfl⟩

theorem congr (concludes : Concludes verdict first step) (same : ∀ tree, step tree = step' tree) :
    Concludes verdict first step' := by
  intro progress
  rw [← same]
  exact concludes progress

end Concludes

theorem Does.bind {first second : Work Unit} {step step' : FileTree → Changed}
    (does : Does first step) (does' : Does second step') :
    Does (first >>= fun _ => second) (fun tree => andThen (step tree) step') :=
  concludes_ok_iff.mp (.after does does'.concludes)

theorem Does.change (step : FileTree → Changed) : Does (Work.change step) step := by
  intro progress
  have begun : (MonadState.get : Work Progress).run progress = (.ok progress, progress) := rfl
  rw [Work.change, bind_run, begun]
  simp only
  generalize step progress.tree = changed
  obtain ⟨made, problem⟩ := changed
  cases problem with
  | none => exact ⟨rfl, rfl⟩
  | some error =>
    obtain ⟨problem, path⟩ := error
    cases problem <;> exact ⟨rfl, rfl⟩

namespace Quiet

theorem pure : Quiet (Pure.pure ()) := fun _ => ⟨rfl, rfl⟩

theorem print (line : String) : Quiet (Work.print line) := fun _ => ⟨rfl, rfl⟩

theorem printError (line : String) : Quiet (Work.printError line) := fun _ => ⟨rfl, rfl⟩

/-- A quiet part may stand before any other. -/
theorem before {first second : Work Unit} {step : FileTree → Changed} (quiet : Quiet first)
    (does : Does second step) : Does (first >>= fun _ => second) step :=
  Does.bind quiet does

/-- A quiet part may stand after any other. -/
theorem after {first second : Work Unit} {step : FileTree → Changed} (does : Does first step)
    (quiet : Quiet second) : Does (first >>= fun _ => second) step := by
  have both := does.bind quiet
  simpa only [andThen_done] using both

theorem forM {items : List β} {work : β → Work Unit} (works : ∀ item, Quiet (work item)) :
    Quiet (items.forM work) := by
  induction items with
  | nil => exact pure
  | cons item items ih => exact (works item).before ih

theorem report (verbose : Bool) (events : List Event) : Quiet (Work.report verbose events) := by
  unfold Work.report
  split
  · exact forM fun _ => printError _
  · exact pure

end Quiet

end Work

open Work

/-! ## What comes before writing -/

theorem readSettings_still (path : Path) : Still (readSettings path) := by
  refine .bind .get fun progress => ?_
  split
  · exact .fail _
  · exact .fail _
  · split
    · exact .throw _
    · split
      · exact .pure _
      · exact .throw _
      · exact .fail _

theorem loadSettings_still (common : Common) : Still (loadSettings common) := by
  refine .bind .get fun progress => ?_
  simp only
  split
  · exact .throw _
  · exact .pure _
  · exact .bind (readSettings_still _) fun _ => .pure _

theorem readSource_still (path : Path) : Still (readSource path) := by
  refine .bind .get fun progress => ?_
  split
  · exact .fail _
  · exact .fail _
  · split
    · exact .pure _
    · exact .fail _

theorem compileSource_still (common : Common) (settings : Settings) :
    Still (compileSource common settings) := by
  refine .bind .get fun progress => .bind (readSource_still _) fun source =>
    .bind (.report _ _) fun _ => ?_
  split
  · exact .throw _
  · exact .fail _
  · exact .bind (.forM fun _ => .printError _) fun _ => .pure _

theorem prepare_still (common : Common) : Still (prepare common) :=
  .bind (loadSettings_still common) fun _ => .bind (compileSource_still common _) fun _ => .pure _

theorem reportFindings_quiet (findings : List Finding) : Quiet (reportFindings findings) :=
  (Quiet.forM fun _ => .print _).before (Quiet.forM fun _ => .printError _)

/-! ## Writing sources -/

theorem writeSources_does (verbose : Bool) (files : SourceFiles) (directory : Path) :
    Does (writeSources verbose files directory)
      (writeAll (files.map fun file => (directory.below file.1, file.2))) := by
  induction files with
  | nil => exact Quiet.pure
  | cons file files ih =>
    obtain ⟨relative, content⟩ := file
    exact (Quiet.after (.change _) (.report _ _)).bind ih

end Blueprint.CommandLine
