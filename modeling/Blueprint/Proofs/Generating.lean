import Blueprint.Proofs.Preparing
import Blueprint.Proofs.SourceFiles

/-!
Generating code. Wherever the sources of a compiled application are written, nothing changes but the
way to their directory and what is below it (`sources_stay_below`). A request to generate succeeds if
all can be written that it asks for. If it does not, it leaves the file tree as it was, unless writing
has begun: then a file could not be written, or a platform in the list is unknown and those before it
are generated already (`generate_outcome`).
-/
set_option autoImplicit false

namespace Blueprint

open FileTree CommandLine CommandLine.Work

/-! ## Where sources are written -/

/-- The paths of an application's sources lead down by each of their segments; and where the sources
are written, what is not below their directory stays, but for directories made on the way to it. -/
theorem sources_stay_below {source : String} {strategy : Strategy} {compilation : Compilation}
    (compiled : compile source strategy = .ok compilation) (platform : Platform) :
    (∀ path ∈ (compilation.application.sources platform).names,
      (Path.ofText path).isAbsolute = false ∧
        ∀ segment ∈ Text.split '/' path, segment ≠ "" ∧ segment ≠ "." ∧ segment ≠ "..") ∧
    ∀ (verbose : Bool) (directory : Path) (progress : Progress) (place : Place),
      let after := ((writeSources verbose (compilation.application.sources platform)
        directory).run progress).2.tree
      after.get? place = progress.tree.get? place ∨
        (progress.tree.OnTheWay directory place ∧ progress.tree.get? place = none ∧
          after.get? place = some .directory) ∨
        progress.tree.Below directory place := by
  have named := compile_named compiled
  constructor
  · intro path member
    obtain ⟨place, rfl, some, leads⟩ := exists_place named member
    refine ⟨relative_pathOf some leads, fun segment inside => ?_⟩
    rw [split_pathOf some fun other among => (leads other among).free] at inside
    exact (leads segment inside).not_special
  · intro verbose directory progress place after
    have inward : ∀ file ∈ compilation.application.sources platform,
        (∀ name ∈ Path.namesOf file.1, name ≠ "..") ∧ Path.namesOf file.1 ≠ [] := by
      intro file member
      obtain ⟨place, same, some, leads⟩ := exists_place named (List.mem_map_of_mem member)
      rw [same, namesOf_pathOf some leads]
      exact ⟨fun name inside => (leads name inside).not_special.2.2, some⟩
    have written := (writeSources_does verbose (compilation.application.sources platform)
      directory progress).2
    have changes := (writeAll_changes directory inward progress.tree).entries place
    rwa [← written] at changes

theorem sources_stay_below_catalog :
    compile catalogSource .grammar = .ok ⟨catalog, [], Extraction.ofSource catalogSource⟩ ∧
      (∀ path ∈ (catalog.sources .web).names, (Path.ofText path).isAbsolute = false ∧
        ∀ segment ∈ Text.split '/' path, segment ≠ "" ∧ segment ≠ "." ∧ segment ≠ "..") ∧
      ∀ (verbose : Bool) (directory : Path) (progress : Progress) (place : Place),
        let after := ((writeSources verbose (catalog.sources .web) directory).run progress).2.tree
        after.get? place = progress.tree.get? place ∨
          (progress.tree.OnTheWay directory place ∧ progress.tree.get? place = none ∧
            after.get? place = some .directory) ∨
          progress.tree.Below directory place :=
  ⟨compile_catalog, sources_stay_below compile_catalog .web⟩

/-! ## Requests to generate -/

/-- The files for a platform: its sources with their paths below a directory of its own. -/
def filesFor (app : Application) (output : Path) (name : String) : List (Path × String) :=
  match Platform.ofName? name with
  | none => []
  | some platform => (app.sources platform).map fun file =>
    ((output.join (.ofText name)).below file.1, file.2)

def isKnown (name : String) : Bool := (Platform.ofName? name).isSome

/-- The files for the platforms in a list, as far as these are known. -/
def requestedFiles (app : Application) (output : Path) (names : List String) :
    List (Path × String) :=
  (names.takeWhile isKnown).flatMap (filesFor app output)

section Requested

variable {app : Application} {output : Path} {names before after : List String} {name : String}

theorem requestedFiles_known (known : ∀ name ∈ names, isKnown name = true) :
    requestedFiles app output names = names.flatMap (filesFor app output) := by
  rw [requestedFiles, List.takeWhile_eq_self_iff.mpr known]

theorem requestedFiles_unknown (known : ∀ earlier ∈ before, isKnown earlier = true)
    (unknown : isKnown name = false) :
    requestedFiles app output (before ++ name :: after) = before.flatMap (filesFor app output) := by
  rw [requestedFiles, List.takeWhile_append_of_pos known, List.takeWhile_cons,
    if_neg (by simp [unknown]), List.append_nil]

end Requested

theorem generateFor_unknown {name : String} (unknown : Platform.ofName? name = none)
    (verbose : Bool) (app : Application) (output : Path) (progress : Progress) :
    ∃ progress', (generateFor verbose app output name).run progress = (.error .failed, progress') ∧
      progress'.tree = progress.tree := by
  rw [generateFor, Application.generate, unknown]
  exact ⟨_, rfl, rfl⟩

theorem generateFor_does {name : String} (known : (Platform.ofName? name).isSome = true)
    (verbose : Bool) (app : Application) (output : Path) :
    Does (generateFor verbose app output name) (writeAll (filesFor app output name)) := by
  obtain ⟨platform, isPlatform⟩ := Option.isSome_iff_exists.mp known
  rw [generateFor, Application.generate, filesFor, isPlatform]
  exact (Quiet.report _ _).before (Quiet.after (writeSources_does _ _ _) (.print _))

/-- Generating for a list of platforms writes the files of those that are known, up to one that is
not. -/
theorem generateAll_concludes (verbose : Bool) (app : Application) (output : Path)
    (names : List String) :
    Concludes (if ∃ name ∈ names, isKnown name = false then .error .failed else .ok ())
      (names.forM (generateFor verbose app output)) (writeAll (requestedFiles app output names)) := by
  induction names with
  | nil => exact Quiet.pure.concludes
  | cons name names ih =>
    rw [List.forM]
    cases known : isKnown name with
    | true =>
      have rest := Concludes.after (generateFor_does known verbose app output) ih
      have verdict : (∃ other ∈ name :: names, isKnown other = false) ↔
          ∃ other ∈ names, isKnown other = false := by simp [known]
      simp only [verdict]
      refine rest.congr fun tree => ?_
      have files : requestedFiles app output (name :: names) =
          filesFor app output name ++ requestedFiles app output names := by
        rw [requestedFiles, List.takeWhile_cons, if_pos known, List.flatMap_cons]
        rfl
      rw [files, writeAll_append]
    | false =>
      intro progress
      obtain ⟨progress', run, same⟩ :=
        generateFor_unknown (Option.not_isSome_iff_eq_none.mp (by simpa [isKnown] using known))
          verbose app output progress
      have unknown : ∃ other ∈ name :: names, isKnown other = false :=
        ⟨name, List.mem_cons_self, known⟩
      rw [bind_run, run, if_pos unknown, requestedFiles, List.takeWhile_cons, if_neg (by simp [known])]
      exact ⟨rfl, same⟩

theorem generateAll_does {names : List String}
    (known : ∀ name ∈ names, (Platform.ofName? name).isSome = true)
    (verbose : Bool) (app : Application) (output : Path) :
    Does (names.forM (generateFor verbose app output))
      (writeAll (names.flatMap (filesFor app output))) := by
  have concludes := generateAll_concludes verbose app output names
  have allKnown : ¬ ∃ name ∈ names, isKnown name = false := by
    rintro ⟨name, member, unknown⟩
    rw [isKnown, known name member] at unknown
    contradiction
  rw [if_neg allKnown, requestedFiles_known known] at concludes
  exact concludes_ok_iff.mp concludes

/-- How generating for a list of platforms stops: the names before one are known, and their files are
written; the one is unknown, or one of its files cannot be written. -/
structure StopsAt (app : Application) (output : Path) (before : List String) (name : String)
    (tree after : FileTree) : Prop where
  known : ∀ earlier ∈ before, (Platform.ofName? earlier).isSome = true
  stops : Platform.ofName? name = none ∧
      writeAll (before.flatMap (filesFor app output)) tree = (after, none) ∨
    (Platform.ofName? name).isSome = true ∧
      ∃ error, writeAll ((before ++ [name]).flatMap (filesFor app output)) tree = (after, some error)

theorem StopsAt.cons {app : Application} {output : Path} {first : String} {before : List String}
    {name : String} {tree between after : FileTree}
    (known : (Platform.ofName? first).isSome = true)
    (written : writeAll (filesFor app output first) tree = (between, none))
    (stops : StopsAt app output before name between after) :
    StopsAt app output (first :: before) name tree after where
  known := List.forall_mem_cons.mpr ⟨known, stops.known⟩
  stops := by
    have onward (more : List String) : writeAll ((first :: more).flatMap (filesFor app output)) tree =
        writeAll (more.flatMap (filesFor app output)) between := by
      rw [List.flatMap_cons, writeAll_append, written]
      rfl
    rw [List.cons_append, onward, onward]
    exact stops.stops

theorem generateAll_run (verbose : Bool) (app : Application) (output : Path) (names : List String)
    (progress : Progress) :
    (((names.forM (generateFor verbose app output)).run progress).1 = .ok () ∧
        (∀ name ∈ names, (Platform.ofName? name).isSome = true) ∧
        writeAll (names.flatMap (filesFor app output)) progress.tree =
          (((names.forM (generateFor verbose app output)).run progress).2.tree, none)) ∨
      (∃ stop, ((names.forM (generateFor verbose app output)).run progress).1 = .error stop) ∧
        ∃ before name after, names = before ++ name :: after ∧
          StopsAt app output before name progress.tree
            ((names.forM (generateFor verbose app output)).run progress).2.tree := by
  induction names generalizing progress with
  | nil => exact .inl ⟨rfl, List.forall_mem_nil _, rfl⟩
  | cons name names ih =>
    rw [List.forM, bind_run]
    cases found : Platform.ofName? name with
    | none =>
      obtain ⟨progress', run, same⟩ := generateFor_unknown found verbose app output progress
      rw [run]
      exact .inr ⟨⟨_, rfl⟩, [], name, names, rfl, List.forall_mem_nil _,
        .inl ⟨found, by rw [same]; rfl⟩⟩
    | some platform =>
      have known : (Platform.ofName? name).isSome = true := by rw [found]; rfl
      obtain ⟨progress', run, isTree⟩ := (generateFor_does known verbose app output).run progress
      rw [run]
      cases written : writeAll (filesFor app output name) progress.tree with
      | mk made problem =>
        rw [written] at isTree
        obtain rfl := isTree
        cases problem with
        | some error =>
          refine .inr ⟨⟨_, rfl⟩, [], name, names, rfl, List.forall_mem_nil _,
            .inr ⟨known, error, ?_⟩⟩
          rw [List.nil_append, List.flatMap_singleton, written]
          rfl
        | none =>
          rcases ih progress' with ⟨done, others, rest⟩ | ⟨failed, before, last, after, rfl, stops⟩
          · refine .inl ⟨done, List.forall_mem_cons.mpr ⟨known, others⟩, ?_⟩
            rw [List.flatMap_cons, writeAll_append, written]
            exact rest
          · exact .inr ⟨failed, name :: before, last, after, rfl, stops.cons known written⟩

/-- Behind known platforms whose files can be written, one that is unknown stops the generating. -/
theorem generateAll_unknown (verbose : Bool) {app : Application} {output : Path}
    {before : List String} {name : String} (after : List String) {progress : Progress}
    {made : FileTree} (known : ∀ earlier ∈ before, (Platform.ofName? earlier).isSome = true)
    (written : writeAll (before.flatMap (filesFor app output)) progress.tree = (made, none))
    (unknown : Platform.ofName? name = none) :
    (((before ++ name :: after).forM (generateFor verbose app output)).run progress).1 =
        .error .failed ∧
      (((before ++ name :: after).forM (generateFor verbose app output)).run progress).2.tree =
        made := by
  have isUnknown : isKnown name = false := by simp [isKnown, unknown]
  have stranger : ∃ other ∈ before ++ name :: after, isKnown other = false :=
    ⟨name, List.mem_append_right _ List.mem_cons_self, isUnknown⟩
  have ends := generateAll_concludes verbose app output (before ++ name :: after) progress
  rw [if_pos stranger, requestedFiles_unknown known isUnknown, written] at ends
  exact ends

/-- Generating can begin: there are settings, and the source compiles to an application without
errors. -/
structure Ready (common : Common) (tree : FileTree) (settings : Settings) (base : Path)
    (app : Application) : Prop where
  prepared : ∃ diagnostics extraction progress, (prepare common).run { tree := tree } =
    (.ok (settings, base, ⟨app, diagnostics, extraction⟩), progress)
  errorless : app.hasErrors = false

/-- A request that stops before generating can begin has changed nothing. -/
theorem ready_or_stopped (common : Common) (output platforms : Option String) (tree : FileTree) :
    (∃ settings base app, Ready common tree settings base app) ∨
      ((CommandLine.generate common output platforms).run { tree := tree }).1 ≠ .ok () ∧
        ((CommandLine.generate common output platforms).run { tree := tree }).2.tree = tree := by
  have still := prepare_still common { tree := tree }
  rw [CommandLine.generate, bind_run]
  cases prepared : (prepare common).run { tree := tree } with
  | mk result progress =>
    rw [prepared] at still
    cases result with
    | error stop => exact .inr ⟨by rintro ⟨⟩, still⟩
    | ok value =>
      obtain ⟨settings, base, app, diagnostics, extraction⟩ := value
      cases errors : app.hasErrors with
      | false =>
        exact .inl ⟨settings, base, app, ⟨diagnostics, extraction, progress, prepared⟩, errors⟩
      | true =>
        obtain ⟨reported, run, same⟩ := (reportFindings_quiet app.findings).run progress
        simp only [bind_run, errors, if_true, run, ended]
        exact .inr ⟨by rintro ⟨⟩, same.trans still⟩

section Begun

variable {common : Common} {tree : FileTree} {settings : Settings} {base : Path} {app : Application}

theorem Ready.run (ready : Ready common tree settings base app)
    (output platforms : Option String) :
    ∃ reported : Progress, reported.tree = tree ∧
      (CommandLine.generate common output platforms).run { tree := tree } =
        ((platformNames platforms settings).forM
          (generateFor common.verbose app (outputDirectory output settings base))).run reported := by
  have still := prepare_still common { tree := tree }
  obtain ⟨diagnostics, extraction, progress, prepared⟩ := ready.prepared
  obtain ⟨reported, run, same⟩ := (reportFindings_quiet app.findings).run progress
  rw [prepared] at still
  rw [CommandLine.generate, bind_run, prepared]
  simp only [bind_run, ready.errorless, Bool.false_eq_true, if_false, run, ended]
  exact ⟨reported, same.trans still, rfl⟩

/-- Where generating stops because the first platform of all is unknown, nothing is written. -/
theorem Ready.stopped (ready : Ready common tree settings base app)
    {output platforms : Option String}
    (unsuccessful :
      ((CommandLine.generate common output platforms).run { tree := tree }).1 ≠ .ok ()) :
    ((CommandLine.generate common output platforms).run { tree := tree }).2.tree = tree ∨
      ∃ before name after, platformNames platforms settings = before ++ name :: after ∧
        (Platform.ofName? name = none → before ≠ []) ∧
        StopsAt app (outputDirectory output settings base) before name tree
          ((CommandLine.generate common output platforms).run { tree := tree }).2.tree := by
  obtain ⟨reported, same, run⟩ := ready.run output platforms
  rw [run] at unsuccessful ⊢
  rcases generateAll_run common.verbose app (outputDirectory output settings base)
      (platformNames platforms settings) reported with
    ⟨done, _⟩ | ⟨_, before, name, after, names, stops⟩
  · contradiction
  · rw [same] at stops
    by_cases first : Platform.ofName? name = none ∧ before = []
    · obtain ⟨unknown, rfl⟩ := first
      rcases stops.stops with ⟨_, written⟩ | ⟨known, _⟩
      · exact .inl (congrArg Prod.fst written).symm
      · rw [unknown] at known
        contradiction
    · exact .inr ⟨before, name, after, names, not_and.mp first, stops⟩

end Begun

theorem statusOf_eq_ok {result : Except Stop Unit} : statusOf result = .ok 0 ↔ result = .ok () := by
  cases result with
  | ok value => exact iff_of_true rfl rfl
  | error stop => cases stop <;> simp [statusOf]

/-- A request to generate code succeeds exactly if generating can begin, all platforms of its list are
known and their files can be written, and then these are what it changes. A request that does not
succeed leaves the file tree as it was, or generating begins and stops at a platform of the list.
There a file cannot be written, or the platform is unknown; in that case it is not the first one, and
the files of those before it are written. -/
theorem generate_outcome (common : Common) (output platforms : Option String) (tree : FileTree) :
    let outcome := (Request.generate common output platforms).run tree
    (outcome.status = .ok 0 ↔ ∃ settings base app, Ready common tree settings base app ∧
        (∀ name ∈ platformNames platforms settings, (Platform.ofName? name).isSome = true) ∧
        writeAll ((platformNames platforms settings).flatMap
          (filesFor app (outputDirectory output settings base))) tree = (outcome.tree, none)) ∧
      (outcome.status ≠ .ok 0 → outcome.tree = tree ∨
        ∃ settings base app, Ready common tree settings base app ∧
          ∃ before name after, platformNames platforms settings = before ++ name :: after ∧
            (Platform.ofName? name = none → before ≠ []) ∧
            StopsAt app (outputDirectory output settings base) before name tree outcome.tree) := by
  intro outcome
  have isStatus : outcome.status = .ok 0 ↔
      ((CommandLine.generate common output platforms).run { tree := tree }).1 = .ok () :=
    statusOf_eq_ok
  have isTree : outcome.tree =
      ((CommandLine.generate common output platforms).run { tree := tree }).2.tree := rfl
  rw [ne_eq, isStatus, isTree]
  refine ⟨⟨fun successful => ?_, ?_⟩, fun unsuccessful => ?_⟩
  · rcases ready_or_stopped common output platforms tree with
      ⟨settings, base, app, ready⟩ | ⟨stopped, _⟩
    · obtain ⟨reported, same, run⟩ := ready.run output platforms
      rw [run] at successful ⊢
      rcases generateAll_run common.verbose app (outputDirectory output settings base)
          (platformNames platforms settings) reported with ⟨_, known, written⟩ | ⟨⟨_, failed⟩, _⟩
      · rw [same] at written
        exact ⟨settings, base, app, ready, known, written⟩
      · rw [failed] at successful
        contradiction
    · contradiction
  · rintro ⟨settings, base, app, ready, known, written⟩
    obtain ⟨reported, same, run⟩ := ready.run output platforms
    have does := generateAll_does known common.verbose app (outputDirectory output settings base)
    rw [run, (does reported).1, same, written]
    rfl
  · rcases ready_or_stopped common output platforms tree with
      ⟨settings, base, app, ready⟩ | ⟨_, same⟩
    · exact (ready.stopped unsuccessful).imp_right fun stops => ⟨settings, base, app, ready, stops⟩
    · exact .inl same

/-! ## A request that stops with files written -/

def stallSource : String := "app A \x7bname: 'a' id: 'b' version: '1'\x7d"

/-- A file tree with a source, seen from its root. -/
def stall : FileTree := { entries := [(["a.finapp"], .file (bytesOf stallSource))] }

def stallApp : Application := { name := "A", displayName := "a", appId := "b", version := "1" }

set_option maxRecDepth 2000 in
theorem compile_stall : compile stallSource .extracted = .ok ⟨stallApp, [], {}⟩ := by
  have parsed : Document.parse stallSource =
      .ok ⟨some { header := some { name := "A", displayName := "a", appId := "b", version := "1" } },
        []⟩ := by
    cbv
  have extracted : Extraction.ofSource stallSource = {} := by cbv
  rw [compile, parsed, extracted]
  rfl

theorem stall_prepared :
    Prepared stall { file := "a.finapp" } {} { slashes := 1 } ⟨stallApp, [], {}⟩ := by
  have unset : settingsPath? stall { file := "a.finapp" } = .ok none := by cbv
  have isSource : stall.read (sourcePath stall { file := "a.finapp" }) =
      .ok (bytesOf stallSource) := by cbv
  have decoded : Text.decodeUtf8 (bytesOf stallSource) = .ok stallSource.toList := rfl
  have base : (sourcePath stall { file := "a.finapp" }).parent = { slashes := 1 } := by cbv
  exact base ▸ .byDefault unset isSource decoded compile_stall

/-- A request for a known platform and an unknown one. -/
def stallRequest : Request := .generate { file := "a.finapp" } none (some "web,nope")

/-- The directory that the files go to. -/
def stallOutput : Path := { slashes := 1, names := ["generated"] }

/-- What is there once the files for the known platform are written. -/
def stallWritten : Changed := writeAll (["web"].flatMap (filesFor stallApp stallOutput)) stall

theorem stall_ready : Ready { file := "a.finapp" } stall {} { slashes := 1 } stallApp := by
  have prepared := (@prepare_ok_iff _ _ _ _ { tree := stall }).mpr stall_prepared
  exact ⟨⟨[], {}, _, Prod.ext prepared rfl⟩, by decide⟩

theorem stallRequest_run : stallWritten.2 = none ∧ (stallRequest.run stall).status = .ok 1 ∧
    (stallRequest.run stall).tree = stallWritten.1 := by
  obtain ⟨reported, same, run⟩ := stall_ready.run none (some "web,nope")
  have names : platformNames (some "web,nope") {} = ["web"] ++ "nope" :: [] := by decide
  have directory : outputDirectory none {} { slashes := 1 } = stallOutput := by decide
  have known : ∀ name ∈ ["web"], (Platform.ofName? name).isSome = true := by decide
  have unknown : Platform.ofName? "nope" = none := by decide
  have written : stallWritten.2 = none := by decide
  have begun : writeAll (["web"].flatMap (filesFor stallApp stallOutput)) reported.tree =
      (stallWritten.1, none) := by
    rw [same]
    exact Prod.ext rfl written
  obtain ⟨failed, made⟩ := generateAll_unknown false [] known begun unknown
  rw [names, directory] at run
  refine ⟨written, ?_, ?_⟩
  · exact (congrArg (fun outcome => statusOf outcome.1) run).trans (congrArg statusOf failed)
  · exact (congrArg (fun outcome => outcome.2.tree) run).trans made

theorem generate_outcome_stall : (stallRequest.run stall).status = .ok 1 ∧
    ((stallRequest.run stall).tree = stall ∨
      ∃ settings base app, Ready { file := "a.finapp" } stall settings base app ∧
        ∃ before name after, platformNames (some "web,nope") settings = before ++ name :: after ∧
          (Platform.ofName? name = none → before ≠ []) ∧
          StopsAt app (outputDirectory none settings base) before name stall
            (stallRequest.run stall).tree) := by
  have failed := stallRequest_run.2.1
  have unsuccessful : (stallRequest.run stall).status ≠ .ok 0 := by
    rw [failed]
    simp
  exact ⟨failed, (generate_outcome { file := "a.finapp" } none (some "web,nope") stall).2 unsuccessful⟩

/-- The unknown platform makes the request fail, and yet there is a new directory. -/
theorem generate_unknown_changes : Platform.ofName? "nope" = none ∧ stallWritten.2 = none ∧
    (stallRequest.run stall).status = .ok 1 ∧ stall.get? ["generated"] = none ∧
    (stallRequest.run stall).tree.get? ["generated"] = some .directory := by
  obtain ⟨written, status, tree⟩ := stallRequest_run
  refine ⟨by decide, written, status, by decide, ?_⟩
  rw [tree]
  decide

end Blueprint
