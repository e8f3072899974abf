import Blueprint.Proofs.Circular
import Blueprint.Proofs.Outputs

/-!
What becomes of the source. Without settings and without a place that is asked for, what a request
writes goes beside the source or below its directory, and never to the source itself, but for the dump
of a source that has the extension of dumps already: that one replaces it (`source_kept`).
-/
set_option autoImplicit false

namespace Blueprint

open FileTree

/-! ## Extensions -/

/-- The last name of a path ends in a dot and an extension, behind something else. -/
def Path.HasExtension (extension : String) (path : Path) : Prop :=
  ∃ stem, stem ≠ "" ∧ path.names.getLast? = some (stem ++ "." ++ extension)

theorem Path.changeExtension_form (extension name : String) :
    ∃ stem, Path.changeExtension extension name = stem ++ "." ++ extension := by
  unfold Path.changeExtension
  dsimp only
  split
  · split
    · exact ⟨name, rfl⟩
    · exact ⟨_, rfl⟩
  · exact ⟨name, rfl⟩

theorem Path.changeExtension_inward (name : String) : Path.changeExtension "json" name ≠ ".." := by
  obtain ⟨stem, form⟩ := Path.changeExtension_form "json" name
  intro back
  have lengths : (stem ++ "." ++ "json").length = 2 := congrArg String.length (form.symm.trans back)
  have dot : ".".length = 1 := rfl
  have json : "json".length = 4 := rfl
  rw [String.length_append, String.length_append] at lengths
  omega

/-- A name that stays the same has the new extension already. -/
theorem Path.changeExtension_eq_self {extension name : String}
    (same : Path.changeExtension extension name = name) :
    ∃ stem, stem ≠ "" ∧ name = stem ++ "." ++ extension := by
  have longer : name ++ "." ++ extension ≠ name := by
    intro unchanged
    have lengths := congrArg String.length unchanged
    have dot : ".".length = 1 := rfl
    rw [String.length_append, String.length_append] at lengths
    omega
  unfold Path.changeExtension at same
  dsimp only at same
  split at same
  · next stem _ =>
    split at same
    · exact absurd same longer
    · next some =>
      refine ⟨String.ofList stem.reverse, ?_, same.symm⟩
      have nonempty : stem ≠ [] := by
        rintro rfl
        simp at some
      simpa using nonempty
  · exact absurd same longer

/-! ## Places beside and below -/

theorem follow_inside {here : Place} (inside : ∀ name ∈ here, name ≠ "..") (names : List String) :
    ∀ name ∈ follow here names, name ≠ ".." := by
  induction names generalizing here with
  | nil => exact inside
  | cons name names ih =>
    have step : ∀ other ∈ follow here [name], other ≠ ".." := by
      rw [follow_singleton]
      split
      · exact fun other member => inside other (List.dropLast_subset _ member)
      · next inward => simpa [or_imp, forall_and] using And.intro inside (by simpa using inward)
    exact ih step

theorem length_follow_le {here here' : Place} (shorter : here.length ≤ here'.length)
    (names : List String) : (follow here names).length ≤ (follow here' names).length := by
  induction names generalizing here here' with
  | nil => exact shorter
  | cons name names ih =>
    have step : (follow here [name]).length ≤ (follow here' [name]).length := by
      rw [follow_singleton, follow_singleton]
      split <;> simp <;> omega
    exact ih step

theorem length_follow (here : Place) (names : List String) :
    (follow here names).length ≤ here.length + names.length := by
  induction names generalizing here with
  | nil => exact Nat.le_refl _
  | cons name names ih =>
    have step : (follow here [name]).length ≤ here.length + 1 := by
      rw [follow_singleton]
      split <;> simp
      omega
    have rest := ih (follow here [name])
    rw [List.length_cons]
    have whole : follow here (name :: names) = follow (follow here [name]) names := rfl
    rw [whole]
    omega

/-- Where two walks along the same names end in the same place, and the first of them with a last name
that leads inward, the other has this last name as well, unless it set out further down. -/
theorem last_of_follow {here here' : Place} (shorter : here'.length ≤ here.length)
    {outer : List String} {last last' : String} (inward : last ≠ "..")
    (same : follow here (outer ++ [last]) = follow here' (outer ++ [last'])) : last = last' := by
  have lengths := length_follow_le shorter outer
  rw [follow_append, follow_append, follow_singleton, follow_singleton,
    if_neg (by simpa using inward)] at same
  split at same
  · have sameLength := congrArg List.length same
    rw [List.length_append, List.length_singleton, List.length_dropLast] at sameLength
    omega
  · exact (List.cons.inj (List.append_inj' same rfl).2).1

/-- A path through names that lead inward, seen from the root, has these names for its place. -/
theorem placeOf_inside (tree : FileTree) {names : List String} (inside : ∀ name ∈ names, name ≠ "..") :
    tree.placeOf { slashes := 1, names := names } = names :=
  follow_inward inside []

theorem placeOf_resolve (tree : FileTree) (path : Path) :
    tree.placeOf (Path.resolve tree.directory path) =
      follow (if path.isAbsolute then [] else follow [] tree.directory.names) path.names := by
  have inside := follow_inside (List.forall_mem_nil (· ≠ "..")) (tree.directory.join path).names
  refine (placeOf_inside tree inside).trans ?_
  rw [Path.join]
  split
  · rfl
  · exact follow_append [] _ _

theorem placeOf_resolve_parent (tree : FileTree) (path : Path) :
    tree.placeOf (Path.resolve tree.directory path).parent =
      (tree.placeOf (Path.resolve tree.directory path)).dropLast := by
  have inside := follow_inside (List.forall_mem_nil (· ≠ "..")) (tree.directory.join path).names
  have whole : tree.placeOf (Path.resolve tree.directory path) = _ := placeOf_inside tree inside
  rw [whole]
  exact placeOf_inside tree fun name member => inside name (List.dropLast_subset _ member)

/-- A dump begins with a brace. -/
theorem Application.dump_begins (app : Application) : ∃ rest, app.dump = "\x7b" ++ rest := by
  obtain ⟨fields, isObject⟩ : ∃ fields, app.describe.data = .object fields := by
    rw [Application.describe, DebugItem.data, DebugItem.encode_record]
    exact ⟨_, rfl⟩
  rw [Application.dump, isObject, Value.json, Value.jsonAt, Value.jsonGroup]
  split
  · exact ⟨_, rfl⟩
  · simp only [String.append_assoc]
    exact ⟨_, rfl⟩

namespace CommandLine

/-- The place that a request is told to write to. -/
def Request.output : Request → Option String
  | .generate _ output _ | .docs _ output | .dump _ output => output
  | .check _ | .serve _ _ _ => none

variable {tree : FileTree} {common : Common} {request : Request}

theorem default_output_place (tree : FileTree) (base : Path) :
    tree.placeOf (outputDirectory none {} base) = tree.placeOf base ++ ["generated"] := by
  have single : Path.ofText "generated" = { names := ["generated"] } := by decide
  have names : outputDirectory none {} base = { base with names := base.names ++ ["generated"] } := by
    simp [outputDirectory, single, Path.join, Path.isAbsolute]
  rw [names]
  exact below_of_inward (by decide) tree base

/-- What is two names below the directory of the source is not the source. -/
theorem not_source {first second : String} {rest : Place} (place : Place) :
    place.dropLast ++ first :: second :: rest ≠ place := by
  intro same
  have lengths := congrArg List.length same
  rw [List.length_append, List.length_dropLast, List.length_cons, List.length_cons] at lengths
  omega

theorem withExtension_concat {path : Path} {outer : List String} {last : String}
    (names : path.names = outer ++ [last]) (extension : String) :
    path.withExtension extension =
      { path with names := outer ++ [Path.changeExtension extension last] } := by
  simp [Path.withExtension, names]

/-- The dump goes to the source only where that has its extension. -/
theorem dump_beside {base : Path} (some : (Path.ofText common.file).names ≠ [])
    (same : tree.placeOf (dumpTarget common none {} base) = tree.placeOf (sourcePath tree common)) :
    (Path.ofText common.file).HasExtension "json" := by
  have isTarget : dumpTarget common none {} base = (Path.ofText common.file).withExtension "json" := rfl
  rw [isTarget, sourcePath, placeOf_resolve] at same
  generalize Path.ofText common.file = path at some same ⊢
  obtain ⟨outer, last, names⟩ := (List.eq_nil_or_concat path.names).resolve_left some
  rw [List.concat_eq_append] at names
  rw [withExtension_concat names, names] at same
  -- The working directory may hold double dots, which only make the place of the source shorter.
  have shorter : (if path.isAbsolute then [] else follow [] tree.directory.names).length ≤
      (if path.isAbsolute then [] else tree.directory.names).length := by
    split
    · exact Nat.le_refl _
    · simpa using length_follow [] tree.directory.names
  have unchanged := last_of_follow shorter (Path.changeExtension_inward last) same
  obtain ⟨stem, nonempty, form⟩ := Path.changeExtension_eq_self unchanged
  exact ⟨stem, nonempty, by rw [names, List.getLast?_concat, form]⟩

/-- Nothing else that a request writes of itself goes to its source. -/
theorem written_is_dump {base : Path} {app : Application} (named : app.Named)
    (unaimed : request.output = none) (some : (Path.ofText request.common.file).names ≠ [])
    (beside : tree.placeOf base = (tree.placeOf (sourcePath tree request.common)).dropLast)
    {file : Path × String} (member : file ∈ request.files {} base app)
    (same : tree.placeOf file.1 = tree.placeOf (sourcePath tree request.common)) :
    ∃ common, request = .dump common none ∧ (Path.ofText common.file).HasExtension "json" := by
  cases request with
  | check common => contradiction
  | serve common host port => contradiction
  | generate common output platforms =>
    obtain rfl : output = none := unaimed
    rw [Request.files] at member
    split at member
    · contradiction
    · obtain ⟨name, _, isFile⟩ := List.mem_flatMap.mp member
      obtain ⟨_, segments, _, _, _, _, place⟩ := filesFor_place named tree isFile
      rw [place, default_output_place, beside, List.append_assoc] at same
      exact absurd same (not_source _)
  | docs common output =>
    obtain rfl : output = none := unaimed
    obtain rfl := List.mem_singleton.mp member
    have names : Path.namesOf Documentation.fileName = [Documentation.fileName] := by decide
    have inward : ∀ name ∈ [Documentation.fileName], name ≠ ".." := by decide
    rw [Path.below, names, below_of_inward inward, default_output_place, beside,
      List.append_assoc] at same
    exact absurd same (not_source _)
  | dump common output =>
    obtain rfl : output = none := unaimed
    obtain rfl := List.mem_singleton.mp member
    exact ⟨common, rfl, @dump_beside _ _ base some same⟩

/-- A source that is a file has a name, since what is seen from a directory is no file there. -/
theorem source_named (seen : tree.get? (Path.normalize tree.directory.names) = some .directory)
    {bytes : List Nat}
    (stands : tree.get? (tree.placeOf (sourcePath tree common)) = some (.file bytes)) :
    (Path.ofText common.file).names ≠ [] := by
  intro nameless
  have isDirectory : tree.get? (tree.placeOf (sourcePath tree common)) = some .directory := by
    rw [sourcePath, placeOf_resolve, nameless]
    split
    · rfl
    · exact seen
  simp [isDirectory] at stands

theorem Configured.by_default {settings : Settings} {base : Path}
    (configured : Configured tree common settings base)
    (unset : ∀ path, settingsPath? tree common ≠ .ok (some path)) :
    settings = {} ∧ base = (sourcePath tree common).parent := by
  cases configured with
  | byDefault => exact ⟨rfl, rfl⟩
  | byFile found => exact absurd found (unset _)

/-- Without settings, and without a place that it is told to write to, a request leaves its source as
it is, except for a dump of a source that has the extension of dumps: this may hold the dump then. -/
theorem source_kept (request : Request) (tree : FileTree) (unaimed : request.output = none)
    (unset : ∀ path, settingsPath? tree request.common ≠ .ok (some path))
    (seen : tree.get? (Path.normalize tree.directory.names) = some .directory) :
    let outcome := request.run tree
    let source := sourcePath tree request.common
    outcome.tree.read source = tree.read source ∨ ∃ common compilation,
      request = .dump common none ∧ (Path.ofText common.file).HasExtension "json" ∧
        Compiled tree common {} compilation ∧
        outcome.tree.read source = .ok (bytesOf compilation.application.dump) := by
  intro outcome source
  rcases prepared_or_stopped request tree with
    ⟨settings, base, compilation, prepared⟩ | ⟨_, _, same, _⟩
  · obtain ⟨rfl, rfl⟩ := prepared.configured.by_default unset
    obtain ⟨text, ⟨bytes, _, holds, _⟩, compiles⟩ := prepared.compiled
    have stands := (read_eq_ok_iff.mp holds).2
    have made := (run_prepared prepared).2
    have keeps := writeAll_keeps (request.files {} source.parent compilation.application) tree
    have changes := writeAll_bounded (request.files {} source.parent compilation.application) tree
    rcases changes.entry stands with same | ⟨file, member, onSource⟩
    · left
      rw [holds, made]
      exact keeps.read holds same
    · obtain ⟨common, rfl, extension⟩ := written_is_dump (compile_named compiles) unaimed
        (source_named seen stands) (placeOf_resolve_parent tree _) member onSource.symm
      obtain rfl := List.mem_singleton.mp member
      simp only [Request.files, writeAll_single] at made keeps
      rw [made]
      rcases writeBelow_outcome tree (dumpTarget common none {} source.parent)
        compilation.application.dump with success | failure
      · right
        refine ⟨common, compilation, rfl, extension, prepared.compiled, keeps.read holds ?_⟩
        rw [onSource]
        exact success.written
      · left
        rw [holds]
        exact keeps.read holds ((failure.entry stands).resolve_right id)
  · exact .inl (congrArg (FileTree.read · source) same)

theorem source_kept_stall :
    let request : Request := .generate { file := "a.finapp" } none none
    settingsPath? stall request.common = .ok none ∧
      stall.get? (Path.normalize stall.directory.names) = some .directory ∧
      (request.run stall).tree.read (sourcePath stall request.common) =
        stall.read (sourcePath stall request.common) := by
  intro request
  have unset : settingsPath? stall request.common = .ok none := by cbv
  refine ⟨unset, rfl, ?_⟩
  rcases source_kept request stall rfl (by simp [unset]) rfl with kept | ⟨common, _, isDump, _⟩
  · exact kept
  · simp [request] at isDump

/-- The source of `stall` in a file with the extension of dumps. -/
def stallData : FileTree := { entries := [(["a.json"], .file (bytesOf stallSource))] }

theorem stallData_prepared :
    Prepared stallData { file := "a.json" } {} { slashes := 1 } ⟨stallApp, [], {}⟩ := by
  have unset : settingsPath? stallData { file := "a.json" } = .ok none := by cbv
  have isSource : stallData.read (sourcePath stallData { file := "a.json" }) =
      .ok (bytesOf stallSource) := by cbv
  have base : (sourcePath stallData { file := "a.json" }).parent = { slashes := 1 } := by cbv
  have decoded : Text.decodeUtf8 (bytesOf stallSource) = .ok stallSource.toList := rfl
  exact base ▸ .byDefault unset isSource decoded compile_stall

/-- A dump of a source with the extension of dumps takes its place. -/
theorem dump_replaces_source :
    let outcome := (Request.dump { file := "a.json" } none).run stallData
    let source := sourcePath stallData { file := "a.json" }
    settingsPath? stallData { file := "a.json" } = .ok none ∧
      stallData.read source = .ok (bytesOf stallSource) ∧ outcome.status = .ok 0 ∧
      outcome.tree.read source = .ok (bytesOf stallApp.dump) ∧
      bytesOf stallApp.dump ≠ bytesOf stallSource := by
  intro outcome source
  have prepared : Prepared stallData (Request.dump { file := "a.json" } none).common {}
      { slashes := 1 } ⟨stallApp, [], {}⟩ := stallData_prepared
  have made := (run_prepared prepared).2
  have holds : stallData.read source = .ok (bytesOf stallSource) := by cbv
  have success : (stallData.writeBelow { names := ["a.json"] } stallApp.dump).2 = none := by decide
  refine ⟨by cbv, holds, ?_, ?_, ?_⟩
  · exact run_succeeds_iff.mpr ⟨_, _, _, prepared, writeAll_succeeds_iff.mp success, rfl⟩
  · have target : dumpTarget { file := "a.json" } none {} { slashes := 1 } =
        { names := ["a.json"] } := by
      decide
    simp only [Request.files, target, writeAll_single] at made
    have keeps := writeBelow_keeps stallData { names := ["a.json"] } stallApp.dump
    exact made ▸ keeps.read holds (writeBelow_stands (Prod.ext rfl success)).written
  · obtain ⟨rest, begins⟩ := stallApp.dump_begins
    have brace : bytesOf "\x7b" = [123] := by decide
    have letter : (bytesOf stallSource).head? = some 97 := by decide
    intro same
    rw [← same, begins, bytesOf_append, brace] at letter
    simp at letter

end CommandLine

end Blueprint
