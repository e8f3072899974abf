import Blueprint.Proofs.TreeChanges

/-!
What it takes to write files, and what stands there afterwards. Files can be written exactly if they
fit: their paths can be followed, no file stands on the way to them or is put there, and no directory
where they go (`writeAll_succeeds_iff`). Then they hold their texts, the directories on the way to them
are there, and nothing else has changed (`Updates`). Neither depends on the order of the files.
-/
set_option autoImplicit false

namespace Blueprint.FileTree

variable {tree between after : FileTree} {path : Path}

/-! ## Paths that can be followed -/

/-- A path that can be looked for at all, wherever it leads. -/
structure Usable (path : Path) : Prop where
  plain : path.hasNull = false
  short : (bytesOf path.text).length ≤ maxPathLength
  named : ∀ name ∈ path.names, (bytesOf name).length ≤ maxNameLength

theorem bytesOf_append (text more : String) :
    bytesOf (text ++ more) = bytesOf text ++ bytesOf more := by
  simp [bytesOf]

theorem length_intercalate_front {front names : List String} (begins : front <+: names) :
    (bytesOf ("/".intercalate front)).length ≤ (bytesOf ("/".intercalate names)).length := by
  obtain ⟨rest, rfl⟩ := begins
  by_cases some : front = [] ∨ rest = []
  · rcases some with rfl | rfl
    · simp [bytesOf]
    · exact Nat.le_of_eq (by rw [List.append_nil])
  · obtain ⟨frontSome, restSome⟩ := not_or.mp some
    rw [String.intercalate_append_of_ne_nil frontSome restSome, bytesOf_append, bytesOf_append,
      List.length_append, List.length_append]
    omega

theorem plain_front (plain : path.hasNull = false) {front : List String}
    (begins : front <+: path.names) : ({ path with names := front } : Path).hasNull = false := by
  rw [Path.hasNull, List.any_eq_false] at plain ⊢
  exact fun name member => plain name (begins.subset member)

theorem Usable.front (usable : Usable path) {front : List String} (begins : front <+: path.names) :
    Usable { path with names := front } where
  plain := plain_front usable.plain begins
  short := by
    have short := usable.short
    have shorter := length_intercalate_front begins
    by_cases dot : (path.slashes == 0 && front.isEmpty) = true
    · rw [Path.text, if_pos dot]
      decide
    · have long : ¬ (path.slashes == 0 && path.names.isEmpty) = true := by
        intro isDot
        rw [Bool.and_eq_true, List.isEmpty_iff] at isDot
        obtain rfl := List.prefix_nil.mp (isDot.2 ▸ begins)
        simp [isDot.1] at dot
      rw [Path.text, if_neg long, bytesOf_append, List.length_append] at short
      rw [Path.text, if_neg dot, bytesOf_append, List.length_append]
      exact Nat.le_trans (Nat.add_le_add_left shorter _) short
  named name member := usable.named name (begins.subset member)

theorem Usable.parent (usable : Usable path) : Usable path.parent :=
  usable.front (List.dropLast_prefix _)

/-- All places before the last that names lead to from another one are directories. -/
def Passes (tree : FileTree) (here : Place) (names : List String) : Prop :=
  ∀ front, front <+: names → front ≠ names → tree.get? (follow here front) = some .directory

theorem passes_cons {here : Place} {name : String} {names : List String} :
    tree.Passes here (name :: names) ↔
      tree.get? here = some .directory ∧ tree.Passes (follow here [name]) names := by
  constructor
  · intro passes
    refine ⟨passes [] List.nil_prefix (List.cons_ne_nil _ _).symm, fun front begins proper => ?_⟩
    exact passes (name :: front) ((List.prefix_cons_inj name).mpr begins) (by simpa using proper)
  · rintro ⟨directory, passes⟩ front begins proper
    rcases List.prefix_cons_iff.mp begins with rfl | ⟨rest, rfl, within⟩
    · exact directory
    · exact passes rest within (by simpa using proper)

theorem follow_singleton (here : Place) (name : String) :
    follow here [name] = if name == ".." then here.dropLast else here ++ [name] := rfl

/-- One step of a walk, where it can be made. -/
theorem walk_step {here : Place} {name : String} (directory : tree.get? here = some .directory)
    (short : (bytesOf name).length ≤ maxNameLength) (names : List String) :
    tree.walk here (name :: names) = tree.walk (follow here [name]) names := by
  rw [walk, directory, follow_singleton]
  simp only [if_neg (Nat.not_lt.mpr short)]
  split <;> rfl

theorem walk_eq_ok_iff {here place : Place} {names : List String} :
    tree.walk here names = .ok place ↔ place = follow here names ∧ tree.Passes here names ∧
      ∀ name ∈ names, (bytesOf name).length ≤ maxNameLength := by
  induction names generalizing here with
  | nil =>
    rw [walk, Except.ok.injEq]
    refine ⟨fun same => ⟨same.symm, fun front begins proper => ?_, List.forall_mem_nil _⟩,
      fun follows => follows.1.symm⟩
    exact absurd (List.prefix_nil.mp begins) proper
  | cons name names ih =>
    rw [passes_cons, List.forall_mem_cons]
    by_cases goes : tree.get? here = some .directory ∧ (bytesOf name).length ≤ maxNameLength
    · rw [walk_step goes.1 goes.2, ih]
      simp only [goes, true_and]
      rfl
    · constructor
      · intro walked
        rw [walk] at walked
        split at walked
        · contradiction
        · contradiction
        · next directory =>
          split at walked
          · contradiction
          · next short => exact absurd ⟨directory, Nat.not_lt.mp short⟩ goes
      · rintro ⟨_, ⟨directory, _⟩, short, _⟩
        exact absurd ⟨directory, short⟩ goes

/-- Where no file is on the way, only a missing directory can stop a walk. -/
theorem walk_free {here : Place} {names : List String}
    (short : ∀ name ∈ names, (bytesOf name).length ≤ maxNameLength)
    (free : ∀ front, front <+: names → ∀ bytes, tree.get? (follow here front) ≠ some (.file bytes)) :
    tree.walk here names = .ok (follow here names) ∨ tree.walk here names = .error .notFound := by
  induction names generalizing here with
  | nil => exact .inl rfl
  | cons name names ih =>
    obtain ⟨first, others⟩ := List.forall_mem_cons.mp short
    cases stands : tree.get? here with
    | none => exact .inr (by rw [walk, stands])
    | some entry =>
      cases entry with
      | file bytes => exact absurd stands (free [] List.nil_prefix bytes)
      | directory =>
        rw [walk_step stands first]
        exact ih others fun front begins =>
          free (name :: front) ((List.prefix_cons_inj name).mpr begins)

theorem locate_eq (usable : Usable path) :
    tree.locate path = tree.walk (if path.isAbsolute then [] else tree.directory.names) path.names := by
  rw [locate, usable.plain]
  simp only [if_neg (Nat.not_lt.mpr usable.short)]

theorem locate_eq_ok_iff {place : Place} : tree.locate path = .ok place ↔
    Usable path ∧ place = tree.placeOf path ∧ ∀ front, front <+: path.names → front ≠ path.names →
      tree.get? (tree.placeOf { path with names := front }) = some .directory := by
  constructor
  · intro located
    have usable : Usable path := by
      unfold locate at located
      split at located
      · contradiction
      · next plain =>
        split at located
        · contradiction
        · next short => exact ⟨plain, Nat.not_lt.mp short, (walk_eq_ok_iff.mp located).2.2⟩
    rw [locate_eq usable, walk_eq_ok_iff] at located
    exact ⟨usable, located.1, located.2.1⟩
  · rintro ⟨usable, rfl, passes⟩
    rw [locate_eq usable]
    exact walk_eq_ok_iff.mpr ⟨rfl, passes, usable.named⟩

theorem isDirectory_iff : tree.isDirectory path = true ↔
    Usable path ∧ ∀ place, tree.OnTheWay path place → tree.get? place = some .directory := by
  constructor
  · intro isDirectory
    rw [FileTree.isDirectory, find] at isDirectory
    cases located : tree.locate path with
    | error problem => simp [located, bind, Except.bind] at isDirectory
    | ok place =>
      obtain ⟨usable, rfl, passes⟩ := locate_eq_ok_iff.mp located
      refine ⟨usable, ?_⟩
      rintro place ⟨front, begins, rfl⟩
      by_cases whole : front = path.names
      · subst whole
        cases stands : tree.get? (tree.placeOf path) with
        | none => simp [located, stands, bind, Except.bind] at isDirectory
        | some entry =>
          cases entry with
          | directory => rfl
          | file bytes => simp [located, stands, bind, Except.bind] at isDirectory
      · exact passes front begins whole
  · rintro ⟨usable, directories⟩
    have located : tree.locate path = .ok (tree.placeOf path) :=
      locate_eq_ok_iff.mpr ⟨usable, rfl, fun front begins _ => directories _ ⟨front, begins, rfl⟩⟩
    have stands := directories _ ⟨path.names, List.prefix_rfl, rfl⟩
    rw [isDirectory, find, located]
    simp [stands, bind, Except.bind]

/-! ## What stays in kind -/

/-- Directories stay, and files stay files. -/
structure Keeps (tree after : FileTree) : Prop where
  directory : after.directory = tree.directory
  directories {place : Place} (stands : tree.get? place = some .directory) :
    after.get? place = some .directory
  files {place : Place} {bytes : List Nat} (stands : tree.get? place = some (.file bytes)) :
    ∃ bytes', after.get? place = some (.file bytes')

namespace Keeps

theorem refl (tree : FileTree) : Keeps tree tree := ⟨rfl, id, fun stands => ⟨_, stands⟩⟩

theorem trans (first : Keeps tree between) (second : Keeps between after) : Keeps tree after where
  directory := second.directory.trans first.directory
  directories stands := second.directories (first.directories stands)
  files stands := by
    obtain ⟨bytes, stands'⟩ := first.files stands
    exact second.files stands'

/-- What is a directory in the end was no file before. -/
theorem not_file (keeps : Keeps tree after) {place : Place}
    (stands : after.get? place = some .directory) (bytes : List Nat) :
    tree.get? place ≠ some (.file bytes) := by
  intro file
  obtain ⟨bytes', file'⟩ := keeps.files file
  simp [stands] at file'

/-- What is a file in the end was no directory before. -/
theorem not_directory (keeps : Keeps tree after) {place : Place} {bytes : List Nat}
    (stands : after.get? place = some (.file bytes)) : tree.get? place ≠ some .directory := by
  intro directory
  simp [keeps.directories directory] at stands

end Keeps

/-- An entry stays unless something is written at its place. -/
theorem Changes.entry {made written : Place → Prop} (changes : Changes made written tree after)
    {place : Place} {entry : Entry} (stands : tree.get? place = some entry) :
    after.get? place = some entry ∨ written place := by
  rcases changes.entries place with same | ⟨_, none, _⟩ | isWritten
  · exact .inl (same.trans stands)
  · rw [stands] at none
    contradiction
  · exact .inr isWritten

/-- A step that only makes directories keeps what is there. -/
theorem Changes.keeps {made : Place → Prop} (changes : Changes made (fun _ => False) tree after) :
    Keeps tree after where
  directory := changes.directory
  directories stands := (changes.entry stands).resolve_right id
  files stands := ⟨_, (changes.entry stands).resolve_right id⟩

theorem put_file_keeps {place : Place} (free : tree.get? place ≠ some .directory) (bytes : List Nat) :
    Keeps tree (tree.put place (.file bytes)) where
  directory := rfl
  directories {other} stands := by
    have apart : other ≠ place := by
      rintro rfl
      exact free stands
    rwa [get?_put_other apart]
  files {other bytes'} stands := by
    by_cases same : other = place
    · subst same
      have below : other ≠ [] := by
        rintro rfl
        exact free rfl
      exact ⟨bytes, get?_put_self below tree _⟩
    · exact ⟨bytes', by rwa [get?_put_other same]⟩

theorem read_eq_ok_iff {bytes : List Nat} : tree.read path = .ok bytes ↔
    (∃ place, tree.locate path = .ok place) ∧ tree.get? (tree.placeOf path) = some (.file bytes) := by
  rw [FileTree.read, find]
  cases located : tree.locate path with
  | error problem => simp [bind, Except.bind]
  | ok place =>
    obtain rfl := locate_eq_ok located
    cases stands : tree.get? (tree.placeOf path) with
    | none => simp [stands, bind, Except.bind]
    | some entry => cases entry <;> simp [stands, bind, Except.bind]

/-- A file that is read is read again where the tree keeps the way to it: with what it holds then. -/
theorem Keeps.read (keeps : Keeps tree after) {bytes bytes' : List Nat}
    (holds : tree.read path = .ok bytes)
    (stands : after.get? (tree.placeOf path) = some (.file bytes')) :
    after.read path = .ok bytes' := by
  have same := placeOf_congr keeps.directory
  obtain ⟨⟨place, located⟩, _⟩ := read_eq_ok_iff.mp holds
  obtain ⟨usable, _, passes⟩ := locate_eq_ok_iff.mp located
  have located' : after.locate path = .ok (after.placeOf path) := by
    refine locate_eq_ok_iff.mpr ⟨usable, rfl, fun front begins proper => ?_⟩
    rw [same]
    exact keeps.directories (passes front begins proper)
  exact read_eq_ok_iff.mpr ⟨⟨_, located'⟩, by rwa [same]⟩

/-! ## Making directories -/

theorem makeDirectory_eq {place : Place} (located : tree.locate path = .ok place) :
    tree.makeDirectory path =
      if (tree.get? place).isSome then .error .exists else .ok (tree.put place .directory) := by
  simp only [makeDirectory, located, bind, Except.bind]
  cases tree.get? place <;> rfl

theorem makeDirectory_unlocated {problem : FileProblem}
    (located : tree.locate path = .error problem) :
    tree.makeDirectory path = .error problem := by
  simp only [makeDirectory, located, bind, Except.bind]

theorem ensureDirectory_isDirectory (success : tree.ensureDirectory path = (after, none)) :
    after.isDirectory path = true := by
  unfold ensureDirectory at success
  split at success
  · next made made' =>
    obtain rfl := congrArg Prod.fst success
    have keeps := (makeDirectory_changes made').keeps
    have same : made.directory = tree.directory := keeps.directory
    cases located : tree.locate path with
    | error problem => simp [makeDirectory_unlocated located] at made'
    | ok place =>
      obtain ⟨usable, rfl, passes⟩ := locate_eq_ok_iff.mp located
      rw [makeDirectory_eq located] at made'
      split at made'
      · contradiction
      · next vacant =>
        cases made'
        refine isDirectory_iff.mpr ⟨usable, ?_⟩
        rintro place ⟨front, begins, rfl⟩
        rw [placeOf_congr same]
        by_cases whole : front = path.names
        · subst whole
          refine get?_put_self ?_ tree _
          intro root
          rw [root] at vacant
          exact vacant rfl
        · exact keeps.directories (passes front begins whole)
  · next problem failed =>
    obtain ⟨rfl, isNone⟩ := Prod.mk.inj success
    split at isNone
    · assumption
    · contradiction

theorem ensureNames_isDirectory {slashes : Nat} {reversed : List String}
    (success : tree.ensureNames slashes reversed = (after, none)) :
    after.isDirectory { slashes := slashes, names := reversed.reverse } = true := by
  cases reversed with
  | nil => exact ensureDirectory_isDirectory success
  | cons name outer =>
    rw [ensureNames] at success
    split at success
    · split at success
      · exact ensureDirectory_isDirectory success
      · next failed =>
        -- The directories around it could not be made, so there is a problem.
        exact absurd success (failed after)
    · exact ensureDirectory_isDirectory success

theorem ensureDirectories_isDirectory (success : tree.ensureDirectories path = (after, none)) :
    after.isDirectory path = true := by
  have isDirectory := ensureNames_isDirectory success
  rwa [List.reverse_reverse] at isDirectory

/-- A directory can be made where the way to it is there and no file stands. -/
theorem ensureDirectory_succeeds {place : Place} (located : tree.locate path = .ok place)
    (free : ∀ bytes, tree.get? place ≠ some (.file bytes)) :
    (tree.ensureDirectory path).2 = none := by
  rw [ensureDirectory, makeDirectory_eq located]
  cases stands : tree.get? place with
  | none => rfl
  | some entry =>
    cases entry with
    | file bytes => exact absurd stands (free bytes)
    | directory =>
      have isDirectory : tree.isDirectory path = true := by
        simp [FileTree.isDirectory, find, located, stands, bind, Except.bind]
      simp [isDirectory]

theorem ensureNames_succeeds {slashes : Nat} {reversed : List String}
    (usable : Usable { slashes := slashes, names := reversed.reverse })
    (free : ∀ place, tree.OnTheWay { slashes := slashes, names := reversed.reverse } place →
      ∀ bytes, tree.get? place ≠ some (.file bytes)) :
    (tree.ensureNames slashes reversed).2 = none := by
  induction reversed with
  | nil =>
    have located : tree.locate { slashes := slashes, names := [] } =
        .ok (tree.placeOf { slashes := slashes, names := [] }) := locate_eq usable
    exact ensureDirectory_succeeds located (free _ ⟨[], List.prefix_rfl, rfl⟩)
  | cons name outer ih =>
    let path : Path := { slashes := slashes, names := (name :: outer).reverse }
    have begins : outer.reverse <+: path.names := by
      simp only [path, List.reverse_cons]
      exact List.prefix_append _ _
    have last : tree.OnTheWay path (tree.placeOf path) := ⟨path.names, List.prefix_rfl, rfl⟩
    have walked : tree.locate path = .ok (tree.placeOf path) ∨
        tree.locate path = .error .notFound := by
      rw [locate_eq usable]
      exact walk_free usable.named fun front within => free _ ⟨front, within, rfl⟩
    rw [ensureNames]
    rcases walked with located | missing
    · have ready := ensureDirectory_succeeds located (free _ last)
      split
      · next isMissing =>
        rw [makeDirectory_eq located] at isMissing
        split at isMissing <;> simp at isMissing
      · exact ready
    · have isMissing := makeDirectory_unlocated missing
      have first := ih (usable.front begins) fun place onTheWay => by
        obtain ⟨front, within, rfl⟩ := onTheWay
        exact free _ ⟨front, within.trans begins, rfl⟩
      have changes := ensureNames_changes tree slashes outer
      rw [isMissing]
      generalize whole : tree.ensureNames slashes outer = outcome at first changes
      obtain ⟨made, problem⟩ := outcome
      obtain rfl : problem = none := first
      have isDirectory := isDirectory_iff.mp (ensureNames_isDirectory whole)
      have located : made.locate path = .ok (made.placeOf path) := by
        refine locate_eq_ok_iff.mpr ⟨usable, rfl, fun front within proper => ?_⟩
        refine isDirectory.2 _ ⟨front, ?_, rfl⟩
        simp only [path, List.reverse_cons] at within proper
        exact (List.prefix_concat_iff.mp within).resolve_left proper
      refine ensureDirectory_succeeds located fun bytes => ?_
      rw [placeOf_congr changes.directory]
      rcases changes.entries (tree.placeOf path) with same | ⟨_, _, directory⟩ | written
      · rw [same]
        exact free _ last bytes
      · rw [directory]
        simp
      · contradiction

theorem ensureDirectories_succeeds_iff : (tree.ensureDirectories path).2 = none ↔
    Usable path ∧ ∀ place, tree.OnTheWay path place →
      ∀ bytes, tree.get? place ≠ some (.file bytes) := by
  have changes := ensureDirectories_changes tree path
  constructor
  · intro success
    have isDirectory := isDirectory_iff.mp
      (ensureDirectories_isDirectory (Prod.ext rfl success : tree.ensureDirectories path = (_, none)))
    refine ⟨isDirectory.1, fun place onTheWay bytes => ?_⟩
    rw [onTheWay_congr changes.directory] at isDirectory
    exact changes.keeps.not_file (isDirectory.2 place onTheWay) bytes
  · rintro ⟨usable, free⟩
    have reversed : path = { path with names := path.names.reverse.reverse } := by
      rw [List.reverse_reverse]
    exact ensureNames_succeeds (reversed ▸ usable) (reversed ▸ free)

/-! ## Writing files -/

/-- What the writing of one file needs, once the directories on the way are made. -/
theorem writeFile_succeeds_iff {text : String} : (tree.writeFile path text).2 = none ↔
    (∃ place, tree.locate path = .ok place) ∧ tree.get? (tree.placeOf path) ≠ some .directory := by
  unfold writeFile
  cases located : tree.locate path with
  | error problem => simp
  | ok place =>
    obtain rfl := locate_eq_ok located
    simp only [Except.ok.injEq, exists_eq', true_and]
    split
    · next directory => simp [directory]
    · next free => simpa using free

theorem writeFile_eq {text : String} (success : tree.writeFile path text = (after, none)) :
    after = tree.put (tree.placeOf path) (.file (bytesOf text)) := by
  unfold writeFile at success
  cases located : tree.locate path with
  | error problem => simp [located] at success
  | ok place =>
    obtain rfl := locate_eq_ok located
    simp only [located] at success
    split at success
    · simp at success
    · exact (congrArg Prod.fst success).symm

theorem writeFile_keeps (tree : FileTree) (path : Path) (text : String) :
    Keeps tree (tree.writeFile path text).1 := by
  unfold writeFile
  cases located : tree.locate path with
  | error problem => exact .refl tree
  | ok place =>
    simp only
    split
    · exact .refl tree
    · next free => exact put_file_keeps free _

/-- A file is written as one step after that for its directories. -/
theorem writeBelow_eq (tree : FileTree) (path : Path) (text : String) :
    tree.writeBelow path text =
      andThen (tree.ensureDirectories path.parent) fun made => made.writeFile path text := rfl

theorem andThen_eq_ok {outcome : Changed} {step : FileTree → Changed} :
    andThen outcome step = (after, none) ↔
      ∃ between, outcome = (between, none) ∧ step between = (after, none) := by
  obtain ⟨made, problem⟩ := outcome
  cases problem <;> simp [andThen]

theorem andThen_keeps {outcome : Changed} {step : FileTree → Changed}
    (begins : Keeps tree outcome.1) (goesOn : ∀ between, Keeps between (step between).1) :
    Keeps tree (andThen outcome step).1 := by
  obtain ⟨between, problem⟩ := outcome
  cases problem with
  | none => exact begins.trans (goesOn between)
  | some error => exact begins

theorem writeBelow_keeps (tree : FileTree) (path : Path) (text : String) :
    Keeps tree (tree.writeBelow path text).1 :=
  andThen_keeps (ensureDirectories_changes tree path.parent).keeps
    fun between => writeFile_keeps between path text

theorem writeAll_cons (path : Path) (text : String) (files : List (Path × String))
    (tree : FileTree) :
    writeAll ((path, text) :: files) tree = andThen (tree.writeBelow path text) (writeAll files) :=
  rfl

/-- A file that cannot be written stays as it is; directories may have been made on the way to it. -/
theorem writeBelow_failed {text : String} {error : FileError}
    (failed : tree.writeBelow path text = (after, some error)) :
    Changes (tree.OnTheWay path.parent) (fun _ => False) tree after := by
  have way := ensureDirectories_changes tree path.parent
  rw [writeBelow_eq] at failed
  generalize tree.ensureDirectories path.parent = outcome at failed way
  obtain ⟨between, problem⟩ := outcome
  cases problem with
  | some error' =>
    obtain rfl : between = after := congrArg Prod.fst failed
    exact way
  | none =>
    have unwritten : between.writeFile path text = (after, some error) := failed
    unfold writeFile at unwritten
    split at unwritten
    · obtain rfl : between = after := congrArg Prod.fst unwritten
      exact way
    · split at unwritten
      · obtain rfl : between = after := congrArg Prod.fst unwritten
        exact way
      · simp at unwritten

theorem writeAll_keeps (files : List (Path × String)) (tree : FileTree) :
    Keeps tree (writeAll files tree).1 := by
  induction files generalizing tree with
  | nil => exact .refl tree
  | cons file files ih => exact andThen_keeps (writeBelow_keeps tree file.1 file.2) ih

/-- What a single file leaves: directories on the way to it, its text, and all else as it was. -/
structure Stands (tree : FileTree) (path : Path) (text : String) (after : FileTree) : Prop where
  usable : Usable path
  directory : after.directory = tree.directory
  made (place : Place) (onTheWay : tree.OnTheWay path.parent place) :
    after.get? place = some .directory
  written : after.get? (tree.placeOf path) = some (.file (bytesOf text))
  kept (place : Place) (apart : place ≠ tree.placeOf path) :
    after.get? place = tree.get? place ∨ tree.OnTheWay path.parent place

theorem writeBelow_stands {text : String} (success : tree.writeBelow path text = (after, none)) :
    Stands tree path text after := by
  have bounded := writeBelow_bounded tree path text
  rw [success] at bounded
  rw [writeBelow_eq, andThen_eq_ok] at success
  obtain ⟨between, isMade, written⟩ := success
  have way := (ensureDirectories_changes tree path.parent).directory
  rw [isMade] at way
  have isDirectory := (isDirectory_iff.mp (ensureDirectories_isDirectory isMade)).2
  rw [onTheWay_congr way] at isDirectory
  have possible := writeFile_succeeds_iff.mp (congrArg Prod.snd written)
  obtain ⟨place, located⟩ := possible.1
  have keeps := writeFile_keeps between path text
  rw [written] at keeps
  obtain rfl := writeFile_eq written
  rw [placeOf_congr way] at possible keeps bounded ⊢
  refine ⟨(locate_eq_ok_iff.mp located).1, way, fun place onTheWay => ?_,
    get?_put_self ?_ between _, fun place apart => ?_⟩
  · exact keeps.directories (isDirectory place onTheWay)
  · intro root
    exact possible.2 (by rw [root]; rfl)
  · rcases bounded.entries place with unchanged | ⟨onTheWay, _⟩ | isTarget
    · exact .inl unchanged
    · exact .inr onTheWay
    · exact absurd isTarget apart

/-- A file is written, or it stays as it is. -/
theorem writeBelow_outcome (tree : FileTree) (path : Path) (text : String) :
    Stands tree path text (tree.writeBelow path text).1 ∨
      Changes (tree.OnTheWay path.parent) (fun _ => False) tree (tree.writeBelow path text).1 := by
  cases written : tree.writeBelow path text with
  | mk after problem =>
    cases problem with
    | none => exact .inl (writeBelow_stands written)
    | some error => exact .inr (writeBelow_failed written)

theorem writeBelow_succeeds (usable : Usable path)
    (way : ∀ place, tree.OnTheWay path.parent place →
      (∀ bytes, tree.get? place ≠ some (.file bytes)) ∧ place ≠ tree.placeOf path)
    (free : tree.get? (tree.placeOf path) ≠ some .directory) (text : String) :
    (tree.writeBelow path text).2 = none := by
  have ready : (tree.ensureDirectories path.parent).2 = none :=
    ensureDirectories_succeeds_iff.mpr ⟨usable.parent, fun place onTheWay => (way place onTheWay).1⟩
  have changes := ensureDirectories_changes tree path.parent
  rw [writeBelow_eq]
  generalize isMade : tree.ensureDirectories path.parent = outcome at ready changes
  obtain ⟨between, problem⟩ := outcome
  obtain rfl : problem = none := ready
  have same := placeOf_congr changes.directory path
  have isDirectory := (isDirectory_iff.mp (ensureDirectories_isDirectory isMade)).2
  refine writeFile_succeeds_iff.mpr ⟨⟨_, locate_eq_ok_iff.mpr ⟨usable, rfl, ?_⟩⟩, ?_⟩
  · intro front begins proper
    refine isDirectory _ ⟨front, ?_, rfl⟩
    rcases List.eq_nil_or_concat path.names with none | ⟨outer, last, names⟩
    · rw [none] at begins proper
      exact absurd (List.prefix_nil.mp begins) proper
    · rw [names, List.concat_eq_append] at begins proper
      simp only [Path.parent, names, List.concat_eq_append, List.dropLast_concat]
      exact (List.prefix_concat_iff.mp begins).resolve_left proper
  · rw [same]
    rcases changes.entries (tree.placeOf path) with unchanged | ⟨onTheWay, _⟩ | impossible
    · rwa [unchanged]
    · exact absurd rfl (way _ onTheWay).2
    · contradiction

/-! ## Several files -/

/-- Files that can all be written: their paths can be followed, on the way to them there is no file and
none of them is put there, and no directory stands where they go. -/
structure Fits (tree : FileTree) (files : List (Path × String)) : Prop where
  usable : ∀ file ∈ files, Usable file.1
  way : ∀ file ∈ files, ∀ place, tree.OnTheWay file.1.parent place →
    (∀ bytes, tree.get? place ≠ some (.file bytes)) ∧ ∀ other ∈ files, place ≠ tree.placeOf other.1
  free : ∀ file ∈ files, tree.get? (tree.placeOf file.1) ≠ some .directory

theorem writeAll_stands {files : List (Path × String)}
    (success : writeAll files tree = (after, none)) :
    ∀ file ∈ files, Usable file.1 ∧
      (∀ place, tree.OnTheWay file.1.parent place → after.get? place = some .directory) ∧
      ∃ bytes, after.get? (tree.placeOf file.1) = some (.file bytes) := by
  induction files generalizing tree with
  | nil => exact List.forall_mem_nil _
  | cons file files ih =>
    rw [writeAll_cons, andThen_eq_ok] at success
    obtain ⟨between, first, rest⟩ := success
    have stands := writeBelow_stands first
    have keeps := writeAll_keeps files between
    rw [rest] at keeps
    refine List.forall_mem_cons.mpr
      ⟨⟨stands.usable, fun place onTheWay => ?_, ?_⟩, fun other member => ?_⟩
    · exact keeps.directories (stands.made place onTheWay)
    · exact keeps.files stands.written
    · have later := ih rest other member
      rwa [onTheWay_congr stands.directory, placeOf_congr stands.directory] at later

theorem Fits.cons {path : Path} {text : String} {files : List (Path × String)}
    (fits : Fits tree ((path, text) :: files)) (stands : Stands tree path text between) :
    Fits between files where
  usable file member := fits.usable file (List.mem_cons_of_mem _ member)
  way file member place onTheWay := by
    rw [onTheWay_congr stands.directory] at onTheWay
    obtain ⟨noFile, noTarget⟩ := fits.way file (List.mem_cons_of_mem _ member) place onTheWay
    refine ⟨fun bytes => ?_, fun other among => ?_⟩
    · rcases stands.kept place (noTarget _ List.mem_cons_self) with same | made
      · rw [same]
        exact noFile bytes
      · rw [stands.made place made]
        simp
    · rw [placeOf_congr stands.directory]
      exact noTarget other (List.mem_cons_of_mem _ among)
  free file member := by
    rw [placeOf_congr stands.directory]
    by_cases apart : tree.placeOf file.1 = tree.placeOf path
    · rw [apart, stands.written]
      simp
    · rcases stands.kept _ apart with same | onTheWay
      · rw [same]
        exact fits.free file (List.mem_cons_of_mem _ member)
      · have noTarget := (fits.way _ List.mem_cons_self _ onTheWay).2
        exact absurd rfl (noTarget file (List.mem_cons_of_mem _ member))

/-- Files can be written one after the other exactly if they fit, in whatever order. -/
theorem writeAll_succeeds_iff {files : List (Path × String)} :
    (writeAll files tree).2 = none ↔ Fits tree files := by
  constructor
  · intro success
    have stands := writeAll_stands (Prod.ext rfl success : writeAll files tree = (_, none))
    have keeps := writeAll_keeps files tree
    refine ⟨fun file member => (stands file member).1, fun file member place onTheWay => ?_,
      fun file member => ?_⟩
    · have directory := (stands file member).2.1 place onTheWay
      refine ⟨keeps.not_file directory, ?_⟩
      rintro other among rfl
      obtain ⟨bytes, isFile⟩ := (stands other among).2.2
      rw [directory] at isFile
      simp at isFile
    · obtain ⟨bytes, isFile⟩ := (stands file member).2.2
      exact keeps.not_directory isFile
  · intro fits
    induction files generalizing tree with
    | nil => rfl
    | cons file files ih =>
      obtain ⟨path, text⟩ := file
      have first := writeBelow_succeeds (fits.usable _ List.mem_cons_self)
        (fun place onTheWay =>
          (fits.way _ List.mem_cons_self place onTheWay).imp_right fun apart =>
            apart _ List.mem_cons_self)
        (fits.free _ List.mem_cons_self) text
      rw [writeAll_cons]
      generalize written : tree.writeBelow path text = outcome at first
      obtain ⟨between, problem⟩ := outcome
      obtain rfl : problem = none := first
      exact ih (fits.cons (writeBelow_stands written))

/-- A tree with files written: each holds its text, the directories on the way to them are there, and
nothing else is other than before. -/
structure Updates (tree : FileTree) (files : List (Path × String)) (after : FileTree) : Prop where
  directory : after.directory = tree.directory
  written : ∀ file ∈ files, after.get? (tree.placeOf file.1) = some (.file (bytesOf file.2))
  made : ∀ file ∈ files, ∀ place, tree.OnTheWay file.1.parent place →
    after.get? place = some .directory ∧ ∀ bytes, tree.get? place ≠ some (.file bytes)
  kept (place : Place) : (∀ file ∈ files, place ≠ tree.placeOf file.1 ∧
    ¬ tree.OnTheWay file.1.parent place) → after.get? place = tree.get? place

/-- Files that go to one place have one text. -/
def Consistent (tree : FileTree) (files : List (Path × String)) : Prop :=
  ∀ file ∈ files, ∀ other ∈ files, tree.placeOf file.1 = tree.placeOf other.1 → file.2 = other.2

theorem writeAll_updates {files : List (Path × String)} (consistent : tree.Consistent files)
    (success : writeAll files tree = (after, none)) : Updates tree files after := by
  have way := (writeAll_succeeds_iff.mp (congrArg Prod.snd success)).way
  induction files generalizing tree with
  | nil =>
    obtain rfl := congrArg Prod.fst success
    exact ⟨rfl, List.forall_mem_nil _, List.forall_mem_nil _, fun _ _ => rfl⟩
  | cons file files ih =>
    have stood := writeAll_stands success
    have keeps := writeAll_keeps (file :: files) tree
    rw [success] at keeps
    rw [writeAll_cons, andThen_eq_ok] at success
    obtain ⟨between, first, rest⟩ := success
    have stands := writeBelow_stands first
    have same := stands.directory
    have later : Updates between files after := by
      refine ih ?_ rest (writeAll_succeeds_iff.mp (congrArg Prod.snd rest)).way
      intro one member other member' onePlace
      simp only [placeOf_congr same] at onePlace
      exact consistent one (List.mem_cons_of_mem _ member) other (List.mem_cons_of_mem _ member')
        onePlace
    have written := later.written
    have kept := later.kept
    simp only [placeOf_congr same, onTheWay_congr same] at written kept
    refine ⟨keeps.directory, List.forall_mem_cons.mpr ⟨?_, written⟩, fun other member place onTheWay =>
      ?_, fun place apart => ?_⟩
    · -- A later file at the same place has the same text; otherwise nothing comes there any more.
      by_cases again : ∃ other ∈ files, tree.placeOf file.1 = tree.placeOf other.1
      · obtain ⟨other, member, onePlace⟩ := again
        rw [onePlace, written other member, consistent file List.mem_cons_self other
          (List.mem_cons_of_mem _ member) onePlace]
      · refine (kept _ fun other member => ⟨fun onePlace => again ⟨other, member, onePlace⟩, ?_⟩).trans
          stands.written
        intro onTheWay
        exact (way other (List.mem_cons_of_mem _ member) _ onTheWay).2 file List.mem_cons_self rfl
    · exact ⟨(stood other member).2.1 place onTheWay, (way other member place onTheWay).1⟩
    · obtain ⟨fromFirst, fromOthers⟩ := List.forall_mem_cons.mp apart
      exact (kept place fromOthers).trans ((stands.kept place fromFirst.1).resolve_right fromFirst.2)

/-! ## The order does not matter -/

/-- Trees with directories and files at the same places; files may hold different bytes. -/
structure SameShape (tree other : FileTree) : Prop where
  directory : other.directory = tree.directory
  directories (place : Place) : other.get? place = some .directory ↔ tree.get? place = some .directory
  files (place : Place) : (∃ bytes, other.get? place = some (.file bytes)) ↔
    ∃ bytes, tree.get? place = some (.file bytes)

theorem SameShape.refl (tree : FileTree) : SameShape tree tree := ⟨rfl, fun _ => .rfl, fun _ => .rfl⟩

variable {other final : FileTree} {files files' : List (Path × String)}

theorem Fits.reordered (fits : Fits tree files) (shape : SameShape tree other)
    (members : ∀ file, file ∈ files' ↔ file ∈ files) : Fits other files' where
  usable file member := fits.usable file ((members file).mp member)
  way file member place onTheWay := by
    rw [onTheWay_congr shape.directory] at onTheWay
    obtain ⟨noFile, apart⟩ := fits.way file ((members file).mp member) place onTheWay
    refine ⟨fun bytes isFile => ?_, fun target member' => ?_⟩
    · obtain ⟨bytes', isFile'⟩ := (shape.files place).mp ⟨bytes, isFile⟩
      exact noFile bytes' isFile'
    · rw [placeOf_congr shape.directory]
      exact apart target ((members target).mp member')
  free file member isDirectory := by
    rw [placeOf_congr shape.directory] at isDirectory
    exact fits.free file ((members file).mp member) ((shape.directories _).mp isDirectory)

/-- Two trees with the same files written agree at each place, or each has there what it had. -/
theorem Updates.agree (updates : Updates tree files after) (updates' : Updates other files' final)
    (same : other.directory = tree.directory) (members : ∀ file, file ∈ files' ↔ file ∈ files)
    (place : Place) : final.get? place = after.get? place ∨
      after.get? place = tree.get? place ∧ final.get? place = other.get? place := by
  have written' := updates'.written
  have made' := updates'.made
  have kept' := updates'.kept
  simp only [placeOf_congr same, onTheWay_congr same, members] at written' made' kept'
  by_cases touched : ∃ file ∈ files, place = tree.placeOf file.1 ∨ tree.OnTheWay file.1.parent place
  · obtain ⟨file, member, rfl | onTheWay⟩ := touched
    · exact .inl ((written' file member).trans (updates.written file member).symm)
    · exact .inl ((made' file member place onTheWay).1.trans
        (updates.made file member place onTheWay).1.symm)
  · have apart : ∀ file ∈ files, place ≠ tree.placeOf file.1 ∧ ¬ tree.OnTheWay file.1.parent place :=
      fun file member => not_or.mp fun touches => touched ⟨file, member, touches⟩
    exact .inr ⟨updates.kept place apart, kept' place apart⟩

end Blueprint.FileTree
