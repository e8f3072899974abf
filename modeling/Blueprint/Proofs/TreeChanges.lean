import Blueprint.Files.Tree

/-!
What steps on a file tree change. `Changes` bounds a step by the places where it may make directories
and those that it may write; the steps are bounded one by one, up to the writing of several files
below a directory, which changes nothing but what is below it and the way to it.
-/
set_option autoImplicit false

namespace Blueprint.FileTree

variable {tree between after : FileTree}

/-! ## Places -/

/-- The place that names lead to from another one, where all of them can be followed. -/
def follow (here : Place) (names : List String) : Place :=
  names.foldl (fun passed name => if name == ".." then passed.dropLast else passed ++ [name]) here

/-- The place of a path, where it can be followed. -/
def placeOf (tree : FileTree) (path : Path) : Place :=
  follow (if path.isAbsolute then [] else tree.directory.names) path.names

theorem follow_append (here : Place) (names more : List String) :
    follow here (names ++ more) = follow (follow here names) more :=
  List.foldl_append

theorem follow_inward {names : List String} (inward : ∀ name ∈ names, name ≠ "..") (here : Place) :
    follow here names = here ++ names := by
  induction names generalizing here with
  | nil => simp [follow]
  | cons name names ih =>
    obtain ⟨first, others⟩ := List.forall_mem_cons.mp inward
    have later := ih others (here ++ [name])
    simp only [follow, List.foldl_cons, beq_iff_eq, if_neg first] at later ⊢
    rw [later, List.append_assoc]
    rfl

theorem walk_eq_ok {here place : Place} {names : List String}
    (walked : tree.walk here names = .ok place) : place = follow here names := by
  induction names generalizing here with
  | nil =>
    simp only [walk, Except.ok.injEq] at walked
    exact walked.symm
  | cons name names ih =>
    rw [walk] at walked
    split at walked
    · contradiction
    · contradiction
    · split at walked
      · contradiction
      · rw [follow, List.foldl_cons]
        split at walked
        · next back =>
          rw [if_pos back]
          exact ih walked
        · next inward =>
          rw [if_neg inward]
          exact ih walked

theorem locate_eq_ok {path : Path} {place : Place} (located : tree.locate path = .ok place) :
    place = tree.placeOf path := by
  unfold locate at located
  split at located
  · contradiction
  · split at located
    · contradiction
    · exact walk_eq_ok located

theorem placeOf_congr (same : after.directory = tree.directory) (path : Path) :
    after.placeOf path = tree.placeOf path := by
  rw [placeOf, same]
  rfl

/-! ## Single entries -/

theorem get?_put_other {place other : Place} (differs : other ≠ place) (tree : FileTree)
    (entry : Entry) : (tree.put place entry).get? other = tree.get? other := by
  have apart : (other == place) = false := beq_eq_false_iff_ne.mpr differs
  have kept (entries : List (Place × Entry)) :
      (set place entry entries).lookup other = entries.lookup other := by
    induction entries with
    | nil => simp [set, List.lookup_cons, apart]
    | cons first entries ih =>
      obtain ⟨key, old⟩ := first
      by_cases same : key = place
      · subst same
        simp [set, List.lookup_cons, apart]
      · simp only [set, beq_iff_eq, if_neg same, List.lookup_cons, ih]
  unfold get? put
  rw [kept]

theorem get?_put_self {place : Place} (below : place ≠ []) (tree : FileTree) (entry : Entry) :
    (tree.put place entry).get? place = some entry := by
  have put (entries : List (Place × Entry)) :
      (set place entry entries).lookup place = some entry := by
    induction entries with
    | nil => simp [set]
    | cons first entries ih =>
      obtain ⟨key, old⟩ := first
      by_cases same : key = place
      · simp [set, same]
      · have apart : (place == key) = false := beq_eq_false_iff_ne.mpr (Ne.symm same)
        simp only [set, beq_iff_eq, if_neg same, List.lookup_cons, apart, ih]
  rw [get?, if_neg (by simpa using below)]
  exact put tree.entries

/-! ## Bounds -/

/-- A step leaves all entries but those at some places, where it makes a directory if nothing is
there, and at others, where it may do anything. -/
structure Changes (made written : Place → Prop) (tree after : FileTree) : Prop where
  directory : after.directory = tree.directory
  entries (place : Place) : after.get? place = tree.get? place ∨
    (made place ∧ tree.get? place = none ∧ after.get? place = some .directory) ∨ written place

namespace Changes

variable {made written made' written' : Place → Prop}

theorem refl (tree : FileTree) : Changes made written tree tree :=
  ⟨rfl, fun _ => .inl rfl⟩

theorem trans (first : Changes made written tree between)
    (second : Changes made written between after) : Changes made written tree after where
  directory := second.directory.trans first.directory
  entries place := by
    rcases first.entries place with same | ⟨isMade, none, directory⟩ | isWritten
    · rw [← same]
      exact second.entries place
    · rcases second.entries place with same' | ⟨_, none', _⟩ | isWritten
      · exact .inr (.inl ⟨isMade, none, same'.trans directory⟩)
      · rw [directory] at none'
        contradiction
      · exact .inr (.inr isWritten)
    · exact .inr (.inr isWritten)

theorem mono (changes : Changes made written tree after)
    (makes : ∀ place, made place → made' place ∨ written' place)
    (writes : ∀ place, written place → written' place) : Changes made' written' tree after where
  directory := changes.directory
  entries place := by
    rcases changes.entries place with same | ⟨isMade, none, directory⟩ | isWritten
    · exact .inl same
    · rcases makes place isMade with isMade' | isWritten'
      · exact .inr (.inl ⟨isMade', none, directory⟩)
      · exact .inr (.inr isWritten')
    · exact .inr (.inr (writes place isWritten))

end Changes

/-- What comes of one more step, unless there is a problem already. -/
def andThen (outcome : Changed) (step : FileTree → Changed) : Changed :=
  match outcome with
  | (made, none) => step made
  | failed => failed

theorem andThen_done (outcome : Changed) : andThen outcome (fun tree => (tree, none)) = outcome := by
  obtain ⟨made, problem⟩ := outcome
  cases problem <;> rfl

theorem andThen_changes {made written : Place → Prop} {outcome : Changed}
    {step : FileTree → Changed} (begins : Changes made written tree outcome.1)
    (goesOn : ∀ between : FileTree, between.directory = tree.directory →
      Changes made written between (step between).1) :
    Changes made written tree (andThen outcome step).1 := by
  obtain ⟨between, problem⟩ := outcome
  cases problem with
  | none => exact begins.trans (goesOn between begins.directory)
  | some error => exact begins

/-! ## Making directories -/

theorem makeDirectory_changes {path : Path} {made : FileTree}
    (success : tree.makeDirectory path = .ok made) :
    Changes (fun place => place = tree.placeOf path) (fun _ => False) tree made := by
  unfold makeDirectory at success
  cases located : tree.locate path with
  | error problem => simp [located, bind, Except.bind] at success
  | ok place =>
    obtain rfl := locate_eq_ok located
    simp only [located, bind, Except.bind] at success
    split at success
    · contradiction
    · next none =>
      cases success
      have below : tree.placeOf path ≠ [] := by
        intro root
        simp [root, get?] at none
      refine ⟨rfl, fun place => ?_⟩
      by_cases same : place = tree.placeOf path
      · rw [same]
        exact .inr (.inl ⟨rfl, none, get?_put_self below tree _⟩)
      · exact .inl (get?_put_other same tree _)

theorem ensureDirectory_changes (tree : FileTree) (path : Path) :
    Changes (fun place => place = tree.placeOf path) (fun _ => False) tree
      (tree.ensureDirectory path).1 := by
  unfold ensureDirectory
  cases made : tree.makeDirectory path with
  | ok made' => exact makeDirectory_changes made
  | error problem => exact .refl tree

/-- A place on the way to that of a path, or that place itself. -/
def OnTheWay (tree : FileTree) (path : Path) (place : Place) : Prop :=
  ∃ front, front <+: path.names ∧ place = tree.placeOf { path with names := front }

theorem onTheWay_congr (same : after.directory = tree.directory) (path : Path) :
    after.OnTheWay path = tree.OnTheWay path := by
  unfold OnTheWay
  simp only [placeOf_congr same]

theorem ensureNames_changes (tree : FileTree) (slashes : Nat) (reversed : List String) :
    Changes (tree.OnTheWay { slashes := slashes, names := reversed.reverse }) (fun _ => False) tree
      (tree.ensureNames slashes reversed).1 := by
  induction reversed with
  | nil =>
    refine (ensureDirectory_changes tree _).mono (fun place isMade => ?_) fun _ => id
    exact .inl ⟨[], List.prefix_rfl, isMade⟩
  | cons name outer ih =>
    let path : Path := { slashes := slashes, names := (name :: outer).reverse }
    have last {tree : FileTree} : Changes (tree.OnTheWay path) (fun _ => False) tree
        (tree.ensureDirectory path).1 :=
      (ensureDirectory_changes tree path).mono
        (fun place isMade => .inl ⟨_, List.prefix_rfl, isMade⟩) fun _ => id
    have first : Changes (tree.OnTheWay path) (fun _ => False) tree
        (tree.ensureNames slashes outer).1 := by
      refine ih.mono (fun place onTheWay => ?_) fun _ => id
      obtain ⟨front, begins, same⟩ := onTheWay
      refine .inl ⟨front, begins.trans ?_, same⟩
      simp only [path, List.reverse_cons]
      exact List.prefix_append _ _
    rw [ensureNames]
    split
    · refine andThen_changes first fun between same => ?_
      rw [← onTheWay_congr same]
      exact last
    · exact last

theorem ensureDirectories_changes (tree : FileTree) (path : Path) :
    Changes (tree.OnTheWay path) (fun _ => False) tree (tree.ensureDirectories path).1 := by
  have changes := ensureNames_changes tree path.slashes path.names.reverse
  rwa [List.reverse_reverse] at changes

/-! ## Writing files -/

theorem writeFile_changes (tree : FileTree) (path : Path) (text : String) :
    Changes (fun _ => False) (fun place => place = tree.placeOf path) tree
      (tree.writeFile path text).1 := by
  unfold writeFile
  cases located : tree.locate path with
  | error problem => exact .refl tree
  | ok place =>
    obtain rfl := locate_eq_ok located
    simp only
    split
    · exact .refl tree
    · refine ⟨rfl, fun place => ?_⟩
      by_cases same : place = tree.placeOf path
      · exact .inr (.inr same)
      · exact .inl (get?_put_other same tree _)

/-- All that the writing of a file can change, whether it succeeds or not. -/
theorem writeBelow_bounded (tree : FileTree) (path : Path) (text : String) :
    Changes (tree.OnTheWay path.parent) (fun place => place = tree.placeOf path) tree
      (tree.writeBelow path text).1 := by
  have way := ensureDirectories_changes tree path.parent
  refine andThen_changes (way.mono (fun _ => .inl) fun _ => False.elim) fun between same => ?_
  rw [← placeOf_congr same]
  exact (writeFile_changes between path text).mono (fun _ => False.elim) fun _ => id

/-- Writes files one after the other, with the directories for them, up to the first that fails. -/
def writeAll : List (Path × String) → FileTree → Changed
  | [], tree => (tree, none)
  | (path, text) :: files, tree =>
    match tree.writeBelow path text with
    | (made, none) => writeAll files made
    | failed => failed

theorem writeAll_append (files more : List (Path × String)) (tree : FileTree) :
    writeAll (files ++ more) tree = andThen (writeAll files tree) (writeAll more) := by
  induction files generalizing tree with
  | nil => rfl
  | cons file files ih =>
    obtain ⟨path, text⟩ := file
    rw [List.cons_append, writeAll, writeAll]
    generalize tree.writeBelow path text = outcome
    obtain ⟨made, problem⟩ := outcome
    cases problem with
    | none => exact ih made
    | some error => rfl

theorem writeAll_bounded (files : List (Path × String)) (tree : FileTree) :
    Changes (fun place => ∃ file ∈ files, tree.OnTheWay file.1.parent place)
      (fun place => ∃ file ∈ files, place = tree.placeOf file.1) tree (writeAll files tree).1 := by
  induction files generalizing tree with
  | nil => exact .refl tree
  | cons file files ih =>
    refine andThen_changes ((writeBelow_bounded tree file.1 file.2).mono
      (fun place onTheWay => .inl ⟨file, List.mem_cons_self, onTheWay⟩)
      fun place isTarget => ⟨file, List.mem_cons_self, isTarget⟩) fun between same => ?_
    refine (ih between).mono ?_ ?_
    · rintro place ⟨other, member, onTheWay⟩
      rw [onTheWay_congr same] at onTheWay
      exact .inl ⟨other, List.mem_cons_of_mem _ member, onTheWay⟩
    · rintro place ⟨other, member, rfl⟩
      exact ⟨other, List.mem_cons_of_mem _ member, placeOf_congr same _⟩

/-! ## Writing below a directory -/

/-- A place that is reached from that of a directory by one name at least. -/
def Below (tree : FileTree) (directory : Path) (place : Place) : Prop :=
  ∃ names, names ≠ [] ∧ place = tree.placeOf directory ++ names

/-- Names that lead down from a directory lead below it, and the way to there to it or below it. -/
theorem below_of_inward {names : List String} (inward : ∀ name ∈ names, name ≠ "..")
    (tree : FileTree) (directory : Path) :
    tree.placeOf { directory with names := directory.names ++ names } =
      tree.placeOf directory ++ names := by
  rw [placeOf, follow_append, follow_inward inward]
  rfl

theorem onTheWay_below {directory : Path} {relative : String}
    (inward : ∀ name ∈ Path.namesOf relative, name ≠ "..") (some : Path.namesOf relative ≠ [])
    {place : Place} (onTheWay : tree.OnTheWay (directory.below relative).parent place) :
    tree.OnTheWay directory place ∨ tree.Below directory place := by
  obtain ⟨front, begins, rfl⟩ := onTheWay
  simp only [Path.below, Path.parent, List.dropLast_append_of_ne_nil some] at begins ⊢
  rcases List.prefix_or_prefix_of_prefix begins (List.prefix_append directory.names _) with
    within | ⟨names, rfl⟩
  · exact .inl ⟨front, within, rfl⟩
  · have down : ∀ name ∈ names, name ≠ ".." := by
      intro name member
      have inside := (List.prefix_append_right_inj directory.names).mp begins
      exact inward name (List.dropLast_subset _ (inside.subset member))
    cases names with
    | nil => exact .inl ⟨directory.names, List.prefix_rfl, by rw [List.append_nil]⟩
    | cons name names =>
      exact .inr ⟨name :: names, List.cons_ne_nil _ _, below_of_inward down tree directory⟩

/-- Files whose names lead down change nothing but the way to their directory and what is below. -/
theorem writeAll_changes (directory : Path) {files : List (String × String)}
    (inward : ∀ file ∈ files, (∀ name ∈ Path.namesOf file.1, name ≠ "..") ∧ Path.namesOf file.1 ≠ [])
    (tree : FileTree) :
    Changes (tree.OnTheWay directory) (tree.Below directory) tree
      (writeAll (files.map fun file => (directory.below file.1, file.2)) tree).1 := by
  refine (writeAll_bounded _ tree).mono ?_ ?_
  · rintro place ⟨_, member, onTheWay⟩
    obtain ⟨file, isFile, rfl⟩ := List.mem_map.mp member
    exact onTheWay_below (inward file isFile).1 (inward file isFile).2 onTheWay
  · rintro place ⟨_, member, rfl⟩
    obtain ⟨file, isFile, rfl⟩ := List.mem_map.mp member
    exact ⟨_, (inward file isFile).2, below_of_inward (inward file isFile).1 tree directory⟩

end Blueprint.FileTree
