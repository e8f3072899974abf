import Blueprint.Generate
import Blueprint.Proofs.FieldLaws
import Blueprint.Proofs.Segments
import Blueprint.Proofs.Validity

/-!
Where generated files are put. Each platform files the models in one directory and the screens in
another, and has a place for the client, for the application itself, and perhaps for an index among
the models. All segments of these places lead down, so no file leaves the directory that it is
written below; and no two files share a place, unless a model is named like the index.
-/
set_option autoImplicit false

namespace Blueprint

open Text Sources

theorem replaceChar_append (c : Char) (replacement front rest : String) :
    replaceChar c replacement (front ++ rest) =
      replaceChar c replacement front ++ replaceChar c replacement rest := by
  simp [replaceChar, String.ofList_append]

theorem replaceChar_free {c : Char} {text : String} (free : c ∉ text.toList)
    (replacement : String) : replaceChar c replacement text = text := by
  have same : ∀ d ∈ text.toList, (if d == c then replacement.toList else [d]) = [d] := by
    intro d member
    rw [if_neg]
    rintro isChar
    exact free (beq_iff_eq.mp isChar ▸ member)
  rw [replaceChar, List.flatMap_congr same, List.flatMap_singleton', String.ofList_toList]

/-- How a platform files its sources: the directories of models and screens with what is added to a
name in them, and the segments of the places of the other files. -/
structure Filing where
  models : List String
  modelEnding : String
  index : Option String := none
  screens : List String
  screenEnding : String
  client : List String
  main : List String

namespace Filing

variable (filing : Filing) (app : Application)

def modelPlace (name : String) : List String := filing.models ++ [name ++ filing.modelEnding]

def screenPlace (name : String) : List String := filing.screens ++ [name ++ filing.screenEnding]

def indexPlaces : List (List String) := filing.index.toList.map fun name => filing.models ++ [name]

/-- The places of the models of an application. -/
def modelPlaces : List (List String) := app.models.map fun model => filing.modelPlace model.name

/-- The places of the other files that belong to an application, apart from the index. -/
def otherPlaces : List (List String) :=
  app.screens.map (fun screen => filing.screenPlace screen.name)
    ++ app.api.toList.map (fun _ => filing.client) ++ [filing.main]

/-- The places of all files, in the order in which they are generated. -/
def places : List (List String) :=
  filing.modelPlaces app ++ filing.indexPlaces ++ filing.otherPlaces app

end Filing

namespace Application

/-- The directories of an application's package for Android. -/
def packageSegments (app : Application) : List String :=
  ["app", "src", "main", "java", "com", lower app.name]

def filing (app : Application) : Platform → Filing
  | .web => {
      models := ["src", "models"]
      modelEnding := ".ts"
      index := some "index.ts"
      screens := ["src", "screens"]
      screenEnding := "Screen.tsx"
      client := ["src", "api", "client.ts"]
      main := ["src", "App.tsx"] }
  | .ios => {
      models := ["Models"]
      modelEnding := ".swift"
      screens := ["Screens"]
      screenEnding := "View.swift"
      client := ["Networking", "APIClient.swift"]
      main := ["App", app.name ++ "App.swift"] }
  | .android => {
      models := app.packageSegments ++ ["models"]
      modelEnding := ".kt"
      screens := app.packageSegments ++ ["ui", "screens"]
      screenEnding := "Screen.kt"
      client := app.packageSegments ++ ["network", "ApiClient.kt"]
      main := app.packageSegments ++ [app.name ++ "Application.kt"] }

/-- The file of a model: its path and its text. -/
def modelFile (app : Application) : Platform → Model → String × String
  | .web, model => (Web.modelPath model, Web.modelText model)
  | .ios, model => (Ios.modelPath model, Ios.modelText model)
  | .android, model =>
    let package := Android.packageName app
    (Android.modelPath (Android.packageDirectory package) model, Android.modelText package model)

/-- The generated files with their texts, in order. -/
def entries (app : Application) : Platform → List (String × String)
  | .web => Web.entries app
  | .ios => Ios.entries app
  | .android => Android.entries app

theorem sources_eq (app : Application) (platform : Platform) :
    app.sources platform = Fields.ofList (app.entries platform) := by
  cases platform <;> rfl

/-- A file has the text of the last entry with its path. -/
theorem get?_of_last {app : Application} {platform : Platform}
    {before after : List (String × String)} {path text : String}
    (whole : app.entries platform = before ++ (path, text) :: after)
    (last : path ∉ after.map Prod.fst) : (app.sources platform).get? path = some text := by
  rw [sources_eq, whole]
  exact Fields.get?_ofList_last last

theorem packageDirectory_eq {app : Application} (named : app.Named) :
    Android.packageDirectory (Android.packageName app) = pathOf app.packageSegments := by
  have free : '.' ∉ (lower app.name).toList := by
    intro member
    have solid := named.name.lower.2 '.' member
    exact solid.2 rfl
  unfold Android.packageDirectory Android.packageName packageSegments
  generalize lower app.name = name at free ⊢
  have company : replaceChar '.' "/" "com." = "com/" := by decide
  have package : replaceChar '.' "/" s!"com.{name}" = "com/" ++ name := by
    refine (replaceChar_append '.' "/" "com." name).trans ?_
    rw [replaceChar_free free, company]
  rw [package]
  rfl

theorem androidModelPath_eq (root : String) (model : Model) :
    Android.modelPath root model = root ++ "/" ++ pathOf ["models", model.name ++ ".kt"] := by
  simp [Android.modelPath, pathOf, String.intercalate_cons_cons, toString, ← String.toList_inj]

theorem androidScreenPath_eq (root : String) (screen : Screen) : Android.screenPath root screen =
    root ++ "/" ++ pathOf ["ui", "screens", screen.name ++ "Screen.kt"] := by
  simp [Android.screenPath, pathOf, String.intercalate_cons_cons, toString, ← String.toList_inj]

theorem modelFile_path {app : Application} (named : app.Named) (platform : Platform)
    (model : Model) :
    (app.modelFile platform model).1 = pathOf ((app.filing platform).modelPlace model.name) := by
  cases platform with
  | web | ios => rfl
  | android =>
    rw [modelFile, packageDirectory_eq named, androidModelPath_eq]
    have some : app.packageSegments ≠ [] := List.cons_ne_nil _ _
    simp only [filing, Filing.modelPlace, List.append_assoc, List.cons_append, List.nil_append,
      pathOf_append some (List.cons_ne_nil _ _)]

/-- The files for the web: those of the models and their index, and those behind the index. -/
theorem web_entries (app : Application) :
    app.entries .web = app.models.map (app.modelFile .web) ++
      ("src/models/index.ts", Web.indexText app.models) ::
        (app.screens.map (fun screen => (Web.screenPath screen, Web.screenText screen)) ++
          ((app.api.toList.map fun api =>
            ("src/api/client.ts", Web.clientText api (app.referencedModels api.endpoints))) ++
          [("src/App.tsx", Web.appText app)])) := by
  simp only [Application.entries, Web.entries, List.append_assoc]
  rfl

/-- The models come first, and the other files have the places of the index and the others. -/
theorem entries_eq {app : Application} (named : app.Named) (platform : Platform) :
    ∃ others, app.entries platform = app.models.map (app.modelFile platform) ++ others ∧
      others.map Prod.fst = ((app.filing platform).indexPlaces ++
        (app.filing platform).otherPlaces app).map pathOf := by
  cases platform with
  | web =>
    refine ⟨_, web_entries app, ?_⟩
    simp only [filing, Filing.indexPlaces, Filing.otherPlaces, List.map_append, List.map_map,
      List.map_cons, List.append_assoc]
    rfl
  | ios =>
    refine ⟨_, by simp only [entries, Ios.entries, List.append_assoc]; rfl, ?_⟩
    simp only [filing, Filing.indexPlaces, Filing.otherPlaces, List.map_append, List.map_map,
      List.append_assoc]
    rfl
  | android =>
    refine ⟨_, by simp only [entries, Android.entries, List.append_assoc]; rfl, ?_⟩
    have some : app.packageSegments ≠ [] := List.cons_ne_nil _ _
    simp only [packageDirectory_eq named, filing, Filing.indexPlaces, Filing.otherPlaces,
      List.map_append, List.map_map, List.append_assoc, Function.comp_def, Filing.screenPlace,
      List.map_cons, List.map_nil, pathOf_append some (List.cons_ne_nil _ _), List.cons_append,
      List.nil_append]
    generalize pathOf app.packageSegments = root
    have client : s!"{root}/network/ApiClient.kt" =
        root ++ "/" ++ pathOf ["network", "ApiClient.kt"] := by
      simp [pathOf, String.intercalate_cons_cons, toString, ← String.toList_inj]
    have main : s!"{root}/{app.name}Application.kt" =
        root ++ "/" ++ pathOf [app.name ++ "Application.kt"] := by
      simp [pathOf, toString, ← String.toList_inj]
    simp only [androidScreenPath_eq, client, main]
    rfl

/-- The places with their segments joined are the paths of the files. -/
theorem paths_eq {app : Application} (named : app.Named) (platform : Platform) :
    (app.entries platform).map Prod.fst = ((app.filing platform).places app).map pathOf := by
  obtain ⟨others, whole, paths⟩ := entries_eq named platform
  have models : (app.models.map (app.modelFile platform)).map Prod.fst =
      ((app.filing platform).modelPlaces app).map pathOf := by
    simp only [Filing.modelPlaces, List.map_map, Function.comp_def, modelFile_path named]
  rw [whole, Filing.places, List.append_assoc, List.map_append, List.map_append, models, paths]

end Application

/-! ## No file leaves its directory -/

/-- All segments that a filing gives lead down, and those that a name is put into do for each name. -/
structure Filing.LeadsDown (filing : Filing) : Prop where
  models : ∀ segment ∈ filing.models, Blueprint.LeadsDown segment
  modelEnding : '/' ∉ filing.modelEnding.toList
  index : ∀ segment ∈ filing.index, Blueprint.LeadsDown segment
  screens : ∀ segment ∈ filing.screens, Blueprint.LeadsDown segment
  screenEnding : '/' ∉ filing.screenEnding.toList
  client : ∀ segment ∈ filing.client, Blueprint.LeadsDown segment
  main : ∀ segment ∈ filing.main, Blueprint.LeadsDown segment
  notEmpty : filing.client ≠ [] ∧ filing.main ≠ []

namespace Application

variable {app : Application}

theorem packageSegments_leadDown (named : app.Named) :
    ∀ segment ∈ app.packageSegments, LeadsDown segment := by
  have fixed : ∀ segment ∈ ["app", "src", "main", "java", "com"], LeadsDown segment := by
    decide
  have last := leadsDown_of_solid named.name.lower.1 named.name.lower.2 "" (by decide)
  rw [String.append_empty] at last
  exact List.forall_mem_append.mpr ⟨fixed, List.forall_mem_singleton.mpr last⟩

theorem filing_leadsDown (named : app.Named) (platform : Platform) :
    (app.filing platform).LeadsDown := by
  cases platform with
  | web => constructor <;> dsimp only [filing] <;> decide
  | ios =>
    constructor
    case main =>
      exact List.forall_mem_cons.mpr
        ⟨by decide, List.forall_mem_singleton.mpr (named.name.leadsDown (by decide))⟩
    case notEmpty => exact ⟨List.cons_ne_nil _ _, List.cons_ne_nil _ _⟩
    all_goals dsimp only [filing]; decide
  | android =>
    have below {rest : List String} (leads : ∀ segment ∈ rest, LeadsDown segment) :
        ∀ segment ∈ app.packageSegments ++ rest, LeadsDown segment :=
      List.forall_mem_append.mpr ⟨packageSegments_leadDown named, leads⟩
    constructor
    case models => exact below (by decide)
    case screens => exact below (by decide)
    case client => exact below (by decide)
    case main =>
      exact below (List.forall_mem_singleton.mpr (named.name.leadsDown (by decide)))
    case notEmpty => exact ⟨List.cons_ne_nil _ _, List.cons_ne_nil _ _⟩
    all_goals dsimp only [filing]; decide

end Application

/-- Names put into a filing give places that lead down. -/
theorem Filing.LeadsDown.places {filing : Filing} {app : Application} (leads : filing.LeadsDown)
    (named : app.Named) {place : List String} (member : place ∈ filing.places app) :
    place ≠ [] ∧ ∀ segment ∈ place, Blueprint.LeadsDown segment := by
  have within {front : List String} {segment : String}
      (fronts : ∀ other ∈ front, Blueprint.LeadsDown other)
      (last : Blueprint.LeadsDown segment) :
      front ++ [segment] ≠ [] ∧ ∀ other ∈ front ++ [segment], Blueprint.LeadsDown other :=
    ⟨List.concat_ne_nil _ _, List.forall_mem_append.mpr ⟨fronts, List.forall_mem_singleton.mpr last⟩⟩
  simp only [Filing.places, Filing.modelPlaces, Filing.indexPlaces, Filing.otherPlaces,
    List.mem_append, List.mem_map, List.mem_singleton] at member
  rcases member with
    (⟨model, member, rfl⟩ | ⟨name, member, rfl⟩) | (⟨screen, member, rfl⟩ | ⟨_, _, rfl⟩) | rfl
  · exact within leads.models ((named.models member).leadsDown leads.modelEnding)
  · exact within leads.models (leads.index name (by simpa using member))
  · exact within leads.screens ((named.screens member).leadsDown leads.screenEnding)
  · exact ⟨leads.notEmpty.1, leads.client⟩
  · exact ⟨leads.notEmpty.2, leads.main⟩

/-- Every generated file has a path through segments that lead down. -/
theorem exists_place {app : Application} (named : app.Named) {platform : Platform} {path : String}
    (member : path ∈ (app.sources platform).names) :
    ∃ place, path = pathOf place ∧ place ≠ [] ∧ ∀ segment ∈ place, LeadsDown segment := by
  rw [app.sources_eq, Fields.mem_names_ofList, Application.paths_eq named, List.mem_map] at member
  obtain ⟨place, isPlace, rfl⟩ := member
  exact ⟨place, rfl, (Application.filing_leadsDown named platform).places named isPlace⟩

/-! ## No two files share a place -/

/-- A model whose file would have the place of the index. -/
def Filing.Shadows (filing : Filing) (name : String) : Prop :=
  filing.index = some (name ++ filing.modelEnding)

/-- The places of different kinds of files are apart, whatever the names in them. -/
structure Filing.Apart (filing : Filing) : Prop where
  directories : filing.models ≠ filing.screens
  client (name : String) : filing.client ≠ filing.models ++ [name] ∧
    filing.client ≠ filing.screens ++ [name]
  main (name : String) : filing.main ≠ filing.models ++ [name] ∧
    filing.main ≠ filing.screens ++ [name]
  ends : filing.client ≠ filing.main

theorem Application.filing_apart (app : Application) (platform : Platform) :
    (app.filing platform).Apart := by
  cases platform with
  | web | ios => constructor <;> simp [filing]
  | android => constructor <;> simp [filing, List.append_assoc]

theorem Application.shadows_iff {app : Application} {platform : Platform} {name : String} :
    (app.filing platform).Shadows name ↔ platform = .web ∧ name = "index" := by
  cases platform with
  | web =>
    have same : "index" ++ ".ts" = name ++ ".ts" ↔ name = "index" :=
      (String.append_left_inj ".ts").trans eq_comm
    exact Option.some_inj.trans (same.trans (and_iff_right rfl).symm)
  | ios | android => simp [Filing.Shadows, filing]

namespace Filing

variable {filing : Filing} {app : Application}

theorem modelPlace_injective (filing : Filing) : Function.Injective filing.modelPlace := by
  intro name other same
  simpa [modelPlace] using same

theorem screenPlace_injective (filing : Filing) : Function.Injective filing.screenPlace := by
  intro name other same
  simpa [screenPlace] using same

/-- No other file is put into the directory of the models. -/
theorem Apart.not_mem_otherPlaces (apart : filing.Apart) (name : String) :
    filing.models ++ [name] ∉ filing.otherPlaces app := by
  intro member
  simp only [otherPlaces, List.mem_append, List.mem_map, List.mem_singleton] at member
  rcases member with (⟨screen, _, same⟩ | ⟨_, _, same⟩) | same
  · exact apart.directories (List.append_inj' same rfl).1.symm
  · exact (apart.client name).1 same
  · exact (apart.main name).1 same.symm

theorem Apart.otherPlaces_nodup (apart : filing.Apart)
    (distinct : (app.screens.map Screen.name).Nodup) : (filing.otherPlaces app).Nodup := by
  have screens : (app.screens.map fun screen => filing.screenPlace screen.name).Nodup := by
    have mapped := distinct.map filing.screenPlace_injective
    rwa [List.map_map] at mapped
  have client : (app.api.toList.map fun _ => filing.client).Nodup := by
    cases app.api <;> simp
  refine List.nodup_append.mpr ⟨List.nodup_append.mpr ⟨screens, client, ?_⟩,
    List.nodup_singleton _, ?_⟩
  · intro place isScreen other isClient
    obtain ⟨screen, _, rfl⟩ := List.mem_map.mp isScreen
    obtain ⟨_, _, rfl⟩ := List.mem_map.mp isClient
    exact ((apart.client _).2).symm
  · intro place member other isMain
    obtain rfl := List.mem_singleton.mp isMain
    rcases List.mem_append.mp member with isScreen | isClient
    · obtain ⟨screen, _, rfl⟩ := List.mem_map.mp isScreen
      exact ((apart.main _).2).symm
    · obtain ⟨_, _, rfl⟩ := List.mem_map.mp isClient
      exact apart.ends

/-- Without the index every file has a place of its own. -/
theorem Apart.ownPlaces_nodup (apart : filing.Apart)
    (models : (app.models.map Model.name).Nodup) (screens : (app.screens.map Screen.name).Nodup) :
    (filing.modelPlaces app ++ filing.otherPlaces app).Nodup := by
  have mapped := models.map filing.modelPlace_injective
  rw [List.map_map] at mapped
  refine List.nodup_append.mpr ⟨mapped, apart.otherPlaces_nodup screens, ?_⟩
  rintro place isModel _ isOther rfl
  obtain ⟨model, _, rfl⟩ := List.mem_map.mp isModel
  exact apart.not_mem_otherPlaces _ isOther

/-- The index has the place of another file exactly if a model is named like it. -/
theorem Apart.index_mem_iff (apart : filing.Apart) {place : List String}
    (isIndex : place ∈ filing.indexPlaces) :
    place ∈ filing.modelPlaces app ++ filing.otherPlaces app ↔
      ∃ model ∈ app.models, filing.Shadows model.name := by
  obtain ⟨name, isName, rfl⟩ := List.mem_map.mp isIndex
  have index : filing.index = some name := by simpa using isName
  rw [List.mem_append, or_iff_left (apart.not_mem_otherPlaces name), modelPlaces, List.mem_map]
  simp only [Shadows, index, Option.some.injEq, modelPlace, List.append_right_inj, List.cons.injEq,
    and_true]
  exact exists_congr fun model => and_congr_right fun _ => eq_comm

theorem Apart.places_nodup (apart : filing.Apart) (models : (app.models.map Model.name).Nodup)
    (screens : (app.screens.map Screen.name).Nodup)
    (unshadowed : ¬ ∃ model ∈ app.models, filing.Shadows model.name) :
    (filing.places app).Nodup := by
  have permuted : (filing.places app).Perm
      (filing.indexPlaces ++ (filing.modelPlaces app ++ filing.otherPlaces app)) := by
    rw [places, ← List.append_assoc]
    exact List.perm_append_comm.append_right _
  have index : filing.indexPlaces.Nodup := by
    unfold indexPlaces
    cases filing.index <;> simp
  refine permuted.nodup_iff.mpr
    (List.nodup_append.mpr ⟨index, apart.ownPlaces_nodup models screens, ?_⟩)
  rintro place isIndex _ isOwn rfl
  exact unshadowed ((apart.index_mem_iff isIndex).mp isOwn)

theorem length_places : (filing.places app).length =
    app.models.length + filing.index.toList.length + app.screens.length + app.api.toList.length +
      1 := by
  simp only [places, modelPlaces, indexPlaces, otherPlaces, List.length_append, List.length_map,
    List.length_singleton]
  omega

/-- Places that lead down are told apart by their paths. -/
theorem LeadsDown.injective (leads : filing.LeadsDown) (named : app.Named)
    {place place' : List String} (member : place ∈ filing.places app)
    (member' : place' ∈ filing.places app) (same : pathOf place = pathOf place') :
    place = place' := by
  have known := leads.places named member
  have known' := leads.places named member'
  exact pathOf_injective known.1 known'.1 (fun segment inside => (known.2 segment inside).free)
    (fun segment inside => (known'.2 segment inside).free) same

theorem LeadsDown.nodup_paths (leads : filing.LeadsDown) (named : app.Named)
    {some : List (List String)} (nodup : some.Nodup) (among : some ⊆ filing.places app) :
    (some.map pathOf).Nodup :=
  nodup.map_on fun _ member _ member' same =>
    leads.injective named (among member) (among member') same

end Filing

namespace Application

variable {app : Application}

theorem distinct_of_errorless (errorless : app.hasErrors = false) :
    (app.models.map Model.name).Nodup ∧ (app.screens.map Screen.name).Nodup := by
  rw [hasErrors_eq_false, findings, errorless_append, errorless_append, errorless_append,
    errorless_append, errorless_modelsFindings, errorless_screensFindings] at errorless
  exact ⟨errorless.1.1.1.2.1, errorless.1.1.2.1⟩

/-- One of the files of models is replaced by the index. -/
def LosesModel (app : Application) (platform : Platform) : Prop :=
  platform = .web ∧ ∃ model ∈ app.models, model.name = "index"

instance (app : Application) (platform : Platform) : Decidable (app.LosesModel platform) :=
  inferInstanceAs (Decidable (platform = .web ∧ ∃ model ∈ app.models, model.name = "index"))

theorem losesModel_iff {platform : Platform} : app.LosesModel platform ↔
    ∃ model ∈ app.models, (app.filing platform).Shadows model.name := by
  simp only [LosesModel, shadows_iff]
  constructor
  · rintro ⟨isWeb, model, member, same⟩
    exact ⟨model, member, isWeb, same⟩
  · rintro ⟨model, member, isWeb, same⟩
    exact ⟨isWeb, model, member, same⟩

variable {platform : Platform} (named : app.Named) (models : (app.models.map Model.name).Nodup)
  (screens : (app.screens.map Screen.name).Nodup)
include named models screens

theorem paths_nodup (keeps : ¬ app.LosesModel platform) :
    ((app.entries platform).map Prod.fst).Nodup := by
  rw [paths_eq named]
  have nodup := (app.filing_apart platform).places_nodup models screens
    fun shadowed => keeps (losesModel_iff.mpr shadowed)
  exact (filing_leadsDown named platform).nodup_paths named nodup (List.Subset.refl _)

/-- The files of an application that is filed without losing a model are those that are generated. -/
theorem sources_eq_entries (keeps : ¬ app.LosesModel platform) :
    app.sources platform = app.entries platform :=
  (app.sources_eq platform).trans (Fields.ofList_distinct (paths_nodup named models screens keeps))

theorem length_sources :
    (app.sources platform).length + (if app.LosesModel platform then 1 else 0) =
      ((app.filing platform).places app).length := by
  split
  · next loses =>
    have apart := app.filing_apart platform
    have shadowed := losesModel_iff.mp loses
    -- The place of the index is that of a model, so the other places are all there are.
    have among : (app.filing platform).modelPlaces app ++ (app.filing platform).otherPlaces app ⊆
        (app.filing platform).places app := by
      rw [Filing.places, List.append_assoc]
      exact List.append_subset.mpr ⟨List.subset_append_left _ _,
        List.subset_append_of_subset_right _ (List.subset_append_right _ _)⟩
    have all : (app.filing platform).places app ⊆
        (app.filing platform).modelPlaces app ++ (app.filing platform).otherPlaces app := by
      refine List.append_subset.mpr ⟨List.append_subset.mpr ⟨List.subset_append_left _ _, ?_⟩,
        List.subset_append_right _ _⟩
      exact fun place isIndex => (apart.index_mem_iff isIndex).mpr shadowed
    have nodup := (filing_leadsDown named platform).nodup_paths named
      (apart.ownPlaces_nodup models screens) among
    have same (path : String) : path ∈ (app.entries platform).map Prod.fst ↔
        path ∈ ((app.filing platform).modelPlaces app ++ (app.filing platform).otherPlaces app).map
          pathOf := by
      rw [paths_eq named]
      exact ⟨fun member => List.map_subset pathOf all member,
        fun member => List.map_subset pathOf among member⟩
    have length := Fields.length_ofList nodup same
    obtain ⟨model, _, index⟩ := shadowed
    have one : (app.filing platform).indexPlaces.length = 1 := by
      rw [Filing.Shadows] at index
      simp [Filing.indexPlaces, index]
    rw [sources_eq, length, List.length_map, Filing.places, List.length_append, List.length_append,
      List.length_append, one]
    omega
  · next keeps =>
    rw [sources_eq_entries named models screens keeps, ← List.length_map Prod.fst, paths_eq named,
      List.length_map, Nat.add_zero]

omit screens in
/-- The file of a model has its text, unless the index has its place. -/
theorem get?_modelFile {model : Model} (member : model ∈ app.models)
    (unshadowed : ¬ (app.filing platform).Shadows model.name) :
    (app.sources platform).get? (app.modelFile platform model).1 =
      some (app.modelFile platform model).2 := by
  obtain ⟨others, whole, paths⟩ := entries_eq named platform
  have leads := filing_leadsDown named platform
  have isPlace {model : Model} (member : model ∈ app.models) :
      (app.filing platform).modelPlace model.name ∈ (app.filing platform).places app := by
    rw [Filing.places, List.append_assoc]
    exact List.mem_append_left _ (List.mem_map_of_mem member)
  rw [sources_eq, whole]
  refine Fields.get?_ofList (List.mem_append_left _ (List.mem_map_of_mem member)) ?_
  intro entry inside same
  rcases List.mem_append.mp inside with isModel | isOther
  · obtain ⟨model', member', rfl⟩ := List.mem_map.mp isModel
    rw [modelFile_path named, modelFile_path named] at same
    have places := leads.injective named (isPlace member') (isPlace member) same
    have names := (app.filing platform).modelPlace_injective places
    rw [List.inj_on_of_nodup_map models member' member names]
  · have path : entry.1 ∈ others.map Prod.fst := List.mem_map_of_mem isOther
    rw [paths, same, modelFile_path named, List.mem_map] at path
    obtain ⟨place, member', same'⟩ := path
    have listed : place ∈ (app.filing platform).places app := by
      rw [Filing.places, List.append_assoc]
      exact List.mem_append_right _ member'
    obtain rfl := leads.injective named listed (isPlace member) same'
    rcases List.mem_append.mp member' with isIndex | isOther
    · obtain ⟨name, isName, same⟩ := List.mem_map.mp isIndex
      have names : name = model.name ++ (app.filing platform).modelEnding := by
        simpa [Filing.modelPlace] using same
      have index : (app.filing platform).index = some name := by simpa using isName
      exact absurd (index.trans (congrArg some names)) unshadowed
    · exact absurd isOther ((app.filing_apart platform).not_mem_otherPlaces _)

end Application

/-- The index of the models has its text, whatever the models are named: no file after it has its
place. -/
theorem get?_index (app : Application) :
    (app.sources .web).get? "src/models/index.ts" = some (Web.indexText app.models) := by
  refine Application.get?_of_last app.web_entries ?_
  simp [Web.screenPath, toString, ← String.toList_inj]

/-- An application without errors loses no file to another, but for the model that the index for the
web replaces: every other model has its text, and there is a file for each thing that has one. -/
theorem one_file_each {source : String} {strategy : Strategy} {compilation : Compilation}
    (compiled : compile source strategy = .ok compilation)
    (errorless : compilation.application.hasErrors = false) (platform : Platform) :
    let app := compilation.application
    (app.sources platform).length + (if app.LosesModel platform then 1 else 0) =
        app.models.length + app.screens.length + (if app.api.isSome then 1 else 0) +
          (if platform = .web then 2 else 1) ∧
      (∀ model ∈ app.models, ¬ (platform = .web ∧ model.name = "index") →
        (app.sources platform).get? (app.modelFile platform model).1 =
          some (app.modelFile platform model).2) ∧
      (¬ app.LosesModel platform → ((app.entries platform).map Prod.fst).Nodup ∧
        app.sources platform = app.entries platform) ∧
      (app.LosesModel platform →
        (app.sources platform).get? "src/models/index.ts" = some (Web.indexText app.models)) := by
  intro app
  have named : app.Named := compile_named compiled
  obtain ⟨models, screens⟩ : (app.models.map Model.name).Nodup ∧
      (app.screens.map Screen.name).Nodup := Application.distinct_of_errorless errorless
  refine ⟨?_, ?_, ?_, ?_⟩
  · rw [Application.length_sources named models screens, Filing.length_places]
    have client : app.api.toList.length = if app.api.isSome then 1 else 0 := by
      cases app.api <;> rfl
    have index : (app.filing platform).index.toList.length + 1 =
        if platform = .web then 2 else 1 := by
      cases platform <;> rfl
    omega
  · intro model member unshadowed
    exact Application.get?_modelFile named models member fun shadowed =>
      unshadowed (Application.shadows_iff.mp shadowed)
  · intro keeps
    exact ⟨Application.paths_nodup named models screens keeps,
      Application.sources_eq_entries named models screens keeps⟩
  · rintro ⟨rfl, _⟩
    exact get?_index app

/-- An application whose only model is named like the index. -/
def catalogSource : String :=
  "app A \x7bname: 'a' id: 'b' version: '1'\x7d model index \x7bid: string\x7d"

def catalog : Application :=
  { name := "A", displayName := "a", appId := "b", version := "1"
    models := [⟨"index", [{ name := "id", type := ⟨"string", false⟩ }]⟩] }

set_option maxRecDepth 2000 in
theorem compile_catalog : compile catalogSource .grammar =
    .ok ⟨catalog, [], Extraction.ofSource catalogSource⟩ := by
  have parsed : Document.parse catalogSource =
      .ok ⟨some {
        header := some { name := "A", displayName := "a", appId := "b", version := "1" }
        models := [⟨"index", [{ name := "id", type := ⟨"string", false⟩ }]⟩] }, []⟩ := by
    cbv
  exact compile_of_header parsed rfl rfl .grammar

theorem catalog_errorless : catalog.hasErrors = false := by
  decide

theorem one_file_each_catalog :
    compile catalogSource .grammar = .ok ⟨catalog, [], Extraction.ofSource catalogSource⟩ ∧
      catalog.hasErrors = false ∧ (catalog.sources .web).length + 1 = 3 ∧
      (catalog.sources .ios).length = 2 ∧ catalog.sources .ios = catalog.entries .ios := by
  have web := one_file_each compile_catalog catalog_errorless .web
  have ios := one_file_each compile_catalog catalog_errorless .ios
  exact ⟨compile_catalog, catalog_errorless, web.1, ios.1, (ios.2.2.1 (by decide)).2⟩

/-- Its index takes the place of the model. -/
theorem index_replaces_model : ∃ compilation, compile catalogSource .grammar = .ok compilation ∧
    compilation.application.hasErrors = false ∧
    (compilation.application.sources .web).length ≠
      compilation.application.models.length + compilation.application.screens.length + 0 + 2 ∧
    ∃ model ∈ compilation.application.models,
      (compilation.application.sources .web).get? (Web.modelPath model) ≠
        some (Web.modelText model) := by
  refine ⟨_, compile_catalog, catalog_errorless, ?_, ?_⟩
  · decide
  · refine ⟨_, List.mem_singleton_self _, ?_⟩
    decide

end Blueprint
