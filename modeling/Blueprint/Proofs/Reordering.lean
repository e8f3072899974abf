import Blueprint.Validation.Rules
import Mathlib.Data.List.Forall2
import Mathlib.Data.List.Perm.Basic

/-!
Applications whose declarations stand in another order. Models, screens and endpoints may change
places, and so may what is declared inside each of them. `findings_reordered` says that validation then
finds the same, in another order. Screens keep their places if several of them are initial, because a
finding lists these.
-/
set_option autoImplicit false

namespace Blueprint

open Validation

/-! ## Other orders -/

/-- Items that change places, and that may come out changed by a relation. -/
def Rearranged {α : Type} (alike : α → α → Prop) (items items' : List α) : Prop :=
  ∃ moved, items.Perm moved ∧ List.Forall₂ alike moved items'

structure Property.Reordered (property property' : Property) : Prop where
  same : property' = { property with enumValues := property'.enumValues }
  enumValues : property.enumValues.Perm property'.enumValues

structure Model.Reordered (model model' : Model) : Prop where
  same : model' = { model with properties := model'.properties }
  properties : Rearranged Property.Reordered model.properties model'.properties

structure Layout.Reordered (layout layout' : Layout) : Prop where
  same : layout' = { layout with
    components := layout'.components, fields := layout'.fields, actions := layout'.actions }
  components : layout.components.Perm layout'.components
  fields : layout.fields.Perm layout'.fields
  actions : layout.actions.Perm layout'.actions

structure Screen.Reordered (screen screen' : Screen) : Prop where
  same : screen' = { screen with parameters := screen'.parameters, layout := screen'.layout }
  parameters : screen.parameters.Perm screen'.parameters
  layout : Option.Rel Layout.Reordered screen.layout screen'.layout

structure Navigation.Reordered (navigation navigation' : Navigation) : Prop where
  same : navigation' = { navigation with items := navigation'.items }
  items : navigation.items.Perm navigation'.items

structure Endpoint.Reordered (endpoint endpoint' : Endpoint) : Prop where
  same : endpoint' = { endpoint with parameters := endpoint'.parameters }
  parameters : endpoint.parameters.Perm endpoint'.parameters

structure Api.Reordered (api api' : Api) : Prop where
  same : api' = { api with endpoints := api'.endpoints }
  endpoints : Rearranged Endpoint.Reordered api.endpoints api'.endpoints

/-- Screens change places only if at most one of them is initial; what is inside them may always. -/
def ScreensReordered (screens screens' : List Screen) : Prop :=
  List.Forall₂ Screen.Reordered screens screens' ∨
    screens.countP Screen.isInitial ≤ 1 ∧ Rearranged Screen.Reordered screens screens'

/-- Applications with the same declarations in different orders. -/
structure Application.Reordered (app app' : Application) : Prop where
  same : app' = { app with
    models := app'.models, screens := app'.screens, navigation := app'.navigation, api := app'.api }
  models : Rearranged Model.Reordered app.models app'.models
  screens : ScreensReordered app.screens app'.screens
  navigation : Option.Rel Navigation.Reordered app.navigation app'.navigation
  api : Option.Rel Api.Reordered app.api app'.api

namespace Rearranged

variable {α β : Type} {alike : α → α → Prop} {items items' : List α}

theorem flatMap (rearranged : Rearranged alike items items') {f g : α → List β}
    (each : ∀ item item', alike item item' → (f item).Perm (g item')) :
    (items.flatMap f).Perm (items'.flatMap g) := by
  obtain ⟨moved, permuted, paired⟩ := rearranged
  refine (permuted.flatMap_right f).trans ?_
  clear permuted
  induction paired with
  | nil => exact .nil
  | cons head _ ih =>
    rw [List.flatMap_cons, List.flatMap_cons]
    exact (each _ _ head).append ih

theorem map (rearranged : Rearranged alike items items') {f : α → β}
    (each : ∀ item item', alike item item' → f item' = f item) :
    (items.map f).Perm (items'.map f) := by
  rw [List.map_eq_flatMap, List.map_eq_flatMap]
  refine rearranged.flatMap fun item item' related => ?_
  rw [each item item' related]

theorem isEmpty_eq (rearranged : Rearranged alike items items') :
    items.isEmpty = items'.isEmpty := by
  obtain ⟨moved, permuted, paired⟩ := rearranged
  rw [permuted.isEmpty_eq]
  cases paired <;> rfl

end Rearranged

theorem ScreensReordered.rearranged {screens screens' : List Screen}
    (reordered : ScreensReordered screens screens') :
    Rearranged Screen.Reordered screens screens' := by
  rcases reordered with paired | ⟨_, rearranged⟩
  · exact ⟨screens, .refl _, paired⟩
  · exact rearranged

/-! ## Repeated names -/

theorem nodup_eraseDups (names : List String) : names.eraseDups.Nodup := by
  match names with
  | [] => exact List.nodup_nil
  | name :: rest =>
    have shorter := List.length_filter_le (fun other => !other == name) rest
    rw [List.eraseDups_cons]
    refine List.nodup_cons.mpr ⟨fun member => ?_, nodup_eraseDups _⟩
    simpa using (List.mem_filter.mp (List.mem_eraseDups.mp member)).2
termination_by names.length

theorem eraseDups_perm {names names' : List String} (permuted : names.Perm names') :
    names.eraseDups.Perm names'.eraseDups := by
  rw [List.perm_ext_iff_of_nodup (nodup_eraseDups _) (nodup_eraseDups _)]
  intro name
  rw [List.mem_eraseDups, List.mem_eraseDups, permuted.mem_iff]

theorem duplicates_perm {names names' : List String} (permuted : names.Perm names') :
    (duplicates names).Perm (duplicates names') := by
  unfold duplicates
  have counts : (fun name => decide (1 < names.count name)) =
      fun name => decide (1 < names'.count name) := by
    funext name
    rw [permuted.count_eq]
  rw [counts]
  exact (eraseDups_perm permuted).filter _

/-- A rule that reports each repeated name. -/
theorem repeated_perm {names names' : List String} (permuted : names.Perm names')
    (report : String → Finding) :
    ((duplicates names).map report).Perm ((duplicates names').map report) :=
  (duplicates_perm permuted).map report

/-! ## Models -/

theorem enumFindings_perm (model : Model) {property property' : Property}
    (reordered : property.Reordered property') :
    (enumFindings model property).Perm (enumFindings model property') := by
  rw [reordered.same]
  unfold enumFindings
  rw [reordered.enumValues.isEmpty_eq]
  split
  · exact .nil
  · refine (List.Perm.append_left _ (repeated_perm reordered.enumValues _)).append ?_
    cases property.defaultValue with
    | none => exact .nil
    | some value =>
      dsimp only
      rw [reordered.enumValues.contains_eq]

theorem propertyFindings_perm (model : Model) {property property' : Property}
    (reordered : property.Reordered property') :
    (propertyFindings model property).Perm (propertyFindings model property') := by
  have enumeration := enumFindings_perm model reordered
  unfold propertyFindings
  rw [reordered.same] at enumeration ⊢
  exact (List.Perm.append_left _ enumeration).append_right _

theorem property?_isNone (model : Model) (name : String) :
    (model.property? name).isNone = !(model.properties.map Property.name).contains name := by
  rw [Bool.eq_iff_iff]
  simp [Model.property?, List.mem_map]

theorem Property.Reordered.name_eq {property property' : Property}
    (reordered : property.Reordered property') : property'.name = property.name := by
  rw [reordered.same]

theorem modelFindings_perm {model model' : Model} (reordered : model.Reordered model') :
    (modelFindings model).Perm (modelFindings model') := by
  have names : (model.properties.map Property.name).Perm (model'.properties.map Property.name) :=
    reordered.properties.map fun _ _ related => related.name_eq
  have each : (model.properties.flatMap (propertyFindings model)).Perm
      (model'.properties.flatMap (propertyFindings model')) := by
    refine reordered.properties.flatMap fun property property' related => ?_
    rw [reordered.same]
    exact propertyFindings_perm model related
  unfold modelFindings
  rw [property?_isNone, property?_isNone, names.contains_eq, ← reordered.properties.isEmpty_eq]
  rw [reordered.same] at names each ⊢
  refine List.Perm.append_left _ ?_
  split
  · exact .refl _
  · exact (List.Perm.append_left _ (repeated_perm names _)).append each

theorem Model.Reordered.name_eq {model model' : Model} (reordered : model.Reordered model') :
    model'.name = model.name := by
  rw [reordered.same]

theorem modelsFindings_perm {models models' : List Model}
    (reordered : Rearranged Model.Reordered models models') :
    (modelsFindings models).Perm (modelsFindings models') := by
  have names : (models.map Model.name).Perm (models'.map Model.name) :=
    reordered.map fun _ _ related => related.name_eq
  exact (repeated_perm names _).append
    (reordered.flatMap fun _ _ related => modelFindings_perm related)

/-! ## Screens -/

theorem parameterFindings_perm (owner : ParameterOwner) {parameters parameters' : List Parameter}
    (permuted : parameters.Perm parameters') :
    (parameterFindings owner parameters).Perm (parameterFindings owner parameters') :=
  (repeated_perm (permuted.map _) _).append (permuted.flatMap_right _)

theorem layoutFindings_perm (screen : Screen) {layout layout' : Layout}
    (reordered : layout.Reordered layout') :
    (layoutFindings screen layout).Perm (layoutFindings screen layout') := by
  unfold layoutFindings
  rw [reordered.fields.isEmpty_eq, reordered.components.length_eq]
  have names := reordered.fields.map FormField.name
  rw [reordered.same] at names ⊢
  refine List.Perm.append_right _ ?_
  split
  · exact List.Perm.append_left _ (repeated_perm names _)
  · exact .refl _

section Declared

variable {screens screens' endpoints endpoints' models models' : List String}

theorem actionFindings_eq (sameScreens : screens.Perm screens')
    (sameEndpoints : endpoints.Perm endpoints') (screen : Screen) (action : Action) :
    actionFindings screens endpoints screen action =
      actionFindings screens' endpoints' screen action := by
  unfold actionFindings
  simp only [sameScreens.contains_eq, sameEndpoints.contains_eq]

theorem componentFindings_eq (sameScreens : screens.Perm screens') (screen : Screen)
    (component : Component) :
    componentFindings screens screen component = componentFindings screens' screen component := by
  unfold componentFindings
  simp only [sameScreens.contains_eq]

theorem screenFindings_perm (sameScreens : screens.Perm screens')
    (sameEndpoints : endpoints.Perm endpoints') {screen screen' : Screen}
    (reordered : screen.Reordered screen') :
    (screenFindings screens endpoints screen).Perm (screenFindings screens' endpoints' screen') := by
  have layouts := reordered.layout
  unfold screenFindings
  rw [reordered.same]
  refine (parameterFindings_perm _ reordered.parameters).append ?_
  generalize screen.layout = layout at layouts ⊢
  dsimp only
  generalize screen'.layout = layout' at layouts ⊢
  cases layouts with
  | none => exact .refl _
  | @some layout layout' related =>
    refine ((layoutFindings_perm screen related).append ?_).append ?_
    · refine related.actions.flatMap fun action _ => ?_
      rw [actionFindings_eq sameScreens sameEndpoints]
      exact .refl _
    · refine related.components.flatMap fun component _ => ?_
      rw [componentFindings_eq sameScreens]
      exact .refl _

theorem navigationFindings_perm (sameScreens : screens.Perm screens')
    {navigation navigation' : Navigation} (reordered : navigation.Reordered navigation') :
    (navigationFindings screens navigation).Perm (navigationFindings screens' navigation') := by
  unfold navigationFindings
  rw [reordered.items.isEmpty_eq, reordered.items.length_eq, reordered.same]
  refine List.Perm.append_right _ (List.Perm.append_left _ ?_)
  refine reordered.items.flatMap fun item _ => ?_
  rw [sameScreens.contains_eq]

/-! ## The interface -/

theorem endpointFindings_perm (sameModels : models.Perm models') {endpoint endpoint' : Endpoint}
    (reordered : endpoint.Reordered endpoint') :
    (endpointFindings models endpoint).Perm (endpointFindings models' endpoint') := by
  have names := reordered.parameters.map Parameter.name
  have parameters := parameterFindings_perm (.endpoint endpoint.id) reordered.parameters
  unfold endpointFindings
  simp only [sameModels.contains_eq, names.contains_eq]
  rw [reordered.same] at names parameters ⊢
  exact (((parameters.append_right _).append_right _).append_right _).append_right _

theorem Endpoint.Reordered.id_eq {endpoint endpoint' : Endpoint}
    (reordered : endpoint.Reordered endpoint') : endpoint'.id = endpoint.id := by
  rw [reordered.same]

theorem apiFindings_perm (sameModels : models.Perm models') {api api' : Api}
    (reordered : api.Reordered api') :
    (apiFindings models api).Perm (apiFindings models' api') := by
  have ids : (api.endpoints.map Endpoint.id).Perm (api'.endpoints.map Endpoint.id) :=
    reordered.endpoints.map fun _ _ related => related.id_eq
  unfold apiFindings
  rw [reordered.endpoints.isEmpty_eq]
  refine (List.Perm.append_left _ (repeated_perm ids _)).append ?_
  exact reordered.endpoints.flatMap fun _ _ related => endpointFindings_perm sameModels related

end Declared

/-! ## Initial screens -/

/-- The names of the screens that are initial. -/
def initialNames (screens : List Screen) : List String :=
  (screens.filter Screen.isInitial).map Screen.name

theorem initialNames_eq_flatMap (screens : List Screen) :
    initialNames screens =
      screens.flatMap fun screen => if screen.isInitial then [screen.name] else [] := by
  induction screens with
  | nil => rfl
  | cons screen screens ih =>
    rw [List.flatMap_cons, ← ih, initialNames, initialNames, List.filter_cons]
    split <;> rfl

theorem Screen.Reordered.name_eq {screen screen' : Screen} (reordered : screen.Reordered screen') :
    screen'.name = screen.name ∧ screen'.isInitial = screen.isInitial := by
  rw [reordered.same]
  exact ⟨rfl, rfl⟩

theorem initialNames_eq {screens screens' : List Screen}
    (reordered : ScreensReordered screens screens') :
    initialNames screens = initialNames screens' := by
  rcases reordered with paired | ⟨few, rearranged⟩
  -- The order of these names is reported, so a permutation is not enough where there are several.
  · induction paired with
    | nil => rfl
    | @cons screen screen' _ _ head _ ih =>
      rw [initialNames_eq_flatMap] at ih ⊢
      rw [initialNames_eq_flatMap] at ih ⊢
      rw [List.flatMap_cons, List.flatMap_cons, ih, head.name_eq.1, head.name_eq.2]
  · have permuted : (initialNames screens).Perm (initialNames screens') := by
      rw [initialNames_eq_flatMap, initialNames_eq_flatMap]
      refine rearranged.flatMap fun screen screen' related => ?_
      rw [related.name_eq.1, related.name_eq.2]
    have short : (initialNames screens).length ≤ 1 := by
      rwa [initialNames, List.length_map, ← List.countP_eq_length_filter]
    match names : initialNames screens with
    | [] =>
      rw [names] at permuted
      exact permuted.nil_eq
    | [name] =>
      rw [names] at permuted
      exact permuted.singleton_eq
    | _ :: _ :: _ =>
      rw [names] at short
      simp at short

/-- Which screens are initial is told from their names. -/
theorem initialScreenFindings_eq (app : Application) : initialScreenFindings app =
    if app.screens.isEmpty then []
    else match initialNames app.screens with
      | [] => [.noInitialScreen app.name]
      | [_] => []
      | names => [.severalInitialScreens app.name names] := by
  unfold initialScreenFindings initialNames
  split
  · rfl
  · match app.screens.filter Screen.isInitial with
    | [] => rfl
    | [_] => rfl
    | _ :: _ :: _ => rfl

/-! ## All rules -/

theorem endpointIds_perm {app app' : Application} (reordered : app.Reordered app') :
    (app.endpoints.map Endpoint.id).Perm (app'.endpoints.map Endpoint.id) := by
  have apis := reordered.api
  unfold Application.endpoints
  generalize app.api = api at apis ⊢
  generalize app'.api = api' at apis ⊢
  cases apis with
  | none => exact .refl _
  | some related => exact related.endpoints.map fun _ _ alike => alike.id_eq

theorem isNone_eq_of_rel {α : Type} {alike : α → α → Prop} {part part' : Option α}
    (related : Option.Rel alike part part') : part.isNone = part'.isNone := by
  cases related <;> rfl

theorem sectionFindings_eq {app app' : Application} (reordered : app.Reordered app') :
    sectionFindings app = sectionFindings app' := by
  unfold sectionFindings
  rw [reordered.models.isEmpty_eq, reordered.screens.rearranged.isEmpty_eq,
    isNone_eq_of_rel reordered.navigation, isNone_eq_of_rel reordered.api, reordered.same]

theorem screenNames_perm {screens screens' : List Screen}
    (reordered : ScreensReordered screens screens') :
    (screens.map Screen.name).Perm (screens'.map Screen.name) :=
  reordered.rearranged.map fun _ _ related => related.name_eq.1

theorem screensFindings_perm {app app' : Application} (reordered : app.Reordered app') :
    (screensFindings app).Perm (screensFindings app') := by
  have names := screenNames_perm reordered.screens
  exact (repeated_perm names _).append (reordered.screens.rearranged.flatMap
    fun _ _ related => screenFindings_perm names (endpointIds_perm reordered) related)

/-- Validation finds the same in an application whatever the order of its declarations, each finding
as often as before. -/
theorem findings_reordered {app app' : Application} (reordered : app.Reordered app') :
    app.findings.Perm app'.findings := by
  have models : (app.models.map Model.name).Perm (app'.models.map Model.name) :=
    reordered.models.map fun _ _ related => related.name_eq
  have initial : initialScreenFindings app = initialScreenFindings app' := by
    rw [initialScreenFindings_eq, initialScreenFindings_eq, initialNames_eq reordered.screens,
      reordered.screens.rearranged.isEmpty_eq, reordered.same]
  unfold Application.findings
  rw [sectionFindings_eq reordered, initial]
  refine ((((List.Perm.refl _).append (modelsFindings_perm reordered.models)).append
    (screensFindings_perm reordered)).append ?_).append ?_
  · have navigations := reordered.navigation
    generalize app.navigation = navigation at navigations ⊢
    generalize app'.navigation = navigation' at navigations ⊢
    cases navigations with
    | none => exact .nil
    | some related => exact navigationFindings_perm (screenNames_perm reordered.screens) related
  · have apis := reordered.api
    generalize app.api = api at apis ⊢
    generalize app'.api = api' at apis ⊢
    cases apis with
    | none => exact .nil
    | some related => exact apiFindings_perm models related

/-- A model with a repeated value and a type that is not known. -/
def person : Model :=
  { name := "Person"
    properties := [{ name := "role", type := { name := "string" }, enumValues := ["a", "b", "a"] },
      { name := "age", type := { name := "years" } }] }

def personReordered : Model :=
  { name := "Person"
    properties := [{ name := "age", type := { name := "years" } },
      { name := "role", type := { name := "string" }, enumValues := ["b", "a", "a"] }] }

theorem person_reordered : person.Reordered personReordered where
  same := rfl
  properties := ⟨_, .swap _ _ _, .cons ⟨rfl, .refl _⟩ (.cons ⟨rfl, .swap _ _ _⟩ .nil)⟩

def hallScreen : Screen :=
  { name := "Hall", title := "", isInitial := true
    layout := some { actions := [{ event := "back", navigate := some "Home" },
      { event := "on", api := some "next" }] } }

def hallReordered : Screen :=
  { hallScreen with
    layout := some { actions := [{ event := "on", api := some "next" },
      { event := "back", navigate := some "Home" }] } }

theorem hallScreen_reordered : hallScreen.Reordered hallReordered where
  same := rfl
  parameters := .refl _
  layout := .some ⟨rfl, .refl _, .refl _, .swap _ _ _⟩

/-- Two models of one name, and two screens of which one is initial. -/
def club : Application :=
  { name := "A", models := [person, { name := "Person" }]
    screens := [hallScreen, { name := "Bar", title := "" }] }

def clubReordered : Application :=
  { name := "A", models := [{ name := "Person" }, personReordered]
    screens := [{ name := "Bar", title := "" }, hallReordered] }

theorem club_reordered : club.Reordered clubReordered where
  same := rfl
  models := ⟨_, .swap _ _ _, .cons ⟨rfl, [], .nil, .nil⟩ (.cons person_reordered .nil)⟩
  screens := .inr ⟨by decide, _, .swap _ _ _,
    .cons ⟨rfl, .refl _, .none⟩ (.cons hallScreen_reordered .nil)⟩
  navigation := .none
  api := .none

theorem findings_reordered_club : club.Reordered clubReordered ∧
    club.findings.Perm clubReordered.findings ∧ club.findings ≠ clubReordered.findings :=
  ⟨club_reordered, findings_reordered club_reordered, by decide⟩

end Blueprint
