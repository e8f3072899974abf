import Blueprint.Proofs.SourceFiles
import Blueprint.Viewer

/-!
The identifiers on the page of an application. Only the cards of models and screens have one; those of
the two kinds differ in their first letter, so that identifiers repeat exactly where names do.
-/
set_option autoImplicit false

namespace Blueprint

namespace Element

mutual

/-- The identifiers of an element and of all elements inside it, in the order of the tree. -/
def ids : Element → List String
  | .element _ _ id _ content => id.toList ++ contentIds content

def contentIds : ElementContent Element → List String
  | .empty => []
  | .text _ => []
  | .one inner => ids inner
  | .several elements => idsOfAll elements

def idsOfAll : List Element → List String
  | [] => []
  | first :: rest => ids first ++ idsOfAll rest

end

theorem idsOfAll_eq_flatMap (elements : List Element) : idsOfAll elements = elements.flatMap ids := by
  induction elements with
  | nil => rfl
  | cons first rest ih => rw [idsOfAll, ih, List.flatMap_cons]

theorem ids_ofText (tag text : String) : (ofText tag text).ids = [] := by
  rw [ofText, plain, ids, contentIds]
  rfl

theorem ids_muted (text : String) : (muted text).ids = [] := by
  rw [muted, ids, contentIds]
  rfl

theorem ids_group (tag : String) (elements : List Element) :
    (group tag elements).ids = elements.flatMap ids := by
  rw [group, plain, ids, contentIds, idsOfAll_eq_flatMap]
  rfl

theorem ids_identified (tag id : String) (elements : List Element) :
    (identified tag id elements).ids = id :: elements.flatMap ids := by
  rw [identified, ids, contentIds, idsOfAll_eq_flatMap]
  rfl

end Element

namespace Viewer

open Element

/-- Elements that are made of some entities and have no identifiers. -/
theorem ids_none {α : Type} {make : α → Element} (each : ∀ entity, (make entity).ids = [])
    (entities : List α) : (entities.map make).flatMap ids = [] := by
  rw [List.flatMap_map, List.flatMap_eq_nil_iff]
  exact fun entity _ => each entity

/-- Cards that are made of some entities and have one identifier each. -/
theorem ids_cards {α : Type} {make : α → Element} {id : α → String}
    (each : ∀ entity, (make entity).ids = [id entity]) (entities : List α) :
    (entities.map make).flatMap ids = entities.map id := by
  rw [List.flatMap_map, List.map_eq_flatMap]
  exact List.flatMap_congr fun entity _ => each entity

/-- The remark of an empty section has no identifier. -/
theorem ids_titledSection (heading : String) (elements : List Element) (remark : String) :
    (titledSection heading elements remark).ids = elements.flatMap ids := by
  rw [titledSection, ids_group, List.flatMap_cons, ids_ofText, List.nil_append]
  split
  · next empty => rw [List.isEmpty_iff.mp empty, List.flatMap_singleton, ids_muted, List.flatMap_nil]
  · rfl

theorem ids_propertyRow (property : Property) : (propertyRow property).ids = [] := by
  simp [propertyRow, ids_group, ids_ofText]

theorem ids_modelCard (model : Model) : (modelCard model).ids = ["model-" ++ model.name] := by
  have rows := ids_none ids_propertyRow model.properties
  rw [modelCard, ids_identified]
  simp [ids_group, ids_ofText, rows, toString]

theorem ids_screenCard (screen : Screen) : (screenCard screen).ids = ["screen-" ++ screen.name] := by
  rw [screenCard, ids_identified]
  simp [ids_ofText, ids_muted, toString]

theorem ids_navigationSection (navigation : Option Navigation) :
    (navigationSection navigation).ids = [] := by
  cases navigation with
  | none => exact ids_titledSection ..
  | some navigation =>
    have items := ids_none (fun item : NavItem => ids_ofText "Li" s!"{item.caption} → {item.screen}")
      navigation.items
    simp [navigationSection, ids_titledSection, ids_group, ids_ofText, items]

theorem ids_endpointItem (endpoint : Endpoint) : (endpointItem endpoint).ids = [] := by
  rw [endpointItem, ids, contentIds, ids_ofText]
  rfl

theorem ids_apiSection (api : Option Api) : (apiSection api).ids = [] := by
  cases api with
  | none => exact ids_titledSection ..
  | some api =>
    have items := ids_none ids_endpointItem api.endpoints
    simp [apiSection, ids_titledSection, ids_group, ids_ofText, items]

theorem ids_page (app : Application) : (page app).ids =
    (app.models.map fun model => "model-" ++ model.name) ++
      app.screens.map fun screen => "screen-" ++ screen.name := by
  have models := ids_cards ids_modelCard app.models
  have screens := ids_cards ids_screenCard app.screens
  have line : (plain "Hr" .empty).ids = [] := by
    rw [plain, ids, contentIds]
    rfl
  rw [page, ids, contentIds, idsOfAll_eq_flatMap]
  simp [ids_ofText, ids_muted, line, ids_titledSection, ids_navigationSection, ids_apiSection,
    models, screens]

end Viewer

/-- Names in front of which the same text stands repeat where the names do. -/
theorem nodup_prefixed {α : Type} {name : α → String} (front : String) {entities : List α} :
    (entities.map fun entity => front ++ name entity).Nodup ↔ (entities.map name).Nodup := by
  have injective : Function.Injective fun text => front ++ text :=
    fun text other same => (String.append_right_inj front).mp same
  have mapped := List.nodup_map_iff injective (l := entities.map name)
  rwa [List.map_map] at mapped

/-- The identifiers on the page of an application are those of its models and those of its screens, in
order, and no others. They are distinct exactly if the models have distinct names and the screens
have; in an application without errors they are. -/
theorem page_ids (app : Application) :
    (Viewer.page app).ids = (app.models.map fun model => "model-" ++ model.name) ++
        (app.screens.map fun screen => "screen-" ++ screen.name) ∧
      ((Viewer.page app).ids.Nodup ↔
        (app.models.map Model.name).Nodup ∧ (app.screens.map Screen.name).Nodup) ∧
      (app.hasErrors = false → (Viewer.page app).ids.Nodup) := by
  have apart : ∀ id ∈ app.models.map fun model => "model-" ++ model.name,
      ∀ other ∈ app.screens.map fun screen => "screen-" ++ screen.name, id ≠ other := by
    intro id isModel other isScreen same
    obtain ⟨model, -, rfl⟩ := List.mem_map.mp isModel
    obtain ⟨screen, -, rfl⟩ := List.mem_map.mp isScreen
    -- Whatever the names are, the identifiers begin with different letters.
    have letters := congrArg (fun text => text.toList.head?) same
    simp at letters
  have distinct : (Viewer.page app).ids.Nodup ↔
      (app.models.map Model.name).Nodup ∧ (app.screens.map Screen.name).Nodup := by
    rw [Viewer.ids_page, List.nodup_append, nodup_prefixed, nodup_prefixed]
    exact ⟨fun ⟨models, screens, _⟩ => ⟨models, screens⟩,
      fun ⟨models, screens⟩ => ⟨models, screens, apart⟩⟩
  exact ⟨Viewer.ids_page app, distinct,
    fun errorless => distinct.mpr (Application.distinct_of_errorless errorless)⟩

/-- An application with a model and a screen of the same name. -/
def foyer : Application :=
  { name := "Foyer", version := "1"
    models := [⟨"Hall", [{ name := "id", type := ⟨"string", false⟩ }]⟩]
    screens := [{ name := "Hall", title := "h", isInitial := true, layout := some {} }] }

theorem page_ids_foyer : foyer.hasErrors = false ∧
    (Viewer.page foyer).ids = ["model-Hall", "screen-Hall"] ∧ (Viewer.page foyer).ids.Nodup := by
  have errorless : foyer.hasErrors = false := by decide
  obtain ⟨ids, -, distinct⟩ := page_ids foyer
  exact ⟨errorless, ids, distinct errorless⟩

end Blueprint
