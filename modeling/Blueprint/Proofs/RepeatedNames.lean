import Blueprint.Proofs.Reordering
import Mathlib.Data.List.Induction
import Mathlib.Data.List.Sort

/-!
What validation finds about single names. A name is at fault if it is repeated where names have to be
distinct, or if it stands in braces in a path and no parameter declares it. `names_reported_once` says
that the findings about names are those of the scopes of an application, one scope after the other, and
that of each scope every name at fault is reported once, in the order in which they first occur.
-/
set_option autoImplicit false

namespace Blueprint

open Validation

/-! ## Listing names once -/

/-- A list of those names of a longer list that are wanted: each once, and in the order in which they
first occur there. -/
structure ListsOnce (wanted : String → Prop) (names listed : List String) : Prop where
  members : ∀ name, name ∈ listed ↔ name ∈ names ∧ wanted name
  once : listed.Nodup
  ordered : listed.Pairwise fun name later => names.idxOf name < names.idxOf later

theorem ListsOnce.unique {wanted : String → Prop} {names listed listed' : List String}
    (lists : ListsOnce wanted names listed) (lists' : ListsOnce wanted names listed') :
    listed = listed' := by
  have irreflexive : Std.Irrefl fun name later => names.idxOf name < names.idxOf later :=
    ⟨fun _ => Nat.lt_irrefl _⟩
  have antisymmetric : Std.Antisymm fun name later => names.idxOf name < names.idxOf later :=
    ⟨fun _ _ before after => absurd after (Nat.lt_asymm before)⟩
  refine lists.ordered.eq_of_mem_iff lists'.ordered fun name => ?_
  rw [lists.members, lists'.members]

/-- Reading one more name: it is added behind the others unless it occurred before. -/
theorem eraseDups_concat (names : List String) (name : String) :
    (names ++ [name]).eraseDups = names.eraseDups ++ if name ∈ names then [] else [name] := by
  rw [List.eraseDups_append, List.removeAll, List.filter_singleton]
  by_cases earlier : name ∈ names
  · simp [earlier]
  · simp [earlier, List.eraseDups_cons]

theorem eraseDups_ordered (names : List String) :
    names.eraseDups.Pairwise fun name later => names.idxOf name < names.idxOf later := by
  -- From the end: what was read before keeps its position, and a new name stands behind all of it.
  induction names using List.reverseRecOn with
  | nil => exact .nil
  | append_singleton names name ih =>
    rw [eraseDups_concat, List.pairwise_append]
    have kept : ∀ earlier ∈ names.eraseDups,
        (names ++ [name]).idxOf earlier = names.idxOf earlier := fun earlier member =>
      List.idxOf_append_of_mem (List.mem_eraseDups.mp member)
    refine ⟨?_, by split <;> simp, fun earlier member later added => ?_⟩
    · refine ih.imp_of_mem fun member member' before => ?_
      rwa [kept _ member, kept _ member']
    · split at added
      · contradiction
      · next fresh =>
        obtain rfl := List.mem_singleton.mp added
        have inside := List.idxOf_lt_length_iff.mpr (List.mem_eraseDups.mp member)
        rw [kept _ member, List.idxOf_append_of_notMem fresh]
        omega

/-- The wanted names among those without their repetitions are the ones listed once. -/
theorem listsOnce_filter {wanted : String → Prop} {test : String → Bool} (names : List String)
    (tells : ∀ name ∈ names, test name = true ↔ wanted name) :
    ListsOnce wanted names (names.eraseDups.filter test) := by
  refine ⟨fun name => ?_, (nodup_eraseDups names).filter test, (eraseDups_ordered names).filter test⟩
  rw [List.mem_filter, List.mem_eraseDups]
  exact and_congr_right (tells name)

theorem listsOnce_duplicates (names : List String) :
    ListsOnce (fun name => 2 ≤ names.count name) names (duplicates names) :=
  listsOnce_filter names fun _ _ => decide_eq_true_iff

example : duplicates ["open", "closed", "held", "closed", "open", "open"] = ["open", "closed"] := by
  decide

/-! ## Scopes -/

/-- Where names stand that are looked at together: those that have to be distinct, and the placeholders
of a path. -/
inductive NameScope where
  | models (app : Application)
  | properties (model : Model)
  | enumValues (model : Model) (property : Property)
  | screens (app : Application)
  | parameters (owner : ParameterOwner) (parameters : List Parameter)
  | formFields (screen : Screen) (layout : Layout)
  | endpoints (api : Api)
  | placeholders (endpoint : Endpoint)

namespace NameScope

/-- The names of a scope in order, as often as they stand there. -/
def names : NameScope → List String
  | .models app => app.models.map Model.name
  | .properties model => model.properties.map Property.name
  | .enumValues _ property => property.enumValues
  | .screens app => app.screens.map Screen.name
  | .parameters _ declared => declared.map Parameter.name
  | .formFields _ layout => layout.fields.map FormField.name
  | .endpoints api => api.endpoints.map Endpoint.id
  | .placeholders endpoint => endpoint.pathParameters

/-- What is found about a name at fault. -/
def report : NameScope → String → Finding
  | .models _ => .duplicateModel
  | .properties model => .duplicateProperty model.name
  | .enumValues model property => .duplicateEnumValue model.name property.name
  | .screens _ => .duplicateScreen
  | .parameters owner _ => .duplicateParameter owner
  | .formFields screen _ => .duplicateFormField screen.name
  | .endpoints _ => .duplicateEndpoint
  | .placeholders endpoint => .undeclaredPathParameter endpoint.id

/-- A placeholder is at fault if no parameter has its name, any other name if it occurs at least
twice. -/
def AtFault : NameScope → String → Prop
  | .placeholders endpoint, name => ∀ parameter ∈ endpoint.parameters, parameter.name ≠ name
  | scope, name => 2 ≤ scope.names.count name

/-- The names that validation reports of a scope. -/
def listed : NameScope → List String
  | .placeholders endpoint =>
    endpoint.pathParameters.eraseDups.filter fun name =>
      !(endpoint.parameters.map Parameter.name).contains name
  | scope => duplicates scope.names

def findings (scope : NameScope) : List Finding := scope.listed.map scope.report

theorem listsOnce_listed (scope : NameScope) :
    ListsOnce scope.AtFault scope.names scope.listed := by
  cases scope with
  | placeholders endpoint =>
    refine listsOnce_filter _ fun name _ => ?_
    simp [AtFault]
  | _ => exact listsOnce_duplicates _

/-- A scope without names has nothing to report. -/
theorem findings_eq_nil (scope : NameScope) (empty : scope.names = []) : scope.findings = [] := by
  have none : ∀ name, name ∉ scope.listed := fun name member => by
    have inside := ((listsOnce_listed scope).members name).mp member
    rw [empty] at inside
    exact nomatch inside.1
  rw [findings, List.eq_nil_iff_forall_not_mem.mpr none, List.map_nil]

/-- What is written before and behind a name at fault. -/
def wording : NameScope → String × String
  | .models _ => ("Duplicate model name '", "'.")
  | .properties model => ("Duplicate property '", s!"' in model '{model.name}'.")
  | .enumValues model property =>
    (s!"Property '{model.name}.{property.name}' has duplicate enum value '", "'.")
  | .screens _ => ("Duplicate screen name '", "'.")
  | .parameters owner _ => ("Duplicate parameter '", s!"' in {owner.label}.")
  | .formFields screen _ => ("Duplicate form field '", s!"' in screen '{screen.name}'.")
  | .endpoints _ => ("Duplicate endpoint id '", "'.")
  | .placeholders endpoint =>
    ("Path parameter '", s!"' not defined in the parameters of endpoint '{endpoint.id}'.")

theorem append_around (front between inner back : String) :
    front ++ between ++ inner ++ back = front ++ (between ++ inner ++ back) := by
  rw [String.append_assoc, String.append_assoc, String.append_assoc]

theorem message_report (scope : NameScope) (name : String) :
    (scope.report name).message = scope.wording.1 ++ name ++ scope.wording.2 := by
  cases scope with
  | models | enumValues | screens | endpoints => rfl
  -- The owner is named behind the name, inside the text that follows it.
  | properties | parameters | formFields | placeholders => exact append_around ..

end NameScope

/-- The scopes of a model: its properties, and the values of each. -/
def Model.nameScopes (model : Model) : List NameScope :=
  .properties model :: model.properties.map (.enumValues model)

/-- The scopes of a screen: its parameters, and the fields of its layout if that is a form. -/
def Screen.nameScopes (screen : Screen) : List NameScope :=
  .parameters (.screen screen.name) screen.parameters ::
    match screen.layout with
    | none => []
    | some layout => if layout.kind = .form then [.formFields screen layout] else []

def Endpoint.nameScopes (endpoint : Endpoint) : List NameScope :=
  [.parameters (.endpoint endpoint.id) endpoint.parameters, .placeholders endpoint]

def Api.nameScopes (api : Api) : List NameScope :=
  .endpoints api :: api.endpoints.flatMap Endpoint.nameScopes

/-- All scopes of an application, in the order in which they are reported. -/
def Application.nameScopes (app : Application) : List NameScope :=
  (.models app :: app.models.flatMap Model.nameScopes)
    ++ (.screens app :: app.screens.flatMap Screen.nameScopes)
    ++ match app.api with
      | none => []
      | some api => api.nameScopes

/-! ## Findings about names -/

/-- A finding that a name is repeated, or that a placeholder is not declared. -/
def Finding.isNameFault : Finding → Bool
  | .duplicateModel _ | .duplicateProperty _ _ | .duplicateEnumValue _ _ _ | .duplicateParameter _ _
  | .duplicateScreen _ | .duplicateFormField _ _ | .duplicateEndpoint _
  | .undeclaredPathParameter _ _ => true
  | _ => false

/-- The findings of a list that are about names at fault. -/
def nameFaults (findings : List Finding) : List Finding := findings.filter Finding.isNameFault

theorem nameFaults_append (findings more : List Finding) :
    nameFaults (findings ++ more) = nameFaults findings ++ nameFaults more :=
  List.filter_append findings more

theorem nameFaults_leading {other : List Finding} (others : nameFaults other = [])
    (findings : List Finding) : nameFaults (other ++ findings) = nameFaults findings := by
  rw [nameFaults_append, others, List.nil_append]

theorem nameFaults_trailing (findings : List Finding) {other : List Finding}
    (others : nameFaults other = []) : nameFaults (findings ++ other) = nameFaults findings := by
  rw [nameFaults_append, others, List.append_nil]

/-- A rule that reports something else. -/
theorem nameFaults_when {condition : Bool} {finding : Finding}
    (other : finding.isNameFault = false) : nameFaults (when condition finding) = [] := by
  cases condition <;> simp [when, nameFaults, other]

/-- A rule that is about some scopes of each item. -/
theorem nameFaults_flatMap {α : Type} {items : List α} {rule : α → List Finding}
    {scopes : α → List NameScope}
    (each : ∀ item, nameFaults (rule item) = (scopes item).flatMap NameScope.findings) :
    nameFaults (items.flatMap rule) = (items.flatMap scopes).flatMap NameScope.findings := by
  rw [nameFaults, List.filter_flatMap, List.flatMap_assoc]
  exact List.flatMap_congr fun item _ => each item

/-- A rule that reports something else of each item. -/
theorem nameFaults_flatMap_nil {α : Type} {items : List α} {rule : α → List Finding}
    (each : ∀ item, nameFaults (rule item) = []) : nameFaults (items.flatMap rule) = [] := by
  rw [nameFaults, List.filter_flatMap, List.flatMap_eq_nil_iff]
  exact fun item _ => each item

theorem nameFaults_findings (scope : NameScope) : nameFaults scope.findings = scope.findings := by
  refine List.filter_eq_self.mpr fun finding found => ?_
  obtain ⟨name, -, rfl⟩ := List.mem_map.mp found
  cases scope <;> rfl

/-! ## Models -/

theorem nameFaults_enumFindings (model : Model) (property : Property) :
    nameFaults (enumFindings model property) = (NameScope.enumValues model property).findings := by
  unfold enumFindings
  by_cases empty : property.enumValues = []
  · rw [if_pos (List.isEmpty_iff.mpr empty),
      NameScope.findings_eq_nil (.enumValues model property) empty]
    rfl
  · rw [if_neg (mt List.isEmpty_iff.mp empty)]
    refine (nameFaults_trailing _ ?_).trans ?_
    · cases property.defaultValue with
      | none => rfl
      | some value => exact nameFaults_when rfl
    · rw [nameFaults_leading (nameFaults_when rfl)]
      exact nameFaults_findings (.enumValues model property)

theorem nameFaults_propertyFindings (model : Model) (property : Property) :
    nameFaults (propertyFindings model property) =
      [NameScope.enumValues model property].flatMap NameScope.findings := by
  rw [propertyFindings, nameFaults_trailing _ (nameFaults_when rfl),
    nameFaults_leading (nameFaults_when rfl), nameFaults_enumFindings, List.flatMap_singleton]

theorem nameFaults_modelFindings (model : Model) :
    nameFaults (modelFindings model) = model.nameScopes.flatMap NameScope.findings := by
  rw [modelFindings, nameFaults_leading (nameFaults_when rfl), Model.nameScopes, List.flatMap_cons,
    List.map_eq_flatMap (f := NameScope.enumValues model)]
  by_cases empty : model.properties = []
  · have none : (NameScope.properties model).names = [] := by
      rw [NameScope.names, empty, List.map_nil]
    rw [if_pos (List.isEmpty_iff.mpr empty), NameScope.findings_eq_nil _ none, empty]
    rfl
  · rw [if_neg (mt List.isEmpty_iff.mp empty), nameFaults_append,
      nameFaults_leading (nameFaults_when rfl),
      nameFaults_flatMap (nameFaults_propertyFindings model)]
    exact congrArg (· ++ _) (nameFaults_findings (.properties model))

theorem nameFaults_modelsFindings (app : Application) :
    nameFaults (modelsFindings app.models) =
      (NameScope.models app :: app.models.flatMap Model.nameScopes).flatMap NameScope.findings := by
  rw [modelsFindings, nameFaults_append, nameFaults_flatMap nameFaults_modelFindings,
    List.flatMap_cons]
  exact congrArg (· ++ _) (nameFaults_findings (.models app))

/-! ## Screens and navigation -/

theorem nameFaults_parameterFindings (owner : ParameterOwner) (parameters : List Parameter) :
    nameFaults (parameterFindings owner parameters) =
      (NameScope.parameters owner parameters).findings := by
  rw [parameterFindings,
    nameFaults_trailing _ (nameFaults_flatMap_nil fun _ => nameFaults_when rfl)]
  exact nameFaults_findings (.parameters owner parameters)

theorem nameFaults_layoutFindings (screen : Screen) (layout : Layout) :
    nameFaults (layoutFindings screen layout) =
      (if layout.kind = .form then [NameScope.formFields screen layout] else []).flatMap
        NameScope.findings := by
  rw [layoutFindings, nameFaults_trailing _ (nameFaults_when rfl)]
  by_cases form : layout.kind = .form
  · rw [if_pos (beq_iff_eq.mpr form), if_pos form, List.append_assoc,
      nameFaults_leading (nameFaults_when rfl), nameFaults_leading (nameFaults_when rfl),
      List.flatMap_singleton]
    exact nameFaults_findings (.formFields screen layout)
  · rw [if_neg (mt beq_iff_eq.mp form), if_neg form, nameFaults_when rfl, List.flatMap_nil]

section Declared

variable (screens endpoints models : List String)

theorem nameFaults_actionFindings (screen : Screen) (action : Action) :
    nameFaults (actionFindings screens endpoints screen action) = [] := by
  refine (nameFaults_leading ?_ _).trans ?_
  · cases action.navigate with
    | none => rfl
    | some target => exact nameFaults_when rfl
  · cases action.api with
    | none => rfl
    | some endpoint => exact nameFaults_when rfl

theorem nameFaults_componentFindings (screen : Screen) (component : Component) :
    nameFaults (componentFindings screens screen component) = [] :=
  nameFaults_flatMap_nil fun _ => nameFaults_when rfl

theorem nameFaults_screenFindings (screen : Screen) :
    nameFaults (screenFindings screens endpoints screen) =
      screen.nameScopes.flatMap NameScope.findings := by
  rw [screenFindings, nameFaults_append, nameFaults_parameterFindings, Screen.nameScopes,
    List.flatMap_cons]
  refine congrArg _ ?_
  cases screen.layout with
  | none => rfl
  | some layout =>
    dsimp only
    rw [nameFaults_trailing _ (nameFaults_flatMap_nil (nameFaults_componentFindings screens screen)),
      nameFaults_trailing _
        (nameFaults_flatMap_nil (nameFaults_actionFindings screens endpoints screen)),
      nameFaults_layoutFindings]

theorem nameFaults_navigationFindings (navigation : Navigation) :
    nameFaults (navigationFindings screens navigation) = [] := by
  rw [navigationFindings, nameFaults_trailing _ (nameFaults_when rfl),
    nameFaults_leading (nameFaults_when rfl), nameFaults_flatMap_nil fun _ => nameFaults_when rfl]

/-! ## The interface -/

theorem nameFaults_methodFindings (endpoint : Endpoint) :
    nameFaults (methodFindings endpoint) = [] := by
  rw [methodFindings]
  cases HttpMethod.ofName? endpoint.method with
  | none => rfl
  | some method =>
    dsimp only
    rw [nameFaults_trailing _ (nameFaults_when rfl), nameFaults_trailing _ (nameFaults_when rfl),
      nameFaults_when rfl]

theorem flatMap_when (condition : String → Bool) (report : String → Finding) (names : List String) :
    (names.flatMap fun name => when (condition name) (report name)) =
      (names.filter condition).map report := by
  induction names with
  | nil => rfl
  | cons name names ih =>
    rw [List.flatMap_cons, ih, when, List.filter_cons]
    split <;> rfl

theorem nameFaults_endpointFindings (endpoint : Endpoint) :
    nameFaults (endpointFindings models endpoint) =
      endpoint.nameScopes.flatMap NameScope.findings := by
  refine (nameFaults_trailing _ ?response).trans <| (nameFaults_trailing _ ?body).trans <|
    (nameFaults_trailing _ (nameFaults_methodFindings endpoint)).trans ?names
  case response =>
    cases endpoint.response with
    | none => rfl
    | some response => exact nameFaults_when rfl
  case body =>
    cases endpoint.body with
    | none => rfl
    | some body => exact nameFaults_when rfl
  case names =>
    rw [nameFaults_append, nameFaults_parameterFindings, flatMap_when, Endpoint.nameScopes,
      List.flatMap_cons, List.flatMap_singleton]
    exact congrArg _ (nameFaults_findings (.placeholders endpoint))

theorem nameFaults_apiFindings (api : Api) :
    nameFaults (apiFindings models api) = api.nameScopes.flatMap NameScope.findings := by
  rw [apiFindings, nameFaults_append, nameFaults_leading (nameFaults_when rfl),
    nameFaults_flatMap (nameFaults_endpointFindings models), Api.nameScopes, List.flatMap_cons]
  exact congrArg (· ++ _) (nameFaults_findings (.endpoints api))

end Declared

/-! ## All rules -/

theorem nameFaults_sectionFindings (app : Application) : nameFaults (sectionFindings app) = [] := by
  rw [sectionFindings, nameFaults_trailing _ (nameFaults_when rfl),
    nameFaults_trailing _ (nameFaults_when rfl), nameFaults_trailing _ (nameFaults_when rfl),
    nameFaults_when rfl]

theorem nameFaults_initialScreenFindings (app : Application) :
    nameFaults (initialScreenFindings app) = [] := by
  rw [initialScreenFindings]
  split
  · rfl
  · split <;> rfl

theorem nameFaults_screensFindings (app : Application) :
    nameFaults (screensFindings app) =
      (NameScope.screens app :: app.screens.flatMap Screen.nameScopes).flatMap
        NameScope.findings := by
  rw [screensFindings, nameFaults_append, nameFaults_flatMap (nameFaults_screenFindings _ _),
    List.flatMap_cons]
  exact congrArg (· ++ _) (nameFaults_findings (.screens app))

theorem nameFaults_applicationFindings (app : Application) :
    nameFaults app.findings = app.nameScopes.flatMap NameScope.findings := by
  have first : nameFaults (sectionFindings app ++ initialScreenFindings app) = [] := by
    rw [nameFaults_leading (nameFaults_sectionFindings app), nameFaults_initialScreenFindings]
  rw [Application.findings, nameFaults_append, Application.nameScopes, List.flatMap_append]
  refine congrArg₂ _ ((nameFaults_trailing _ ?navigation).trans ?names) ?api
  case navigation =>
    cases app.navigation with
    | none => rfl
    | some navigation => exact nameFaults_navigationFindings _ navigation
  case names =>
    rw [nameFaults_append, nameFaults_leading first, nameFaults_modelsFindings,
      nameFaults_screensFindings, List.flatMap_append]
  case api =>
    cases app.api with
    | none => rfl
    | some api => exact nameFaults_apiFindings _ api

/-- Validation reports each name at fault once in its scope. The findings about repeated names and
undeclared placeholders are those of the scopes of an application, one scope after the other. Of each
scope there are listed exactly the names at fault in it, each once and in the order in which they first
occur there; and every finding tells its name. -/
theorem names_reported_once (app : Application) :
    ∃ listed : NameScope → List String,
      (∀ scope names, ListsOnce scope.AtFault scope.names names ↔ names = listed scope) ∧
      (app.findings.filter Finding.isNameFault =
        app.nameScopes.flatMap fun scope => (listed scope).map scope.report) ∧
      ∀ scope name, (NameScope.report scope name).message =
        scope.wording.1 ++ name ++ scope.wording.2 := by
  refine ⟨NameScope.listed, fun scope names => ⟨fun lists => ?_, fun same => ?_⟩,
    nameFaults_applicationFindings app, NameScope.message_report⟩
  · exact lists.unique scope.listsOnce_listed
  · rw [same]
    exact scope.listsOnce_listed

end Blueprint
