import Blueprint.Validation.Rules

/-!
What an application without errors is. `ValidApplication` says it of the application alone: which
names are distinct, which types are known and which references are declared. `hasErrors_eq_false_iff`
says that validation finds no error in exactly these applications.
-/
set_option autoImplicit false

namespace Blueprint

open Validation

/-! ## Applications without errors -/

def KnownType (type : TypeRef) : Prop :=
  ∃ primitive : DataType, primitive.name = type.name

/-- Parameters with distinct names and known types. -/
structure ValidParameters (parameters : List Parameter) : Prop where
  distinct : (parameters.map Parameter.name).Nodup
  known : ∀ parameter ∈ parameters, KnownType parameter.type

/-- An enumeration: a property of texts whose values are distinct and hold the default. -/
structure ValidEnumeration (property : Property) : Prop where
  texts : property.type.name = DataType.string.name
  distinct : property.enumValues.Nodup
  holdsDefault : ∀ value, property.defaultValue = some value → value ∈ property.enumValues

structure ValidProperty (property : Property) : Prop where
  known : KnownType property.type
  enumeration : property.enumValues ≠ [] → ValidEnumeration property

structure ValidModel (model : Model) : Prop where
  nonempty : model.properties ≠ []
  distinct : (model.properties.map Property.name).Nodup
  properties : ∀ property ∈ model.properties, ValidProperty property

def DeclaresScreen (app : Application) (name : String) : Prop :=
  ∃ screen ∈ app.screens, screen.name = name

def DeclaresEndpoint (app : Application) (id : String) : Prop :=
  ∃ api, app.api = some api ∧ ∃ endpoint ∈ api.endpoints, endpoint.id = id

def DeclaresModel (app : Application) (name : String) : Prop :=
  ∃ model ∈ app.models, model.name = name

/-- A text is stored under the key `navigate` somewhere in a value. -/
inductive NavigatesTo (target : String) : Value → Prop where
  | here {fields : List (String × Value)} (stored : ("navigate", .text target) ∈ fields) :
    NavigatesTo target (.object fields)
  | field {fields : List (String × Value)} {key : String} {content : Value}
    (member : (key, content) ∈ fields) (deeper : NavigatesTo target content) :
    NavigatesTo target (.object fields)
  | item {items : List Value} {item : Value} (member : item ∈ items)
    (deeper : NavigatesTo target item) : NavigatesTo target (.list items)

structure ValidAction (app : Application) (action : Action) : Prop where
  navigate : ∀ target, action.navigate = some target → DeclaresScreen app target
  api : ∀ endpoint, action.api = some endpoint → DeclaresEndpoint app endpoint

structure ValidLayout (app : Application) (layout : Layout) : Prop where
  formFields : layout.kind = .form →
    layout.fields ≠ [] ∧ (layout.fields.map FormField.name).Nodup
  actions : ∀ action ∈ layout.actions, ValidAction app action
  components : ∀ component ∈ layout.components, ∀ target,
    NavigatesTo target (.object component.attributes) → DeclaresScreen app target

structure ValidScreen (app : Application) (screen : Screen) : Prop where
  parameters : ValidParameters screen.parameters
  layout : ∃ layout, screen.layout = some layout ∧ ValidLayout app layout

/-- A path has a placeholder with some characters inside: an opening brace that stands in no
placeholder is one together with the next closing brace. -/
inductive HasPlaceholder (inside : List Char) : List Char → Prop where
  | here {rest : List Char} (closed : Text.closeBrace ∉ inside) :
    HasPlaceholder inside (Text.openBrace :: (inside ++ Text.closeBrace :: rest))
  | afterPlain {c : Char} {rest : List Char} (plain : c ≠ Text.openBrace)
    (later : HasPlaceholder inside rest) : HasPlaceholder inside (c :: rest)
  | afterOther {other rest : List Char} (closed : Text.closeBrace ∉ other)
    (later : HasPlaceholder inside rest) :
    HasPlaceholder inside (Text.openBrace :: (other ++ Text.closeBrace :: rest))

structure ValidEndpoint (app : Application) (endpoint : Endpoint) : Prop where
  parameters : ValidParameters endpoint.parameters
  placeholders : ∀ inside, HasPlaceholder inside endpoint.path.toList →
    ∃ parameter ∈ endpoint.parameters, parameter.name = String.ofList (Text.trimChars inside)
  method : ∃ method : HttpMethod, method.name = endpoint.method
  body : ∀ model, endpoint.body = some model → DeclaresModel app model

structure ValidApi (app : Application) (api : Api) : Prop where
  distinct : (api.endpoints.map Endpoint.id).Nodup
  endpoints : ∀ endpoint ∈ api.endpoints, ValidEndpoint app endpoint

/-- Screens of which exactly one is initial, unless there is none. -/
def OneInitial (screens : List Screen) : Prop :=
  screens = [] ∨ screens.countP Screen.isInitial = 1

structure ValidApplication (app : Application) : Prop where
  initial : OneInitial app.screens
  modelsDistinct : (app.models.map Model.name).Nodup
  models : ∀ model ∈ app.models, ValidModel model
  screensDistinct : (app.screens.map Screen.name).Nodup
  screens : ∀ screen ∈ app.screens, ValidScreen app screen
  navigation : ∀ navigation, app.navigation = some navigation →
    ∀ item ∈ navigation.items, DeclaresScreen app item.screen
  api : ∀ api, app.api = some api → ValidApi app api

/-! ## Findings without errors -/

/-- No finding of a list is an error. -/
def Errorless (findings : List Finding) : Prop :=
  ∀ finding ∈ findings, finding.isError = false

theorem errorless_append {findings more : List Finding} :
    Errorless (findings ++ more) ↔ Errorless findings ∧ Errorless more := by
  simp only [Errorless, List.mem_append, or_imp, forall_and]

theorem errorless_nil : Errorless [] := by
  simp [Errorless]

theorem errorless_singleton {finding : Finding} :
    Errorless [finding] ↔ finding.isError = false := by
  simp [Errorless]

theorem errorless_flatMap {α : Type} {items : List α} {rule : α → List Finding} :
    Errorless (items.flatMap rule) ↔ ∀ item ∈ items, Errorless (rule item) := by
  simp only [Errorless, List.mem_flatMap]
  constructor
  · intro all item member finding found
    exact all finding ⟨item, member, found⟩
  · rintro all finding ⟨item, member, found⟩
    exact all item member finding found

/-- A rule that reports an error when a condition holds. -/
theorem errorless_when_error {condition : Bool} {finding : Finding} (error : finding.isError = true) :
    Errorless (when condition finding) ↔ condition = false := by
  cases condition <;> simp [when, Errorless, error]

theorem errorless_when_warning {condition : Bool} {finding : Finding}
    (warning : finding.isError = false) : Errorless (when condition finding) := by
  cases condition <;> simp [when, Errorless, warning]

theorem duplicates_eq_nil_iff {names : List String} : duplicates names = [] ↔ names.Nodup := by
  rw [duplicates, List.filter_eq_nil_iff, List.nodup_iff_count]
  constructor
  · intro single name
    by_cases member : name ∈ names
    · have once := single name (List.mem_eraseDups.mpr member)
      simpa using once
    · rw [List.count_eq_zero_of_not_mem member]
      exact Nat.zero_le 1
  · intro once name _
    simpa using once name

/-- A rule that reports an error for each repeated name. -/
theorem errorless_duplicates {names : List String} {report : String → Finding}
    (error : ∀ name, (report name).isError = true) :
    Errorless ((duplicates names).map report) ↔ names.Nodup := by
  rw [← duplicates_eq_nil_iff]
  cases duplicates names with
  | nil => simp [Errorless]
  | cons name rest => simp [Errorless, error]

/-! ## The rules one by one -/

theorem isUnknownType_eq_false_iff {type : TypeRef} : isUnknownType type = false ↔ KnownType type := by
  rw [isUnknownType, TypeRef.dataType?, DataType.ofName?]
  cases found : DataType.all.find? fun primitive => primitive.name == type.name with
  | none =>
    simp only [Option.isNone_none, Bool.true_eq_false, false_iff]
    rintro ⟨primitive, named⟩
    have absent := List.find?_eq_none.mp found primitive (by cases primitive <;> decide)
    simp [named] at absent
  | some primitive =>
    simp only [Option.isNone_some, true_iff]
    have named := List.find?_some found
    exact ⟨primitive, by simpa using named⟩

theorem dataType?_eq_string_iff {type : TypeRef} :
    type.dataType? = some .string ↔ type.name = DataType.string.name := by
  rw [TypeRef.dataType?, DataType.ofName?]
  constructor
  · intro found
    have named := List.find?_some found
    rw [beq_iff_eq] at named
    exact named.symm
  · intro named
    rw [named]
    rfl

theorem errorless_parameterFindings {owner : ParameterOwner} {parameters : List Parameter} :
    Errorless (parameterFindings owner parameters) ↔ ValidParameters parameters := by
  rw [parameterFindings, errorless_append, errorless_duplicates (fun _ => rfl), errorless_flatMap]
  constructor
  · rintro ⟨distinct, known⟩
    refine ⟨distinct, ?_⟩
    intro parameter member
    rw [← isUnknownType_eq_false_iff]
    exact (errorless_when_error rfl).mp (known parameter member)
  · rintro ⟨distinct, known⟩
    refine ⟨distinct, ?_⟩
    intro parameter member
    rw [errorless_when_error rfl, isUnknownType_eq_false_iff]
    exact known parameter member

theorem errorless_enumFindings {model : Model} {property : Property} :
    Errorless (enumFindings model property) ↔
      (property.enumValues ≠ [] → ValidEnumeration property) := by
  rw [enumFindings]
  by_cases empty : property.enumValues = []
  · have isEmpty : property.enumValues.isEmpty = true := by simpa using empty
    rw [if_pos isEmpty]
    exact iff_of_true errorless_nil (fun nonempty => absurd empty nonempty)
  · have nonempty : ¬ property.enumValues.isEmpty = true := by simpa using empty
    rw [if_neg nonempty, errorless_append, errorless_append, errorless_when_error rfl,
      errorless_duplicates (fun _ => rfl)]
    have texts : (property.type.dataType? != some .string) = false ↔
        property.type.name = DataType.string.name := by
      rw [bne_eq_false_iff_eq, dataType?_eq_string_iff]
    rw [texts]
    constructor
    · rintro ⟨⟨texts, distinct⟩, holds⟩ _
      refine ⟨texts, distinct, ?_⟩
      intro value isDefault
      rw [isDefault] at holds
      simpa using (errorless_when_error rfl).mp holds
    · intro valid
      obtain ⟨texts, distinct, holds⟩ := valid empty
      refine ⟨⟨texts, distinct⟩, ?_⟩
      cases isDefault : property.defaultValue with
      | none => exact errorless_nil
      | some value =>
        rw [errorless_when_error rfl]
        simpa using holds value isDefault

theorem errorless_propertyFindings {model : Model} {property : Property} :
    Errorless (propertyFindings model property) ↔ ValidProperty property := by
  rw [propertyFindings, errorless_append, errorless_append, errorless_when_error rfl,
    isUnknownType_eq_false_iff, errorless_enumFindings]
  constructor
  · rintro ⟨⟨known, enumeration⟩, _⟩
    exact ⟨known, enumeration⟩
  · rintro ⟨known, enumeration⟩
    exact ⟨⟨known, enumeration⟩, errorless_when_warning rfl⟩

theorem errorless_modelFindings {model : Model} :
    Errorless (modelFindings model) ↔ ValidModel model := by
  rw [modelFindings, errorless_append]
  have conventional : Errorless (when (!isPascalCase model.name)
      (.unconventionalModelName model.name)) := errorless_when_warning rfl
  by_cases empty : model.properties = []
  · have isEmpty : model.properties.isEmpty = true := by simpa using empty
    rw [if_pos isEmpty, errorless_singleton]
    constructor
    · rintro ⟨_, error⟩
      contradiction
    · intro valid
      exact absurd empty valid.nonempty
  · have nonempty : ¬ model.properties.isEmpty = true := by simpa using empty
    rw [if_neg nonempty, errorless_append, errorless_append, errorless_duplicates (fun _ => rfl),
      errorless_flatMap]
    constructor
    · rintro ⟨_, ⟨_, distinct⟩, all⟩
      refine ⟨empty, distinct, ?_⟩
      intro property member
      exact errorless_propertyFindings.mp (all property member)
    · rintro ⟨_, distinct, all⟩
      refine ⟨conventional, ⟨errorless_when_warning rfl, distinct⟩, ?_⟩
      intro property member
      exact errorless_propertyFindings.mpr (all property member)

/-! ## References -/

theorem contains_names_iff {α : Type} {items : List α} {name : α → String} {target : String} :
    (!(items.map name).contains target) = false ↔ ∃ item ∈ items, name item = target := by
  simp [List.mem_map]

theorem errorless_undeclared {α : Type} {items : List α} {name : α → String} {target : String}
    {finding : Finding} (error : finding.isError = true) :
    Errorless (when (!(items.map name).contains target) finding) ↔
      ∃ item ∈ items, name item = target := by
  rw [errorless_when_error error, contains_names_iff]

theorem exists_endpoint_iff {app : Application} {id : String} :
    (∃ endpoint ∈ app.endpoints, endpoint.id = id) ↔ DeclaresEndpoint app id := by
  unfold Application.endpoints DeclaresEndpoint
  cases app.api with
  | none => simp
  | some api => simp

theorem errorless_actionFindings {app : Application} {screen : Screen} {action : Action} :
    Errorless (actionFindings (app.screens.map Screen.name) (app.endpoints.map Endpoint.id) screen
      action) ↔ ValidAction app action := by
  rw [actionFindings, errorless_append]
  constructor
  · rintro ⟨screens, endpoints⟩
    refine ⟨?_, ?_⟩
    · intro target isTarget
      rw [isTarget] at screens
      exact (errorless_undeclared rfl).mp screens
    · intro endpoint isEndpoint
      rw [isEndpoint] at endpoints
      exact exists_endpoint_iff.mp ((errorless_undeclared rfl).mp endpoints)
  · intro valid
    refine ⟨?_, ?_⟩
    · cases isTarget : action.navigate with
      | none => exact errorless_nil
      | some target => exact (errorless_undeclared rfl).mpr (valid.navigate target isTarget)
    · cases isEndpoint : action.api with
      | none => exact errorless_nil
      | some endpoint =>
        exact (errorless_undeclared rfl).mpr (exists_endpoint_iff.mpr (valid.api endpoint isEndpoint))

/-- What one field of an object contributes to the targets. -/
def FieldNavigates (target : String) (entry : String × Value) : Prop :=
  entry = ("navigate", .text target) ∨ NavigatesTo target entry.2

theorem navigatesTo_object {target : String} {fields : List (String × Value)} :
    NavigatesTo target (.object fields) ↔ ∃ entry ∈ fields, FieldNavigates target entry := by
  constructor
  · intro navigates
    cases navigates with
    | here stored => exact ⟨_, stored, .inl rfl⟩
    | field member deeper => exact ⟨_, member, .inr deeper⟩
  · rintro ⟨entry, member, rfl | deeper⟩
    · exact .here member
    · exact .field member deeper

theorem navigatesTo_list {target : String} {items : List Value} :
    NavigatesTo target (.list items) ↔ ∃ item ∈ items, NavigatesTo target item := by
  constructor
  · intro navigates
    cases navigates with
    | item member deeper => exact ⟨_, member, deeper⟩
  · rintro ⟨item, member, deeper⟩
    exact .item member deeper

theorem not_navigatesTo_text {target text : String} : ¬ NavigatesTo target (.text text) := by
  intro navigates
  cases navigates

mutual

theorem mem_navigationTargets (target : String) :
    ∀ value : Value, target ∈ navigationTargets value ↔ NavigatesTo target value
  | .object fields => by
    rw [navigationTargets, mem_fieldTargets target fields, navigatesTo_object]
  | .list items => by
    rw [navigationTargets, mem_itemTargets target items, navigatesTo_list]
  | .null | .bool _ | .int _ | .float _ | .text _ => by
    simp only [navigationTargets, List.not_mem_nil, false_iff]
    intro navigates
    cases navigates

theorem mem_fieldTargets (target : String) :
    ∀ fields : List (String × Value),
      target ∈ fieldTargets fields ↔ ∃ entry ∈ fields, FieldNavigates target entry
  | [] => by simp [fieldTargets]
  | (key, content) :: rest => by
    unfold fieldTargets
    rw [List.mem_append, mem_fieldTargets target rest]
    simp only [List.mem_cons, exists_eq_or_imp]
    refine or_congr_left ?_
    have inside := mem_navigationTargets target content
    split
    · next text isKey =>
      rw [beq_iff_eq] at isKey
      simp [FieldNavigates, isKey, not_navigatesTo_text, eq_comm]
    · next isKey content other =>
      rw [inside]
      refine ⟨.inr, ?_⟩
      rintro (same | deeper)
      · simp only [Prod.mk.injEq] at same
        exact absurd same.2 (other target (by simp [same.1]))
      · exact deeper

theorem mem_itemTargets (target : String) :
    ∀ items : List Value, target ∈ itemTargets items ↔ ∃ item ∈ items, NavigatesTo target item
  | [] => by simp [itemTargets]
  | item :: rest => by
    rw [itemTargets, List.mem_append, mem_navigationTargets target item,
      mem_itemTargets target rest]
    simp only [List.mem_cons, exists_eq_or_imp]

end

theorem errorless_componentFindings {app : Application} {screen : Screen} {component : Component} :
    Errorless (componentFindings (app.screens.map Screen.name) screen component) ↔
      ∀ target, NavigatesTo target (.object component.attributes) → DeclaresScreen app target := by
  rw [componentFindings, errorless_flatMap]
  constructor
  · intro all target navigates
    rw [navigatesTo_object, ← mem_fieldTargets] at navigates
    exact (errorless_undeclared rfl).mp (all target navigates)
  · intro all target member
    rw [mem_fieldTargets, ← navigatesTo_object] at member
    exact (errorless_undeclared rfl).mpr (all target member)

/-! ## Screens and navigation -/

theorem errorless_layoutFindings {screen : Screen} {layout : Layout} :
    Errorless (layoutFindings screen layout) ↔
      (layout.kind = .form → layout.fields ≠ [] ∧ (layout.fields.map FormField.name).Nodup) := by
  rw [layoutFindings, errorless_append]
  have tabs : Errorless (when (layout.kind == .tabs && layout.components.length < 2)
      (.fewTabs screen.name)) := errorless_when_warning rfl
  by_cases form : layout.kind = .form
  · rw [if_pos (by rw [form]; rfl), errorless_append, errorless_append, errorless_when_error rfl,
      errorless_duplicates (fun _ => rfl)]
    have nonempty : layout.fields.isEmpty = false ↔ layout.fields ≠ [] := by
      rw [← Bool.not_eq_true, List.isEmpty_iff]
    rw [nonempty]
    constructor
    · rintro ⟨⟨⟨fields, _⟩, distinct⟩, _⟩ _
      exact ⟨fields, distinct⟩
    · intro valid
      obtain ⟨fields, distinct⟩ := valid form
      exact ⟨⟨⟨fields, errorless_when_warning rfl⟩, distinct⟩, tabs⟩
  · rw [if_neg (by simpa using form)]
    exact iff_of_true ⟨errorless_when_warning rfl, tabs⟩ (fun isForm => absurd isForm form)

theorem errorless_screenFindings {app : Application} {screen : Screen} :
    Errorless (screenFindings (app.screens.map Screen.name) (app.endpoints.map Endpoint.id) screen) ↔
      ValidScreen app screen := by
  rw [screenFindings, errorless_append, errorless_parameterFindings]
  cases declared : screen.layout with
  | none =>
    simp only [errorless_singleton]
    constructor
    · rintro ⟨_, error⟩
      contradiction
    · rintro ⟨_, layout, isLayout, _⟩
      rw [declared] at isLayout
      contradiction
  | some layout =>
    simp only [errorless_append, errorless_flatMap, errorless_layoutFindings,
      errorless_actionFindings, errorless_componentFindings]
    constructor
    · rintro ⟨parameters, ⟨formFields, actions⟩, components⟩
      exact ⟨parameters, layout, declared, formFields, actions, components⟩
    · rintro ⟨parameters, layout', isLayout, formFields, actions, components⟩
      rw [declared, Option.some.injEq] at isLayout
      subst isLayout
      exact ⟨parameters, ⟨formFields, actions⟩, components⟩

theorem errorless_initialScreenFindings {app : Application} :
    Errorless (initialScreenFindings app) ↔ OneInitial app.screens := by
  rw [initialScreenFindings, OneInitial, List.countP_eq_length_filter]
  by_cases none : app.screens = []
  · rw [if_pos (by simpa using none)]
    exact iff_of_true errorless_nil (.inl none)
  · rw [if_neg (by simpa using none)]
    cases app.screens.filter Screen.isInitial with
    | nil => simp [errorless_singleton, Finding.isError, Finding.severity, none]
    | cons first others =>
      cases others with
      | nil => simp [errorless_nil]
      | cons second others =>
        simp [errorless_singleton, Finding.isError, Finding.severity, none]

theorem errorless_navigationFindings {app : Application} {navigation : Navigation} :
    Errorless (navigationFindings (app.screens.map Screen.name) navigation) ↔
      ∀ item ∈ navigation.items, DeclaresScreen app item.screen := by
  rw [navigationFindings, errorless_append, errorless_append, errorless_flatMap]
  constructor
  · rintro ⟨⟨_, all⟩, _⟩ item member
    exact (errorless_undeclared rfl).mp (all item member)
  · intro all
    refine ⟨⟨errorless_when_warning rfl, ?_⟩, errorless_when_warning rfl⟩
    intro item member
    exact (errorless_undeclared rfl).mpr (all item member)

/-! ## The interface -/

theorem untilClose?_append {inside : List Char} (closed : Text.closeBrace ∉ inside)
    (rest : List Char) :
    Text.untilClose? (inside ++ Text.closeBrace :: rest) = some (inside, rest) := by
  induction inside with
  | nil => simp [Text.untilClose?]
  | cons c inside ih =>
    rw [List.mem_cons, not_or] at closed
    have other : (c == Text.closeBrace) = false := by
      rw [beq_eq_false_iff_ne]
      exact fun same => closed.1 same.symm
    rw [List.cons_append, Text.untilClose?, other, ih closed.2]
    rfl

theorem append_of_untilClose? {text inside rest : List Char}
    (found : Text.untilClose? text = some (inside, rest)) :
    Text.closeBrace ∉ inside ∧ text = inside ++ Text.closeBrace :: rest := by
  induction text generalizing inside with
  | nil => contradiction
  | cons c text ih =>
    rw [Text.untilClose?] at found
    by_cases isClose : c = Text.closeBrace
    · rw [if_pos (by simpa using isClose)] at found
      simp only [Option.some.injEq, Prod.mk.injEq] at found
      obtain ⟨rfl, rfl⟩ := found
      exact ⟨by simp, by rw [isClose]; rfl⟩
    · rw [if_neg (by simpa using isClose)] at found
      obtain ⟨⟨before, after⟩, call, same⟩ := Option.map_eq_some_iff.mp found
      simp only [Prod.mk.injEq] at same
      obtain ⟨rfl, rfl⟩ := same
      obtain ⟨closed, rfl⟩ := ih call
      exact ⟨by simp [closed, Ne.symm isClose], rfl⟩

theorem hasPlaceholder_of_mem {inside text : List Char} (member : inside ∈ Text.placeholders text) :
    HasPlaceholder inside text := by
  fun_induction Text.placeholders text with
  | case1 => contradiction
  | case2 => contradiction
  | case3 c rest isOpen first after found ih =>
    obtain ⟨closed, rfl⟩ := append_of_untilClose? found
    rw [beq_iff_eq] at isOpen
    subst isOpen
    rcases List.mem_cons.mp member with rfl | later
    · exact .here closed
    · exact .afterOther closed (ih later)
  | case4 c rest plain ih => exact .afterPlain (by simpa using plain) (ih member)

theorem placeholders_closed {inside rest : List Char} (closed : Text.closeBrace ∉ inside) :
    Text.placeholders (Text.openBrace :: (inside ++ Text.closeBrace :: rest)) =
      inside :: Text.placeholders rest := by
  have found := untilClose?_append closed rest
  rw [Text.placeholders, if_pos (by simp)]
  split
  · next none =>
    rw [found] at none
    contradiction
  · next first after some =>
    rw [found, Option.some.injEq, Prod.mk.injEq] at some
    rw [some.1, some.2]

/-- The placeholders that are listed are the ones that the path has. -/
theorem mem_placeholders {inside text : List Char} :
    inside ∈ Text.placeholders text ↔ HasPlaceholder inside text := by
  refine ⟨hasPlaceholder_of_mem, ?_⟩
  intro has
  induction has with
  | here closed =>
    rw [placeholders_closed closed]
    exact List.mem_cons_self
  | afterPlain plain _ ih =>
    rw [Text.placeholders, if_neg (by simpa using plain)]
    exact ih
  | afterOther closed _ ih =>
    rw [placeholders_closed closed]
    exact List.mem_cons_of_mem _ ih

theorem errorless_placeholderFindings {endpoint : Endpoint} :
    Errorless (endpoint.pathParameters.eraseDups.flatMap fun name =>
      when (!(endpoint.parameters.map Parameter.name).contains name)
        (.undeclaredPathParameter endpoint.id name)) ↔
      ∀ inside, HasPlaceholder inside endpoint.path.toList →
        ∃ parameter ∈ endpoint.parameters,
          parameter.name = String.ofList (Text.trimChars inside) := by
  rw [errorless_flatMap]
  simp only [List.mem_eraseDups, Endpoint.pathParameters, Text.placeholderNames, List.mem_map]
  constructor
  · intro all inside has
    exact (errorless_undeclared rfl).mp (all _ ⟨inside, mem_placeholders.mpr has, rfl⟩)
  · rintro all name ⟨inside, member, rfl⟩
    exact (errorless_undeclared rfl).mpr (all inside (mem_placeholders.mp member))

theorem errorless_methodFindings {endpoint : Endpoint} :
    Errorless (methodFindings endpoint) ↔ ∃ method : HttpMethod, method.name = endpoint.method := by
  rw [methodFindings, HttpMethod.ofName?]
  cases found : HttpMethod.all.find? fun method => method.name == endpoint.method with
  | none =>
    rw [errorless_singleton]
    refine iff_of_false (by simp [Finding.isError, Finding.severity]) ?_
    rintro ⟨method, named⟩
    have absent := List.find?_eq_none.mp found method (by cases method <;> decide)
    simp [named] at absent
  | some method =>
    have named := List.find?_some found
    simp only [errorless_append]
    exact iff_of_true ⟨⟨errorless_when_warning rfl, errorless_when_warning rfl⟩,
      errorless_when_warning rfl⟩ ⟨method, by simpa using named⟩

theorem errorless_endpointFindings {app : Application} {endpoint : Endpoint} :
    Errorless (endpointFindings (app.models.map Model.name) endpoint) ↔
      ValidEndpoint app endpoint := by
  rw [endpointFindings, errorless_append, errorless_append, errorless_append, errorless_append,
    errorless_parameterFindings, errorless_placeholderFindings, errorless_methodFindings]
  constructor
  · rintro ⟨⟨⟨⟨parameters, placeholders⟩, method⟩, body⟩, _⟩
    refine ⟨parameters, placeholders, method, ?_⟩
    intro model isBody
    rw [isBody] at body
    exact (errorless_undeclared rfl).mp body
  · intro valid
    refine ⟨⟨⟨⟨valid.parameters, valid.placeholders⟩, valid.method⟩, ?_⟩, ?_⟩
    · cases isBody : endpoint.body with
      | none => exact errorless_nil
      | some model => exact (errorless_undeclared rfl).mpr (valid.body model isBody)
    · cases endpoint.response with
      | none => exact errorless_nil
      | some response => exact errorless_when_warning rfl

theorem errorless_apiFindings {app : Application} {api : Api} :
    Errorless (apiFindings (app.models.map Model.name) api) ↔ ValidApi app api := by
  rw [apiFindings, errorless_append, errorless_append, errorless_duplicates (fun _ => rfl),
    errorless_flatMap]
  simp only [errorless_endpointFindings]
  constructor
  · rintro ⟨⟨_, distinct⟩, endpoints⟩
    exact ⟨distinct, endpoints⟩
  · rintro ⟨distinct, endpoints⟩
    exact ⟨⟨errorless_when_warning rfl, distinct⟩, endpoints⟩

/-! ## All rules -/

theorem errorless_sectionFindings (app : Application) : Errorless (sectionFindings app) := by
  simp only [sectionFindings, errorless_append]
  exact ⟨⟨⟨errorless_when_warning rfl, errorless_when_warning rfl⟩, errorless_when_warning rfl⟩,
    errorless_when_warning rfl⟩

theorem errorless_modelsFindings {models : List Model} :
    Errorless (modelsFindings models) ↔
      (models.map Model.name).Nodup ∧ ∀ model ∈ models, ValidModel model := by
  rw [modelsFindings, errorless_append, errorless_duplicates (fun _ => rfl), errorless_flatMap]
  simp only [errorless_modelFindings]

theorem errorless_screensFindings {app : Application} :
    Errorless (screensFindings app) ↔
      (app.screens.map Screen.name).Nodup ∧ ∀ screen ∈ app.screens, ValidScreen app screen := by
  rw [screensFindings, errorless_append, errorless_duplicates (fun _ => rfl), errorless_flatMap]
  simp only [errorless_screenFindings]

theorem hasErrors_eq_false {app : Application} : app.hasErrors = false ↔ Errorless app.findings := by
  simp [Application.hasErrors, Errorless]

/-- Validation finds no error exactly in the valid applications. -/
theorem hasErrors_eq_false_iff (app : Application) :
    app.hasErrors = false ↔ ValidApplication app := by
  rw [hasErrors_eq_false, Application.findings, errorless_append, errorless_append, errorless_append,
    errorless_append, errorless_append, errorless_initialScreenFindings, errorless_modelsFindings,
    errorless_screensFindings]
  constructor
  · rintro ⟨⟨⟨⟨⟨_, initial⟩, modelsDistinct, models⟩, screensDistinct, screens⟩, navigation⟩, api⟩
    refine ⟨initial, modelsDistinct, models, screensDistinct, screens, ?_, ?_⟩
    · intro declared isNavigation
      rw [isNavigation] at navigation
      exact errorless_navigationFindings.mp navigation
    · intro declared isApi
      rw [isApi] at api
      exact errorless_apiFindings.mp api
  · intro valid
    refine ⟨⟨⟨⟨⟨errorless_sectionFindings app, valid.initial⟩, valid.modelsDistinct, valid.models⟩,
      valid.screensDistinct, valid.screens⟩, ?_⟩, ?_⟩
    · cases isNavigation : app.navigation with
      | none => exact errorless_nil
      | some navigation =>
        exact errorless_navigationFindings.mpr (valid.navigation navigation isNavigation)
    · cases isApi : app.api with
      | none => exact errorless_nil
      | some api => exact errorless_apiFindings.mpr (valid.api api isApi)

end Blueprint
