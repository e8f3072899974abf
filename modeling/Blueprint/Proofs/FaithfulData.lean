import Blueprint.Debug.Describe
import Blueprint.Proofs.Circular
import Blueprint.Proofs.FieldLaws

/-!
What the debug data keeps. Encoding drops internal keys, writes marks for circular references and
merges keys of one text; what is left has nothing of that kind, so that encoding it once more changes
nothing. And two applications whose dictionaries have no key that starts like an internal one have
the same data only if they are equal.
-/
set_option autoImplicit false

namespace Blueprint

open DebugItem

/-! ## Keys -/

/-- A key that starts with a dollar sign or an underscore. -/
def Marked (key : String) : Prop :=
  key.toList.head? = some '$' ∨ key.toList.head? = some '_'

instance : DecidablePred Marked := fun key =>
  inferInstanceAs (Decidable (key.toList.head? = some '$' ∨ key.toList.head? = some '_'))

theorem not_internal_of_not_marked {key : String} (unmarked : ¬ Marked key) : ¬ Internal key := by
  rintro ⟨_, first, rest, letters, isMark⟩
  refine unmarked ?_
  rw [Marked, letters]
  exact isMark.imp (congrArg some) (congrArg some)

/-- The keys of each dictionary in a value are distinct and allowed, at any depth. -/
inductive Value.Keyed (allowed : String → Prop) : Value → Prop where
  | scalar (s : Scalar) : Keyed allowed s.toValue
  | list {items : List Value} (contents : ∀ item ∈ items, Keyed allowed item) :
    Keyed allowed (.list items)
  | object {fields : List (String × Value)} (distinct : (Fields.names fields).Nodup)
    (names : ∀ name ∈ Fields.names fields, allowed name)
    (contents : ∀ field ∈ fields, Keyed allowed field.2) : Keyed allowed (.object fields)

theorem Value.Keyed.mono {allowed allowed' : String → Prop}
    (weaker : ∀ key, allowed key → allowed' key) {value : Value} (keyed : value.Keyed allowed) :
    value.Keyed allowed' := by
  induction keyed with
  | scalar s => exact .scalar s
  | list _ ih => exact .list ih
  | object distinct names _ ih =>
    exact .object distinct (fun name member => weaker name (names name member)) ih

/-! ## The data of each kind of item -/

namespace DebugItem

theorem encodeItems_eq_map (graph : List DebugItem) (active : List Nat) (items : List DebugItem) :
    (encodeItems graph active items).value =
      items.map fun item => (encode graph active item).value := by
  induction items with
  | nil => exact encodeItems_nil graph active
  | cons item items ih => rw [encodeItems_cons, ih, List.map_cons]

theorem encodeEntries_eq_map (graph : List DebugItem) (active : List Nat)
    {entries : List (String × DebugItem)} (kept : ∀ key ∈ entries.map Prod.fst, ¬ Internal key) :
    (encodeEntries graph active entries).value =
      entries.map fun entry => (entry.1, (encode graph active entry.2).value) := by
  induction entries with
  | nil => exact encodeEntries_nil graph active
  | cons entry entries ih =>
    obtain ⟨key, item⟩ := entry
    obtain ⟨first, others⟩ := List.forall_mem_cons.mp kept
    rw [encodeEntries_kept first, ih others, List.map_cons]

theorem data_scalar (s : Scalar) : (DebugItem.scalar s).data = s.toValue := encode_scalar [] [] s

theorem data_list (items : List DebugItem) :
    (DebugItem.list items).data = .list (items.map data) := by
  rw [data, encode_list, encodeItems_eq_map]
  rfl

theorem data_object {entries : List (String × DebugItem)}
    (distinct : (entries.map Prod.fst).Nodup)
    (kept : ∀ key ∈ entries.map Prod.fst, ¬ Internal key) :
    (DebugItem.object entries).data = .object (entries.map fun entry => (entry.1, entry.2.data)) := by
  have keys : ((entries.map fun entry => (entry.1, entry.2.data)).map Prod.fst).Nodup := by
    rw [List.map_map]
    exact distinct
  rw [data, encode_object, encodeEntries_eq_map _ _ kept]
  exact congrArg Value.object (Fields.ofList_distinct keys)

/-- Names that the fields of a record can have: distinct from each other and from the key of the
kind, and none of them internal. -/
def FieldNames (names : List String) : Prop :=
  (kindKey :: names).Nodup ∧ ∀ name ∈ names, ¬ Internal name

instance : DecidablePred FieldNames := fun names =>
  inferInstanceAs (Decidable ((kindKey :: names).Nodup ∧ ∀ name ∈ names, ¬ Internal name))

theorem data_record {kind : String} {fields : List (String × DebugItem)}
    (named : FieldNames (fields.map Prod.fst)) : (DebugItem.record kind fields).data =
      .object ((kindKey, .text kind) :: fields.map fun field => (field.1, field.2.data)) := by
  have keys : (((kindKey, Value.text kind) ::
      fields.map fun field => (field.1, field.2.data)).map Prod.fst).Nodup := by
    rw [List.map_cons, List.map_map]
    exact named.1
  rw [data, encode_record, encodeEntries_eq_map _ _ named.2]
  exact congrArg Value.object (Fields.ofList_distinct keys)

/-! ## Encoding plain data once more -/

theorem ofItems_eq_map (values : List Value) : ofItems values = values.map ofValue := by
  induction values with
  | nil => rfl
  | cons value values ih => rw [ofItems, ih, List.map_cons]

theorem ofFields_eq_map (fields : List (String × Value)) :
    ofFields fields = fields.map fun field => (field.1, ofValue field.2) := by
  induction fields with
  | nil => rfl
  | cons field fields ih => rw [ofFields, ih, List.map_cons]

/-- Plain data without internal keys is its own debug data. -/
theorem data_ofValue {value : Value} (keyed : value.Keyed fun key => ¬ Internal key) :
    (ofValue value).data = value := by
  induction keyed with
  | scalar s => cases s <;> exact data_scalar _
  | @list items _ ih =>
    have same : items.map (data ∘ ofValue) = items :=
      (List.map_congr_left ih).trans (List.map_id items)
    rw [ofValue, ofItems_eq_map, data_list, List.map_map, same]
  | @object fields distinct names _ ih =>
    have keys : (fields.map fun field => (field.1, ofValue field.2)).map Prod.fst =
        Fields.names fields := List.map_map
    have each : ∀ field ∈ fields, (field.1, (ofValue field.2).data) = id field :=
      fun field member => Prod.ext rfl (ih field member)
    have same : fields.map (fun field => (field.1, (ofValue field.2).data)) = fields :=
      (List.map_congr_left each).trans (List.map_id fields)
    rw [ofValue, ofFields_eq_map, data_object (keys ▸ distinct) (keys ▸ names), List.map_map]
    exact congrArg Value.object same

end DebugItem

/-! ## Descriptions that can be told apart -/

/-- Valid things are equal if their descriptions have the same data. -/
def Faithful {α : Type} (valid : α → Prop) (describe : α → DebugItem) : Prop :=
  ∀ ⦃thing other : α⦄, valid thing → valid other →
    (describe thing).data = (describe other).data → thing = other

/-- The names in a dictionary are distinct, and none of them starts like an internal key. -/
def Fields.Unmarked {α : Type} (fields : Fields α) : Prop :=
  fields.names.Nodup ∧ ∀ name ∈ fields.names, ¬ Marked name

/-- The same of a dictionary of generic values and of all dictionaries inside it. -/
def Fields.UnmarkedWithin (fields : Fields Value) : Prop :=
  (Value.object fields).Keyed fun key => ¬ Marked key

/-- Lists are equal if a function that tells their members apart takes them to the same list. -/
theorem eq_of_map_eq {α β : Type} {tell : α → β} {items others : List α}
    (apart : ∀ item ∈ items, ∀ other ∈ others, tell item = tell other → item = other)
    (same : items.map tell = others.map tell) : items = others := by
  induction items generalizing others with
  | nil => exact (List.map_eq_nil_iff.mp same.symm).symm
  | cons item items ih =>
    cases others with
    | nil => contradiction
    | cons other others =>
      obtain ⟨first, rest⟩ := List.cons.inj same
      have tail := ih (fun a member b member' => apart a (.tail _ member) b (.tail _ member')) rest
      rw [apart item (.head _) other (.head _) first, tail]

namespace Faithful

theorem eq {α : Type} {describe : α → DebugItem} (faithful : Faithful (fun _ => True) describe)
    {thing other : α} (same : (describe thing).data = (describe other).data) : thing = other :=
  faithful trivial trivial same

theorem scalar : Faithful (fun _ => True) DebugItem.scalar := by
  intro thing other _ _ same
  rw [data_scalar, data_scalar] at same
  cases thing <;> cases other <;> simp_all [Scalar.toValue]

theorem text : Faithful (fun _ => True) ofText :=
  fun _ _ _ _ same => Scalar.text.inj (scalar.eq same)

theorem bool : Faithful (fun _ => True) DebugItem.bool :=
  fun _ _ _ _ same => Scalar.bool.inj (scalar.eq same)

variable {α : Type} {valid : α → Prop} {describe : α → DebugItem}

theorem named {name : α → String} (injective : Function.Injective name) :
    Faithful (fun _ => True) fun thing => ofText (name thing) :=
  fun _ _ _ _ same => injective (text.eq same)

/-- An absent thing is told from every present one by what it is written as. -/
theorem optional (each : Faithful valid describe) (present : ∀ thing, (describe thing).data ≠ .null) :
    Faithful (fun thing? => ∀ thing ∈ thing?, valid thing) (DebugItem.optional describe) := by
  intro thing? other? areValid areValid' same
  have absent : (DebugItem.optional describe none).data = .null := data_scalar .null
  cases thing? with
  | none =>
    cases other? with
    | none => rfl
    | some other => exact absurd (same.symm.trans absent) (present other)
  | some thing =>
    cases other? with
    | none => exact absurd (same.trans absent) (present thing)
    | some other => rw [each (areValid thing rfl) (areValid' other rfl) same]

theorem optional_eq (each : Faithful (fun _ => True) describe)
    (present : ∀ thing, (describe thing).data ≠ .null) {thing? other? : Option α}
    (same : (DebugItem.optional describe thing?).data = (DebugItem.optional describe other?).data) :
    thing? = other? :=
  each.optional present (fun _ _ => trivial) (fun _ _ => trivial) same

theorem optionalText : Faithful (fun _ => True) DebugItem.optionalText := by
  have present (s : String) : (ofText s).data ≠ .null := by
    rw [ofText, data_scalar]
    nofun
  have asOptional (text? : Option String) :
      DebugItem.optionalText text? = DebugItem.optional ofText text? := by
    cases text? <;> rfl
  intro text? other? _ _ same
  rw [asOptional, asOptional] at same
  exact text.optional_eq present same

theorem listOf (each : Faithful valid describe) :
    Faithful (fun things => ∀ thing ∈ things, valid thing) (DebugItem.listOf describe) := by
  intro things others areValid areValid' same
  rw [DebugItem.listOf, DebugItem.listOf, data_list, data_list, List.map_map, List.map_map] at same
  exact eq_of_map_eq (fun thing member other member' =>
    each (areValid thing member) (areValid' other member')) (Value.list.inj same)

theorem list_eq (each : Faithful (fun _ => True) describe) {things others : List α}
    (same : (DebugItem.listOf describe things).data = (DebugItem.listOf describe others).data) :
    things = others :=
  each.listOf (fun _ _ => trivial) (fun _ _ => trivial) same

theorem fields (each : Faithful valid describe) :
    Faithful (fun fields : Fields α => fields.Unmarked ∧ ∀ field ∈ fields, valid field.2)
      fun fields => .object (fields.map fun (key, content) => (key, describe content)) := by
  have data_fields {fields : Fields α} (unmarked : fields.Unmarked) :
      (DebugItem.object (fields.map fun (key, content) => (key, describe content))).data =
        .object (fields.map fun field => (field.1, (describe field.2).data)) := by
    have keys : (fields.map fun (key, content) => (key, describe content)).map Prod.fst =
        fields.names := List.map_map
    have kept : ∀ key ∈ fields.names, ¬ Internal key :=
      fun key member => not_internal_of_not_marked (unmarked.2 key member)
    rw [data_object (keys ▸ unmarked.1) (keys ▸ kept), List.map_map]
    rfl
  rintro fields others ⟨unmarked, areValid⟩ ⟨unmarked', areValid'⟩ same
  rw [data_fields unmarked, data_fields unmarked'] at same
  refine eq_of_map_eq (fun field member other member' sameField => ?_) (Value.object.inj same)
  obtain ⟨key, content⟩ := Prod.mk.inj sameField
  exact Prod.ext key (each (areValid field member) (areValid' other member') content)

theorem genericFields : Faithful Fields.UnmarkedWithin describeFields := by
  intro fields others unmarked unmarked' same
  have own {fields : Fields Value} (unmarked : fields.UnmarkedWithin) :
      (describeFields fields).data = .object fields :=
    data_ofValue (unmarked.mono fun _ => not_internal_of_not_marked)
  rw [own unmarked, own unmarked'] at same
  exact Value.object.inj same

end Faithful

/-! ## Records -/

/-- Rows of fields whose contents have the same data, one by one. -/
def SameData : List (String × DebugItem) → List (String × DebugItem) → Prop
  | field :: fields, other :: others => field.2.data = other.2.data ∧ SameData fields others
  | _, _ => True

/-- Records with fields of the same names have the same data only if their fields have. -/
theorem sameData_of_record {names : List String} (valid : FieldNames names) {kind kind' : String}
    {fields others : List (String × DebugItem)}
    (same : (DebugItem.record kind fields).data = (DebugItem.record kind' others).data)
    (named : fields.map Prod.fst = names) (named' : others.map Prod.fst = names) :
    SameData fields others := by
  rw [data_record (named ▸ valid), data_record (named' ▸ valid)] at same
  have rest := (List.cons.inj (Value.object.inj same)).2
  -- The names were needed to see that no field is dropped or merged; the rows are compared without.
  clear same named named' valid
  induction fields generalizing others with
  | nil => exact trivial
  | cons field fields ih =>
    cases others with
    | nil => exact trivial
    | cons other others =>
      obtain ⟨first, rest⟩ := List.cons.inj rest
      exact ⟨(Prod.mk.inj first).2, ih rest⟩

theorem data_object_ne_null (entries : List (String × DebugItem)) :
    (DebugItem.object entries).data ≠ .null := by
  rw [data, encode_object]
  nofun

theorem data_record_ne_null (kind : String) (fields : List (String × DebugItem)) :
    (DebugItem.record kind fields).data ≠ .null := by
  rw [data, encode_record]
  nofun

/-! ## Entities -/

attribute [ext] TypeRef Property Parameter Model Component FormField Action Layout Screen NavItem
  Navigation Endpoint Api MockData Application

theorem LayoutKind.name_injective : Function.Injective LayoutKind.name := by
  intro kind other same
  cases kind <;> cases other <;> simp_all [LayoutKind.name]

theorem NavigationKind.name_injective : Function.Injective NavigationKind.name := by
  intro kind other same
  cases kind <;> cases other <;> simp_all [NavigationKind.name]

theorem Platform.name_injective : Function.Injective Platform.name := by
  intro platform other same
  cases platform <;> cases other <;> simp_all [Platform.name]

structure Layout.Unmarked (layout : Layout) : Prop where
  components : ∀ component ∈ layout.components, component.attributes.UnmarkedWithin
  fields : ∀ field ∈ layout.fields, field.attributes.UnmarkedWithin
  actions : ∀ action ∈ layout.actions, action.params.UnmarkedWithin

/-- An application of whose dictionaries none has a key that starts with a dollar sign or an
underscore: its theme, the attributes of its components and fields, the parameters of its actions and
its mock data, at any depth. -/
structure Application.Unmarked (app : Application) : Prop where
  theme : ∀ fields ∈ app.theme, fields.Unmarked
  layouts : ∀ screen ∈ app.screens, ∀ layout ∈ screen.layout, layout.Unmarked
  mockData : ∀ data ∈ app.mockData, data.sections.Unmarked ∧
    ∀ field ∈ data.sections, ∀ record ∈ field.2, Fields.UnmarkedWithin record

namespace Faithful

theorem typeRef : Faithful (fun _ => True) TypeRef.describe := by
  intro type other _ _ same
  have names : FieldNames ["name", "is_array"] := by decide
  obtain ⟨name, isArray, -⟩ := sameData_of_record names same rfl rfl
  exact TypeRef.ext (text.eq name) (bool.eq isArray)

theorem property : Faithful (fun _ => True) Property.describe := by
  intro property other _ _ same
  have names : FieldNames ["name", "type", "required", "default_value", "enum_values"] := by decide
  obtain ⟨name, type, required, defaultValue, enumValues, -⟩ :=
    sameData_of_record names same rfl rfl
  exact Property.ext (text.eq name) (typeRef.eq type) (bool.eq required)
    (optionalText.eq defaultValue) (text.list_eq enumValues)

theorem parameter : Faithful (fun _ => True) Parameter.describe := by
  intro parameter other _ _ same
  have names : FieldNames ["name", "type", "required"] := by decide
  obtain ⟨name, type, required, -⟩ := sameData_of_record names same rfl rfl
  exact Parameter.ext (text.eq name) (typeRef.eq type) (bool.eq required)

theorem model : Faithful (fun _ => True) Model.describe := by
  intro model other _ _ same
  have names : FieldNames ["name", "properties"] := by decide
  obtain ⟨name, properties, -⟩ := sameData_of_record names same rfl rfl
  exact Model.ext (text.eq name) (property.list_eq properties)

theorem component :
    Faithful (fun component => component.attributes.UnmarkedWithin) Component.describe := by
  intro component other unmarked unmarked' same
  have names : FieldNames ["type", "attributes"] := by decide
  obtain ⟨type, attributes, -⟩ := sameData_of_record names same rfl rfl
  exact Component.ext (text.eq type) (genericFields unmarked unmarked' attributes)

theorem formField :
    Faithful (fun field => field.attributes.UnmarkedWithin) FormField.describe := by
  intro field other unmarked unmarked' same
  have names : FieldNames ["name", "type", "label", "required", "attributes"] := by decide
  obtain ⟨name, type, label, required, attributes, -⟩ := sameData_of_record names same rfl rfl
  exact FormField.ext (text.eq name) (text.eq type) (optionalText.eq label) (bool.eq required)
    (genericFields unmarked unmarked' attributes)

theorem action : Faithful (fun action => action.params.UnmarkedWithin) Action.describe := by
  intro action other unmarked unmarked' same
  have names : FieldNames ["event", "navigate", "api", "params"] := by decide
  obtain ⟨event, navigate, api, params, -⟩ := sameData_of_record names same rfl rfl
  exact Action.ext (text.eq event) (optionalText.eq navigate) (optionalText.eq api)
    (genericFields unmarked unmarked' params)

theorem layout : Faithful Layout.Unmarked Layout.describe := by
  intro layout other unmarked unmarked' same
  have names : FieldNames
      ["type", "components", "fields", "actions", "submit_button", "cancel_button"] := by decide
  obtain ⟨kind, components, fields, actions, submit, cancel, -⟩ :=
    sameData_of_record names same rfl rfl
  exact Layout.ext ((named LayoutKind.name_injective).eq kind)
    (component.listOf unmarked.components unmarked'.components components)
    (formField.listOf unmarked.fields unmarked'.fields fields)
    (action.listOf unmarked.actions unmarked'.actions actions)
    (optionalText.eq submit) (optionalText.eq cancel)

theorem screen :
    Faithful (fun screen => ∀ layout ∈ screen.layout, layout.Unmarked) Screen.describe := by
  intro screen other unmarked unmarked' same
  have names : FieldNames ["name", "title", "is_initial", "parameters", "layout"] := by decide
  obtain ⟨name, title, isInitial, parameters, layout', -⟩ := sameData_of_record names same rfl rfl
  exact Screen.ext (text.eq name) (text.eq title) (bool.eq isInitial)
    (parameter.list_eq parameters)
    (layout.optional (fun _ => data_record_ne_null _ _) unmarked unmarked' layout')

theorem navItem : Faithful (fun _ => True) NavItem.describe := by
  intro item other _ _ same
  have names : FieldNames ["screen", "title", "icon"] := by decide
  obtain ⟨screen, title, icon, -⟩ := sameData_of_record names same rfl rfl
  exact NavItem.ext (text.eq screen) (optionalText.eq title) (optionalText.eq icon)

theorem navigation : Faithful (fun _ => True) Navigation.describe := by
  intro navigation other _ _ same
  have names : FieldNames ["type", "items"] := by decide
  obtain ⟨kind, items, -⟩ := sameData_of_record names same rfl rfl
  exact Navigation.ext ((named NavigationKind.name_injective).eq kind) (navItem.list_eq items)

theorem endpoint : Faithful (fun _ => True) Endpoint.describe := by
  intro endpoint other _ _ same
  have names : FieldNames ["id", "path", "method", "parameters", "body", "response"] := by decide
  obtain ⟨id, path, method, parameters, body, response, -⟩ := sameData_of_record names same rfl rfl
  exact Endpoint.ext (text.eq id) (text.eq path) (text.eq method) (parameter.list_eq parameters)
    (optionalText.eq body)
    (typeRef.optional_eq (fun _ => data_record_ne_null _ _) response)

theorem api : Faithful (fun _ => True) Api.describe := by
  intro api other _ _ same
  have names : FieldNames ["base_url", "mock", "endpoints"] := by decide
  obtain ⟨baseUrl, mock, endpoints, -⟩ := sameData_of_record names same rfl rfl
  exact Api.ext (text.eq baseUrl) (bool.eq mock) (endpoint.list_eq endpoints)

theorem mockData : Faithful (fun data => data.sections.Unmarked ∧
    ∀ field ∈ data.sections, ∀ record ∈ field.2, Fields.UnmarkedWithin record)
    MockData.describe := by
  intro data other unmarked unmarked' same
  have names : FieldNames ["sections"] := by decide
  obtain ⟨sections, -⟩ := sameData_of_record names same rfl rfl
  exact MockData.ext (genericFields.listOf.fields unmarked unmarked' sections)

theorem application : Faithful Application.Unmarked Application.describe := by
  intro app other unmarked unmarked' same
  have names : FieldNames ["name", "display_name", "app_id", "version", "platforms", "theme",
    "models", "screens", "navigation", "api", "mock_data"] := by decide
  obtain ⟨name, displayName, appId, version, platforms, theme, models, screens, navigation', api',
    mockData', -⟩ := sameData_of_record names same rfl rfl
  -- The texts of a theme are written as they stand, so only its own keys count.
  have texts : Faithful Fields.Unmarked describeTexts := fun _ _ unmarked unmarked' same =>
    text.fields ⟨unmarked, fun _ _ => trivial⟩ ⟨unmarked', fun _ _ => trivial⟩ same
  refine Application.ext (text.eq name) (text.eq displayName) (text.eq appId) (text.eq version)
    ((named Platform.name_injective).list_eq platforms) ?theme (model.list_eq models)
    (screen.listOf unmarked.layouts unmarked'.layouts screens)
    (navigation.optional_eq (fun _ => data_record_ne_null _ _) navigation')
    (api.optional_eq (fun _ => data_record_ne_null _ _) api')
    (mockData.optional (fun _ => data_record_ne_null _ _) unmarked.mockData unmarked'.mockData
      mockData')
  exact texts.optional (fun _ => data_object_ne_null _) unmarked.theme unmarked'.theme theme

end Faithful

end Blueprint
