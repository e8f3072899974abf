import Blueprint.Document.Screens
import Blueprint.Proofs.ModelReading
import Blueprint.Proofs.ValueReading

/-!
Screens, their layouts and the navigation are read as they were written.
-/
set_option autoImplicit false

namespace Blueprint

open Written

variable {follow : List Token → Prop}

/-! ## Parameters -/

theorem noFlag_of_commaNext (name : String) {rest : List Token} (next : CommaNext rest) :
    Parser.startsWithFlag name rest = false := by
  obtain ⟨more, rfl⟩ := next
  rfl

theorem Reads.screenParameters {parameters : List Parameter}
    (wellFormed : ∀ parameter ∈ parameters, parameter.WellFormed) :
    Reads follow Grammar.screenParameters (braces (elements screenParameter parameters))
      parameters := by
  refine .take (takes_symbol .leftBrace) (.closed (.itemsUntil closing_brace ?_) (.pure _))
  intro parameter member
  obtain ⟨isName, typeName⟩ := wellFormed parameter member
  obtain ⟨name, type, required⟩ := parameter
  refine ⟨.key isName (.bind (.typeRef typeName fun _ noBrackets => noBrackets) ?_ ?_),
    opens_word _ _⟩
  · cases required with
    | false => exact .pass (.pure _) fun _ next => noFlag_of_commaNext _ next
    | true => exact .flagged (by decide) (.pure _) fun _ => noColonNext_of_commaNext
  · intro rest next
    cases required with
    | false => exact noBrackets_of_commaNext next
    | true => exact noBrackets_word _ rest

/-! ## Objects that stand for something -/

theorem mapM_written {α : Type} {write : α → Fields Value} {read : Fields Value → Parser α}
    {items : List α} (each : ∀ item ∈ items, read (write item) = pure item) :
    (items.map write).mapM read = pure items := by
  induction items with
  | nil => rfl
  | cons item items ih =>
    rw [List.map_cons, List.mapM_cons, each item List.mem_cons_self,
      ih fun other later => each other (List.mem_cons_of_mem item later)]
    rfl

/-- A list of objects, each of which stands for something. -/
theorem Reads.described {α β : Type} {write : α → Fields Value} {read : Fields Value → Parser α}
    {next : List α → Parser β} {items : List α} {result : β}
    (wellFormed : ∀ item ∈ items, (write item).WellFormed)
    (each : ∀ item ∈ items, read (write item) = Pure.pure item)
    (nexts : Reads follow (next items) [] result) :
    Reads follow (Grammar.objectList >>= fun objects => objects.mapM read >>= next)
      (Written.objectList (items.map write)) result := by
  refine .map (.objectList fun fields member => ?_) ?_
  · obtain ⟨item, inside, rfl⟩ := List.mem_map.mp member
    exact wellFormed item inside
  · rw [mapM_written each, pure_bind]
    exact nexts

/-! ## Fields that can be written -/

namespace Fields.WellFormed

variable {fields : Fields Value}

theorem empty : Fields.WellFormed [] :=
  .object List.nodup_nil fun _ member => absurd member List.not_mem_nil

theorem cons {name : String} {content : Value} (fresh : name ∉ fields.names)
    (first : content.WellFormed) (others : fields.WellFormed) :
    Fields.WellFormed ((name, content) :: fields) := by
  refine .object (List.nodup_cons.mpr ⟨fresh, others.distinct⟩) ?_
  intro field member
  rcases List.mem_cons.mp member with rfl | member
  · exact first
  · exact others.contents field member

theorem textField {name : String} (content : Option String) (fresh : name ∉ fields.names)
    (others : fields.WellFormed) : Fields.WellFormed (Written.textField name content ++ fields) := by
  cases content with
  | none => exact others
  | some text => exact cons fresh (.text text) others

theorem append {more : Fields Value} (first : fields.WellFormed) (second : more.WellFormed)
    (apart : ∀ key ∈ fields.names, key ∉ more.names) : Fields.WellFormed (fields ++ more) := by
  refine .object ?_ fun field member => ?_
  · rw [Fields.Distinct, Fields.names, List.map_append]
    exact List.nodup_append.mpr ⟨first.distinct, second.distinct,
      fun key here other there same => apart key here (same ▸ there)⟩
  · rcases List.mem_append.mp member with member | member
    · exact first.contents field member
    · exact second.contents field member

end Fields.WellFormed

theorem fresh_cons {γ : Type} {fields : Fields γ} {key name : String} {content : γ}
    (differs : key ≠ name) (fresh : key ∉ fields.names) :
    key ∉ Fields.names ((name, content) :: fields) :=
  List.not_mem_cons_of_ne_of_not_mem differs fresh

theorem fresh_textField {fields : Fields Value} {key name : String} {content : Option String}
    (differs : key ≠ name) (fresh : key ∉ fields.names) :
    key ∉ Fields.names (textField name content ++ fields) := by
  cases content with
  | none => exact fresh
  | some text => exact fresh_cons differs fresh

theorem foldl_erase {γ : Type} (keys : List String) (fields : Fields γ) :
    keys.foldl (fun fields key => Fields.erase key fields) fields =
      fields.filter fun field => field.1 ∉ keys := by
  induction keys generalizing fields with
  | nil => simp
  | cons key keys ih =>
    rw [List.foldl_cons, ih, Fields.erase, List.filter_filter]
    refine List.filter_congr fun field _ => ?_
    rw [Bool.and_comm]
    simp [bne, beq_eq_decide]

/-! ## Components, form fields, actions and navigation items -/

theorem Component.WellFormed.fields {component : Component} (wellFormed : component.WellFormed) :
    (componentFields component).WellFormed :=
  .cons wellFormed.reserved (.text _) wellFormed.attributes

theorem componentOf_fields (place : Position) {component : Component}
    (wellFormed : component.WellFormed) :
    Grammar.componentOf place (componentFields component) = pure component := by
  obtain ⟨type, attributes⟩ := component
  have others : Fields.erase "type" (("type", .text type) :: attributes) = attributes := by
    rw [Fields.erase, List.filter_cons_of_neg (by simp)]
    exact Fields.erase_fresh wellFormed.reserved
  simp [Grammar.componentOf, componentFields, Fields.get?, Value.text?, others]

theorem names_formDescription {field : FormField} {key : String}
    (member : key ∈ (formDescription field).names) :
    key ∈ ["name", "type", "label", "required"] := by
  obtain ⟨name, type, label, required, attributes⟩ := field
  cases label <;> cases required <;>
    simp [formDescription, textField, Fields.names] at member ⊢ <;> tauto

theorem wellFormed_formDescription (field : FormField) : (formDescription field).WellFormed := by
  have required : Fields.WellFormed
      (if field.required then [("required", .bool true)] else []) := by
    split
    · exact .cons List.not_mem_nil (.bool true) .empty
    · exact .empty
  have fresh {key : String} (differs : key ≠ "required") : key ∉ Fields.names
      (if field.required then [("required", Value.bool true)] else []) := by
    split
    · exact fresh_cons differs List.not_mem_nil
    · exact List.not_mem_nil
  refine .cons ?_ (.text _) (.cons ?_ (.text _) (.textField _ ?_ required))
  · exact fresh_cons (by decide) (fresh_textField (by decide) (fresh (by decide)))
  · exact fresh_textField (by decide) (fresh (by decide))
  · exact fresh (by decide)

theorem FormField.WellFormed.fields {field : FormField} (wellFormed : field.WellFormed) :
    (formFields field).WellFormed :=
  (wellFormed_formDescription field).append wellFormed.attributes fun key member =>
    wellFormed.reserved key (names_formDescription member)

theorem formFieldOf_fields (place : Position) {field : FormField}
    (wellFormed : field.WellFormed) :
    Grammar.formFieldOf place (formFields field) = pure field := by
  have gone : (formDescription field).filter
      (fun entry => entry.1 ∉ ["name", "type", "label", "required"]) = [] := by
    refine List.filter_eq_nil_iff.mpr fun entry member => ?_
    have reserved := names_formDescription (List.mem_map_of_mem member)
    simp only [reserved, not_true, decide_false, Bool.false_eq_true, not_false_iff]
  have kept : field.attributes.filter
      (fun entry => entry.1 ∉ ["name", "type", "label", "required"]) = field.attributes := by
    refine List.filter_eq_self.mpr fun entry member => decide_eq_true fun reserved => ?_
    exact wellFormed.reserved _ reserved (List.mem_map_of_mem member)
  have noLabel := Fields.get?_fresh (wellFormed.reserved "label" (by simp))
  have noRequired := Fields.get?_fresh (wellFormed.reserved "required" (by simp))
  unfold Grammar.formFieldOf
  rw [foldl_erase, formFields, List.filter_append, gone, kept]
  obtain ⟨name, type, label, required, attributes⟩ := field
  cases label <;> cases required <;>
    simp_all [formDescription, textField, Fields.get?, Value.text?]

theorem wellFormed_actionFields {action : Action} (params : action.params.WellFormed) :
    (actionFields action).WellFormed := by
  refine .textField _ ?_ (.textField _ ?_ (.cons List.not_mem_nil params .empty))
  · exact fresh_textField (by decide) (fresh_cons (by decide) List.not_mem_nil)
  · exact fresh_cons (by decide) List.not_mem_nil

theorem actionOf_fields (action : Action) :
    Grammar.actionOf action.event (actionFields action) = action := by
  obtain ⟨event, navigate, api, params⟩ := action
  cases navigate <;> cases api <;>
    simp [Grammar.actionOf, actionFields, textField, Fields.get?, Value.text?, Value.object?]

theorem wellFormed_navItemFields (item : NavItem) : (navItemFields item).WellFormed := by
  refine .textField _ ?_ (.textField _ ?_ (.cons List.not_mem_nil (.text _) .empty))
  · exact fresh_textField (by decide) (fresh_cons (by decide) List.not_mem_nil)
  · exact fresh_cons (by decide) List.not_mem_nil

theorem navItemOf_fields (place : Position) (item : NavItem) :
    Grammar.navItemOf place (navItemFields item) = pure item := by
  obtain ⟨screen, title, icon⟩ := item
  cases title <;> cases icon <;>
    simp [Grammar.navItemOf, navItemFields, textField, Fields.get?, Value.text?]

/-! ## Layouts -/

/-- An entry of a group that is read up to its closing mark. -/
theorem IsEntry.inGroup {σ : Type} {close : Symbol} {step : σ → Parser σ} {state next : σ}
    {tokens : List Token} (closes : Closing close) (opens : Opens tokens)
    (reads : Reads follow (step state) tokens next) :
    IsEntry follow (fun _ tokens => Parser.stillOpen close tokens) step state tokens next where
  reads := reads
  opens := opens
  goesOn := stillOpen_of_opens closes opens

theorem Reads.actions {actions : List Action}
    (wellFormed : ∀ action ∈ actions, IsName action.event ∧ action.params.WellFormed) :
    Reads follow Grammar.actions (braces (elements action actions)) actions := by
  refine .take (takes_symbol .leftBrace) (.closed (.itemsUntil closing_brace ?_) (.pure _))
  intro action member
  obtain ⟨isName, params⟩ := wellFormed action member
  have reads : Reads CommaNext
      (Grammar.object >>= fun fields => Pure.pure (Grammar.actionOf action.event fields))
      (Written.object (actionFields action)) action := by
    refine .map (.object (wellFormed_actionFields params)) ?_
    rw [actionOf_fields]
    exact .pure _
  exact ⟨.key isName reads, opens_word _ _⟩

theorem isEntry_layout {key : String} {content : List Token} {layout next : Layout}
    {isType : Bool} (typed : Bool) (isName : IsName key)
    (contents : Reads CommaNext (Grammar.layoutAttribute (word key) layout) content
      (next, isType)) :
    IsEntry EntryNext (fun _ tokens => Parser.stillOpen .rightBrace tokens) Grammar.layoutEntry
      (layout, typed) (entry key content) (next, typed || isType) :=
  .inGroup closing_brace (opens_word _ _)
    (.key isName (contents.bind (Reads.commas.map (.pure _)) fun rest _ => ⟨rest, rfl⟩))

theorem layoutKind_ofName? (kind : LayoutKind) : LayoutKind.ofName? kind.name = some kind := by
  cases kind <;> rfl

theorem isName_layoutKind (kind : LayoutKind) : IsName kind.name := by
  cases kind <;> decide

theorem entries_layout {layout : Layout} (wellFormed : layout.WellFormed) :
    Entries (CloseNext .rightBrace) (fun _ tokens => Parser.stillOpen .rightBrace tokens)
      Grammar.layoutEntry ({}, false)
      (entry "type" [word layout.kind.name] ++
        (entry "components" (objectList (layout.components.map componentFields)) ++
        (entry "fields" (objectList (layout.fields.map formFields)) ++
        (entry "actions" (braces (elements action layout.actions)) ++
        (optionally (fun label => entry "submitButton" [quoted label]) layout.submitButton ++
        optionally (fun label => entry "cancelButton" [quoted label]) layout.cancelButton)))))
      (layout, true) := by
  obtain ⟨kind, components, fields, actions, submitButton, cancelButton⟩ := layout
  have kinds : Reads CommaNext (Grammar.layoutAttribute (word "type") {}) [word kind.name]
      (⟨kind, [], [], [], none, none⟩, true) := by
    have found : LayoutKind.ofName? (word kind.name).value = some kind := layoutKind_ofName? kind
    refine .take (takes_name (isName_layoutKind kind)) ?_
    rw [found]
    exact .pure _
  have componentLists : Reads CommaNext
      (Grammar.layoutAttribute (word "components") ⟨kind, [], [], [], none, none⟩)
      (objectList (components.map componentFields))
      (⟨kind, components, [], [], none, none⟩, false) :=
    .described (fun _ member => (wellFormed.components _ member).fields)
      (fun _ member => componentOf_fields _ (wellFormed.components _ member)) (.pure _)
  have fieldLists : Reads CommaNext
      (Grammar.layoutAttribute (word "fields") ⟨kind, components, [], [], none, none⟩)
      (objectList (fields.map formFields)) (⟨kind, components, fields, [], none, none⟩, false) :=
    .described (fun _ member => (wellFormed.fields _ member).fields)
      (fun _ member => formFieldOf_fields _ (wellFormed.fields _ member)) (.pure _)
  have actionLists : Reads CommaNext
      (Grammar.layoutAttribute (word "actions") ⟨kind, components, fields, [], none, none⟩)
      (braces (elements action actions)) (⟨kind, components, fields, actions, none, none⟩, false) :=
    .map (.actions wellFormed.actions) (.pure _)
  have submits (label : String) : Reads CommaNext
      (Grammar.layoutAttribute (word "submitButton") ⟨kind, components, fields, actions, none, none⟩)
      [quoted label] (⟨kind, components, fields, actions, some label, none⟩, false) :=
    .map (.ofTakes (takes_text label)) (.pure _)
  have cancels (label : String) : Reads CommaNext (Grammar.layoutAttribute (word "cancelButton")
      ⟨kind, components, fields, actions, submitButton, none⟩)
      [quoted label] (⟨kind, components, fields, actions, submitButton, some label⟩, false) :=
    .map (.ofTakes (takes_text label)) (.pure _)
  refine .cons closing_brace (isEntry_layout false (by decide) kinds) ?_
  refine .cons closing_brace (isEntry_layout true (by decide) componentLists) ?_
  refine .cons closing_brace (isEntry_layout true (by decide) fieldLists) ?_
  refine .cons closing_brace (isEntry_layout true (by decide) actionLists) ?_
  refine .optional
    (fun label => ((⟨kind, components, fields, actions, label, none⟩ : Layout), true))
    closing_brace (fun label _ => isEntry_layout true (by decide) (submits label)) ?_
  exact .lastOptional
    (fun label => ((⟨kind, components, fields, actions, submitButton, label⟩ : Layout), true))
    closing_brace (fun label _ => isEntry_layout true (by decide) (cancels label))

theorem Reads.layout {layout : Layout} (wellFormed : layout.WellFormed) :
    Reads follow Grammar.layout (Written.layout layout) layout :=
  .take (takes_symbol .leftBrace) (.closed (.untilClosed (entries_layout wellFormed)) (.pure _))

/-! ## Screens -/

theorem isEntry_screen {key : String} {content : List Token} {screen next : Grammar.OpenScreen}
    (isName : IsName key)
    (contents : Reads CommaNext (Grammar.screenAttribute (word key) screen) content next) :
    IsEntry EntryNext (fun _ tokens => Parser.stillOpen .rightBrace tokens) Grammar.screenEntry
      screen (entry key content) next :=
  .inGroup closing_brace (opens_word _ _)
    (.unflagged (.key isName (.comma contents (.pure _))))

theorem entries_screen {screen : Screen} (wellFormed : screen.WellFormed) :
    Entries (CloseNext .rightBrace) (fun _ tokens => Parser.stillOpen .rightBrace tokens)
      Grammar.screenEntry {}
      (Written.flag screen.isInitial "initial" ++
        (entry "title" [quoted screen.title] ++
        (entry "params" (braces (elements screenParameter screen.parameters)) ++
        optionally (fun content => entry "layout" (layout content)) screen.layout)))
      ⟨some screen.title, screen.isInitial, screen.parameters, screen.layout⟩ := by
  obtain ⟨name, title, isInitial, parameters, body⟩ := screen
  have initials : Reads EntryNext (Grammar.screenEntry {}) [word "initial"]
      ⟨none, true, [], none⟩ :=
    .flagged (by decide) (.pure _) fun _ => noColonNext_of_entryNext
  have titles : Reads CommaNext (Grammar.screenAttribute (word "title") ⟨none, isInitial, [], none⟩)
      [quoted title] ⟨some title, isInitial, [], none⟩ :=
    .map (.ofTakes (takes_text title)) (.pure _)
  have parameterLists : Reads CommaNext
      (Grammar.screenAttribute (word "params") ⟨some title, isInitial, [], none⟩)
      (braces (elements screenParameter parameters)) ⟨some title, isInitial, parameters, none⟩ :=
    .map (.screenParameters wellFormed.parameters) (.pure _)
  refine .flag (fun isInitial => (⟨none, isInitial, [], none⟩ : Grammar.OpenScreen))
    closing_brace (.inGroup closing_brace (opens_word _ _) initials) ?_
  refine .cons closing_brace (isEntry_screen (by decide) titles) ?_
  refine .cons closing_brace (isEntry_screen (by decide) parameterLists) ?_
  refine .lastOptional
    (fun layout => (⟨some title, isInitial, parameters, layout⟩ : Grammar.OpenScreen))
    closing_brace fun layout member => isEntry_screen (by decide) ?_
  exact .map (.layout (wellFormed.layout layout member)) (.pure _)

theorem Reads.screen {screen : Screen} (wellFormed : screen.WellFormed) :
    Reads follow Grammar.screen (Written.screen screen) screen :=
  .take (takes_keyword .screen (by decide)) (.take (takes_name wellFormed.name)
    (.take (takes_symbol .leftBrace)
      (.closed (.untilClosed (entries_screen wellFormed)) (.pure _))))

/-! ## Navigation -/

/-- The keyword and the opening brace of a section. -/
theorem Reads.openSection {α : Type} {keyword : Keyword} {next : Token → Parser α}
    {tokens : List Token} {result : α} (isWord : IsWord keyword.spelling.toList)
    (nexts : Reads follow (next (word keyword.spelling)) tokens result) :
    Reads follow (Grammar.openSection keyword >>= next)
      (word keyword.spelling :: mark .leftBrace :: tokens) result := by
  unfold Grammar.openSection
  simp only [bind_assoc, pure_bind]
  exact .take (takes_keyword keyword isWord)
    (.pass (.take (takes_symbol .leftBrace) nexts) fun _ _ => rfl)

theorem navigationKind_ofName? (kind : NavigationKind) :
    NavigationKind.ofName? kind.name = some kind := by
  cases kind <;> rfl

theorem isName_navigationKind (kind : NavigationKind) : IsName kind.name := by
  cases kind <;> decide

theorem isEntry_navigation {key : String} {content : List Token}
    {navigation next : Grammar.OpenNavigation} (isName : IsName key)
    (contents : Reads CommaNext (Grammar.navigationAttribute (word key) navigation) content
      next) :
    IsEntry EntryNext (fun _ tokens => Parser.stillOpen .rightBrace tokens)
      Grammar.navigationEntry navigation (entry key content) next :=
  .inGroup closing_brace (opens_word _ _) (.key isName (.comma contents (.pure _)))

theorem Reads.navigation (navigation : Navigation) :
    Reads follow Grammar.navigation (Written.navigation navigation) navigation := by
  obtain ⟨kind, items⟩ := navigation
  have kinds : Reads CommaNext (Grammar.navigationAttribute (word "type") {}) [word kind.name]
      { kind := some kind } := by
    have found : NavigationKind.ofName? (word kind.name).value = some kind :=
      navigationKind_ofName? kind
    refine .take (takes_name (isName_navigationKind kind)) ?_
    rw [found]
    exact .pure _
  have entries : Entries (CloseNext .rightBrace)
      (fun _ tokens => Parser.stillOpen .rightBrace tokens) Grammar.navigationEntry {}
      (Written.entry "type" [word kind.name] ++
        Written.entry "items" (Written.objectList (items.map navItemFields)))
      ⟨some kind, items⟩ := by
    refine .cons closing_brace (isEntry_navigation (by decide) kinds) ?_
    exact .single closing_brace (isEntry_navigation (by decide)
      (.described (fun item _ => wellFormed_navItemFields item)
        (fun item _ => navItemOf_fields _ item) (.pure _)))
  exact .openSection (by decide) (.closed (.untilClosed entries) (.pure _))

end Blueprint
