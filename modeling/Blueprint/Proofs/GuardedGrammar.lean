import Blueprint.Document.Parse
import Blueprint.Proofs.Guarded

/-!
The routines of the grammar below a header are guarded: the values, the models, the screens, the
navigation, the interface and the mock data. Every entry of a group and every item of a list begins
with a token that is taken, so that the repetitions of the grammar lead on.
-/
set_option autoImplicit false

namespace Blueprint

open Grammar

/-! ## Values -/

theorem Guarded.number (text : String) : Guarded (Grammar.number text) := by
  unfold Grammar.number
  simp only
  split
  · exact .pure _
  · split
    · exact .pure _
    · exact .failOversized

theorem Advancing.dottedName : Advancing Grammar.dottedName :=
  expectName.bind fun _ => .bind (.rounds (fun _ => expectSymbol.bind fun _ =>
    .bind .expectName fun _ => .pure _) _) fun _ => .pure _

theorem Advancing.objectKey : Advancing Grammar.objectKey := by
  refine .behind (.isAt .string) fun isText => ?_
  cases isText with
  | true => exact expectText
  | false => exact expectName.bind fun _ => .pure _

section Inner

variable {inner : Parser Value} (inners : Advancing inner)
include inners

theorem Guarded.entryContent : Guarded (Grammar.entryContent inner) := by
  refine .bind (.option _) fun hasContent => ?_
  cases hasContent with
  | true => exact inners.guarded
  | false => exact .pure _

theorem Advancing.objectOf : Advancing (Grammar.objectOf inner) :=
  group (.untilClosed (fun _ => objectKey.bind fun _ => .bind (.entryContent inners) fun _ =>
    .bind .skipCommas fun _ => .pure _) _) fun _ _ => .pure _

theorem Advancing.listOf : Advancing (Grammar.listOf inner) :=
  group (.commaSeparated inners) fun _ _ => .pure _

theorem Advancing.valueOf : Advancing (Grammar.valueOf inner) := by
  refine .behind .current fun token => ?_
  split
  · exact expectText.bind fun _ => .pure _
  · exact (expect (by simp)).bind fun token => .number token.value
  · exact expectFlag.bind fun _ => .pure _
  · exact expectFlag.bind fun _ => .pure _
  · exact (objectOf inners).bind fun _ => .pure _
  · exact (listOf inners).bind fun _ => .pure _
  · split
    · exact dottedName.bind fun _ => .pure _
    · exact .unexpected _

end Inner

theorem Advancing.valueWithin (depth : Nat) : Advancing (Grammar.valueWithin depth) := by
  induction depth with
  | zero => exact .unexpected _
  | succ depth ih => exact .valueOf ih

theorem Advancing.value : Advancing Grammar.value where
  guarded := @Guarded.choose _ (fun tokens => Grammar.valueWithin (tokens.length + 1))
    fun tokens => (Advancing.valueWithin (tokens.length + 1)).guarded
  takes run := (Advancing.valueWithin _).takes run

theorem Advancing.object : Advancing Grammar.object :=
  .objectOf .value

theorem Advancing.objectList : Advancing Grammar.objectList :=
  group (.itemsUntil .object) fun _ _ => .pure _

theorem Guarded.objectsOf {α β : Type} {read : Fields Value → Parser α}
    (reads : ∀ fields, Guarded (read fields)) (use : List α → β) :
    Guarded (Grammar.objectList >>= fun objects => objects.mapM read >>= fun items =>
      Pure.pure (use items)) :=
  .bind Advancing.objectList.guarded fun objects => .bind (.mapM reads objects) fun _ => .pure _

/-! ## Models -/

theorem Guarded.typeRef : Guarded Grammar.typeRef :=
  .bind .expectName fun _ => .bind .takeIf fun _ => .pure _

theorem Advancing.scalarText : Advancing Grammar.scalarText :=
  (accept rfl _).bind fun _ => .pure _

theorem Advancing.enumValues : Advancing Grammar.enumValues :=
  group (.commaSeparated .scalarText) fun _ _ => .pure _

/-- The mark of a feature, if one begins here, and its content. -/
theorem feature_eq (property : Property) : ∃ content : Option Feature → Parser Property,
    Grammar.feature property = Parser.takeFound featureAt? Feature.markLength >>= content ∧
      ∀ found, Guarded (content found) := by
  refine ⟨_, rfl, fun found => ?_⟩
  match found with
  | none | some .required => exact .pure _
  | some .default => exact .bind Advancing.scalarText.guarded fun _ => .pure _
  | some .enumeration => exact .bind Advancing.enumValues.guarded fun _ => .pure _

theorem Guarded.feature (property : Property) : Guarded (Grammar.feature property) := by
  obtain ⟨content, same, contents⟩ := feature_eq property
  rw [same]
  exact .bind (.takeFound _ _) contents

/-- A feature is read only where one begins, so that its mark is taken. -/
theorem takesWhile_feature : TakesWhile (fun _ tokens => (featureAt? tokens).isSome)
    (fun property => Grammar.feature property >>= fun property =>
      Parser.skipCommas >>= fun _ => pure property) := by
  intro stop property tokens next rest reports begins run
  obtain ⟨property', between, _, _, run', behind, _⟩ := Parser.bind_eq_ok run
  obtain ⟨content, same, contents⟩ := feature_eq property
  rw [same] at run'
  have taken : between.length < tokens.length :=
    Guarded.takes_found contents rfl (by rintro ⟨⟩ <;> decide) begins run'
  have commas : Guarded (Parser.skipCommas >>= fun _ => pure property') :=
    .bind .skipCommas fun _ => .pure _
  have left := (commas.suffix_of_ok behind).length_le
  omega

theorem Advancing.property : Advancing Grammar.property :=
  expectKey.bind fun _ => .bind .typeRef fun _ => .loop (fun property =>
    .bind (.feature property) fun _ => .bind .skipCommas fun _ => .pure _) takesWhile_feature _

theorem Advancing.model : Advancing Grammar.model :=
  (expect (by simp)).bind fun _ => .bind .expectName fun _ =>
    (group (.itemsUntil .property) fun _ _ => .pure _).guarded

/-! ## Screens -/

theorem Advancing.screenParameters : Advancing Grammar.screenParameters :=
  group (.itemsUntil (expectKey.bind fun _ => .bind .typeRef fun _ => .bind (.flag _) fun _ =>
    .pure _)) fun _ _ => .pure _

theorem Guarded.componentOf (place : Position) (fields : Fields Value) :
    Guarded (Grammar.componentOf place fields) := by
  unfold Grammar.componentOf
  split
  · exact .pure _
  · exact .fail _ _

theorem Guarded.formFieldOf (place : Position) (fields : Fields Value) :
    Guarded (Grammar.formFieldOf place fields) := by
  unfold Grammar.formFieldOf
  split
  · exact .pure _
  · exact .fail _ _

theorem Guarded.navItemOf (place : Position) (fields : Fields Value) :
    Guarded (Grammar.navItemOf place fields) := by
  unfold Grammar.navItemOf
  split
  · exact .pure _
  · exact .fail _ _

theorem Advancing.actions : Advancing Grammar.actions :=
  group (.itemsUntil (expectKey.bind fun _ => .bind Advancing.object.guarded fun _ => .pure _))
    fun _ _ => .pure _

theorem Guarded.layoutAttribute (key : Token) (layout : Layout) :
    Guarded (Grammar.layoutAttribute key layout) := by
  unfold Grammar.layoutAttribute
  split
  · refine .bind .expectName fun kind => ?_
    split
    · exact .pure _
    · exact .fail _ _
  · exact .objectsOf (.componentOf key.place) _
  · exact .objectsOf (.formFieldOf key.place) _
  · exact .bind Advancing.actions.guarded fun _ => .pure _
  · exact .bind .expectText fun _ => .pure _
  · exact .bind .expectText fun _ => .pure _
  · exact .fail _ _

theorem Advancing.layoutEntry (state : Layout × Bool) : Advancing (Grammar.layoutEntry state) :=
  expectKey.bind fun key => .bind (.layoutAttribute key state.1) fun _ => .bind .skipCommas fun _ =>
    .pure _

theorem Advancing.layout : Advancing Grammar.layout := by
  refine group (.untilClosed .layoutEntry _) fun opening found => ?_
  split
  · exact .pure _
  · exact .fail _ _

theorem Guarded.screenAttribute (key : Token) (screen : OpenScreen) :
    Guarded (Grammar.screenAttribute key screen) := by
  unfold Grammar.screenAttribute
  split
  · exact .bind .expectText fun _ => .pure _
  · exact .bind Advancing.screenParameters.guarded fun _ => .pure _
  · exact .bind Advancing.layout.guarded fun _ => .pure _
  · exact .fail _ _

theorem Advancing.screenEntry (screen : OpenScreen) : Advancing (Grammar.screenEntry screen) :=
  flag_bind (.pure _) (entry fun key => .screenAttribute key screen)

theorem Advancing.screen : Advancing Grammar.screen := by
  refine (expect (by simp)).bind fun keyword => .bind .expectName fun name =>
    (group (.untilClosed .screenEntry _) fun _ body => ?_).guarded
  simp only
  split
  · exact .bind (.report _ _) fun _ => .pure _
  · exact .pure _

/-! ## Navigation -/

theorem Advancing.openSection (keyword : Keyword) : Advancing (Grammar.openSection keyword) :=
  (expect (by simp)).bind fun _ => .bind (.option _) fun _ => .bind .expectSymbol fun _ => .pure _

/-- A section begins with its keyword. -/
theorem Advancing.section {keyword : Keyword} {α β : Type} {content : Parser α}
    {next : Token → α → Parser β} (contents : Guarded content)
    (nexts : ∀ token found, Guarded (next token found)) :
    Advancing (Grammar.openSection keyword >>= fun token => content >>= fun found =>
      Parser.expectSymbol .rightBrace >>= fun _ => next token found) :=
  (openSection keyword).bind fun token => .bind contents fun found => .bind .expectSymbol fun _ =>
    nexts token found

theorem Guarded.navigationAttribute (key : Token) (navigation : OpenNavigation) :
    Guarded (Grammar.navigationAttribute key navigation) := by
  unfold Grammar.navigationAttribute
  split
  · refine .bind .expectName fun kind => ?_
    split
    · exact .pure _
    · exact .fail _ _
  · exact .objectsOf (.navItemOf key.place) _
  · exact .fail _ _

theorem Advancing.navigation : Advancing Grammar.navigation := by
  refine .section (.untilClosed (fun navigation => entry fun key =>
    .navigationAttribute key navigation) _) fun keyword body => ?_
  split
  · exact .pure _
  · exact .fail _ _

/-! ## The interface -/

theorem Guarded.parameterAttribute (key : Token) (parameter : OpenParameter) :
    Guarded (Grammar.parameterAttribute key parameter) := by
  unfold Grammar.parameterAttribute
  split
  · exact .bind .expectName fun _ => .pure _
  · exact .bind .typeRef fun _ => .pure _
  · exact .bind .expectFlag fun _ => .pure _
  · exact .fail _ _

theorem Advancing.parameterEntry (parameter : OpenParameter) :
    Advancing (Grammar.parameterEntry parameter) :=
  flag_bind (.pure _) (entry fun key => .parameterAttribute key parameter)

theorem Advancing.endpointParameter : Advancing Grammar.endpointParameter := by
  refine group (.untilClosed .parameterEntry _) fun opening body => ?_
  split
  · exact .pure _
  · exact .fail _ _

theorem Advancing.endpointParameters : Advancing Grammar.endpointParameters :=
  group (.itemsUntil .endpointParameter) fun _ _ => .pure _

theorem Guarded.endpointAttribute (key : Token) (endpoint : OpenEndpoint) :
    Guarded (Grammar.endpointAttribute key endpoint) := by
  unfold Grammar.endpointAttribute
  split
  · exact .bind .expectName fun _ => .pure _
  · exact .bind .expectText fun _ => .pure _
  · refine .bind .expectName fun method => ?_
    split
    · exact .pure _
    · exact .fail _ _
  · exact .bind Advancing.endpointParameters.guarded fun _ => .pure _
  · exact .bind .expectName fun _ => .pure _
  · exact .bind .typeRef fun _ => .pure _
  · exact .fail _ _

theorem Advancing.endpointBody (id : Option String) : Advancing (Grammar.endpointBody id) := by
  refine group (.untilClosed (fun endpoint => entry fun key => .endpointAttribute key endpoint) _)
    fun opening body => ?_
  split
  · exact .fail _ _
  · exact .fail _ _
  · exact .fail _ _
  · exact .pure _

theorem Guarded.apiAttribute (key : Token) (api : OpenApi) :
    Guarded (Grammar.apiAttribute key api) := by
  unfold Grammar.apiAttribute
  split
  · exact .bind .expectText fun _ => .pure _
  · exact .bind .expectFlag fun _ => .pure _
  · exact (Advancing.group (.commaSeparated (.endpointBody none)) fun _ _ => .pure _).guarded
  · exact .fail _ _

theorem Advancing.apiEntry (api : OpenApi) : Advancing (Grammar.apiEntry api) :=
  flag_bind (.pure _) (option_bind (.bind .expectName fun _ =>
    .bind (Advancing.endpointBody _).guarded fun _ => .pure _)
      (entry fun key => .apiAttribute key api))

theorem Advancing.api : Advancing Grammar.api := by
  refine .section (.untilClosed .apiEntry _) fun keyword body => ?_
  split
  · exact .pure _
  · exact .fail _ _

theorem Advancing.mockData : Advancing Grammar.mockData :=
  .section (.untilClosed (fun _ => entry fun _ => Advancing.objectList.guarded) _) fun _ _ => .pure _

end Blueprint
