import Blueprint.Document.Parse
import Blueprint.Proofs.Pointing

/-!
Every routine below a statement points: the values, the models, the screens without their titles, the
navigation, the interface, the mock data and the theme of a header.
-/
set_option autoImplicit false

namespace Blueprint.Points

open Grammar

variable {known : List Token}

/-! ## Values -/

theorem number (text : String) : Points known (Grammar.number text) := by
  unfold Grammar.number
  simp only
  split
  · exact pure _
  · split
    · exact pure _
    · exact failOversized

theorem dottedName : Points known Grammar.dottedName :=
  expectName.bind fun _ => (loop (fun _ => expectSymbol.bind fun _ => expectName.bind fun _ => pure _)
    _).bind fun _ => pure _

theorem objectKey : Points known Grammar.objectKey := by
  refine (isAt .string).bind fun isText => ?_
  cases isText with
  | true => exact expectText
  | false => exact expectName.bind fun _ => pure _

section Inner

variable {inner : Parser Value} (inners : Points known inner)
include inners

theorem entryContent : Points known (Grammar.entryContent inner) := by
  refine (option _).bind fun hasContent => ?_
  cases hasContent with
  | true => exact inners
  | false => exact pure _

theorem objectOf : Points known (Grammar.objectOf inner) := by
  refine expectSymbol.bind fun _ => (untilClosed _ (fun _ => ?_) _).bind fun _ =>
    expectSymbol.bind fun _ => pure _
  exact objectKey.bind fun _ => (entryContent inners).bind fun _ => skipCommas.bind fun _ => pure _

theorem listOf : Points known (Grammar.listOf inner) :=
  expectSymbol.bind fun _ => (commaSeparated inners).bind fun _ => expectSymbol.bind fun _ => pure _

theorem valueOf : Points known (Grammar.valueOf inner) := by
  refine current.bind fun token => ?_
  split
  · exact expectText.bind fun _ => pure _
  · exact (expect (by simp)).bind fun token => number token.value
  · exact expectFlag.bind fun _ => pure _
  · exact expectFlag.bind fun _ => pure _
  · exact (objectOf inners).bind fun _ => pure _
  · exact (listOf inners).bind fun _ => pure _
  · split
    · exact dottedName.bind fun _ => pure _
    · exact unexpected _

end Inner

theorem valueWithin (depth : Nat) : Points known (Grammar.valueWithin depth) := by
  induction depth with
  | zero => exact unexpected _
  | succ depth ih => exact valueOf ih

theorem value : Points known Grammar.value :=
  fun stop tokens => valueWithin (tokens.length + 1) stop tokens

theorem object : Points known Grammar.object :=
  objectOf value

theorem objectList : Points known Grammar.objectList :=
  expectSymbol.bind fun _ => (itemsUntil _ object).bind fun _ => expectSymbol.bind fun _ => pure _

/-! ## Models -/

theorem typeRef : Points known Grammar.typeRef :=
  expectName.bind fun _ => takeIf.bind fun _ => pure _

theorem scalarText : Points known Grammar.scalarText :=
  (accept rfl _).bind fun _ => pure _

theorem enumValues : Points known Grammar.enumValues :=
  expectSymbol.bind fun _ => (commaSeparated scalarText).bind fun _ => expectSymbol.bind fun _ => pure _

theorem feature (property : Property) : Points known (Grammar.feature property) := by
  refine takeFound.bind fun found => ?_
  match found with
  | none | some .required => exact pure _
  | some .default => exact scalarText.bind fun _ => pure _
  | some .enumeration => exact enumValues.bind fun _ => pure _

theorem property : Points known Grammar.property :=
  expectKey_bind fun _ => typeRef.bind fun _ =>
    loop (fun property => (feature property).bind fun _ => skipCommas.bind fun _ => pure _) _

theorem model : Points known Grammar.model :=
  (expect (by simp)).bind fun _ => expectName.bind fun _ => expectSymbol.bind fun _ =>
    (itemsUntil _ property).bind fun _ => expectSymbol.bind fun _ => pure _

/-! ## Screens -/

theorem screenParameters : Points known Grammar.screenParameters := by
  refine expectSymbol.bind fun _ => (itemsUntil _ ?_).bind fun _ => expectSymbol.bind fun _ => pure _
  exact expectKey_bind fun _ => typeRef.bind fun _ => (flag _).bind fun _ => pure _

section Key

variable {key : Token} (isKnown : key ∈ known)
include isKnown

theorem componentOf (fields : Fields Value) : Points known (Grammar.componentOf key.place fields) := by
  unfold Grammar.componentOf
  split
  · exact pure _
  · exact fail (by nofun) isKnown

theorem formFieldOf (fields : Fields Value) : Points known (Grammar.formFieldOf key.place fields) := by
  unfold Grammar.formFieldOf
  split
  · exact pure _
  · exact fail (by nofun) isKnown

theorem navItemOf (fields : Fields Value) : Points known (Grammar.navItemOf key.place fields) := by
  unfold Grammar.navItemOf
  split
  · exact pure _
  · exact fail (by nofun) isKnown

end Key

theorem actions : Points known Grammar.actions := by
  refine expectSymbol.bind fun _ => (itemsUntil _ ?_).bind fun _ => expectSymbol.bind fun _ => pure _
  exact expectKey_bind fun _ => object.bind fun _ => pure _

theorem layoutAttribute {key : Token} (isKnown : key ∈ known) (layout : Layout) :
    Points known (Grammar.layoutAttribute key layout) := by
  unfold Grammar.layoutAttribute
  split
  · refine expectName_bind fun kind => ?_
    split
    · exact pure _
    · exact fail (by nofun) (List.mem_append_right _ List.mem_cons_self)
  · exact objectList.bind fun objects => (mapM (componentOf isKnown) objects).bind fun _ => pure _
  · exact objectList.bind fun objects => (mapM (formFieldOf isKnown) objects).bind fun _ => pure _
  · exact actions.bind fun _ => pure _
  · exact expectText.bind fun _ => pure _
  · exact expectText.bind fun _ => pure _
  · exact fail (by nofun) isKnown

/-- What stands behind a key may blame the key. -/
theorem entry {α : Type} {content : Token → Parser α} {β : Type} {next : Token → α → β}
    (contents : ∀ key, Points (known ++ [key]) (content key)) :
    Points known (Parser.expectKey >>= fun key => content key >>= fun found =>
      Parser.skipCommas >>= fun _ => Pure.pure (next key found)) :=
  expectKey_bind fun key => (contents key).bind fun _ => skipCommas.bind fun _ => pure _

theorem mem_last (key : Token) : key ∈ known ++ [key] :=
  List.mem_append_right known List.mem_cons_self

theorem layoutEntry (state : Layout × Bool) : Points known (Grammar.layoutEntry state) :=
  expectKey_bind fun key => (layoutAttribute (mem_last key) state.1).bind fun _ =>
    skipCommas.bind fun _ => pure _

theorem layout : Points known Grammar.layout := by
  refine expectSymbol_bind fun opening => (untilClosed _ layoutEntry _).bind fun _ =>
    expectSymbol.bind fun _ => ?_
  split
  · exact pure _
  · exact fail (by nofun) (mem_last opening)

theorem screenAttribute {key : Token} (isKnown : key ∈ known) (screen : OpenScreen) :
    Points known (Grammar.screenAttribute key screen) := by
  unfold Grammar.screenAttribute
  split
  · exact expectText.bind fun _ => pure _
  · exact screenParameters.bind fun _ => pure _
  · exact layout.bind fun _ => pure _
  · exact fail (by nofun) isKnown

theorem screenEntry (screen : OpenScreen) : Points known (Grammar.screenEntry screen) := by
  refine (flag _).bind fun isInitial => ?_
  split
  · exact pure _
  · exact entry fun key => screenAttribute (mem_last key) screen

/-! ## Navigation -/

theorem openSection_bind {keyword : Keyword} {β : Type} {next : Token → Parser β}
    (nexts : ∀ token, Points (known ++ [token]) (next token)) :
    Points known (Grammar.openSection keyword >>= next) := by
  rw [Grammar.openSection, bind_assoc]
  refine expect_bind (fun token => ?_) (by simp)
  rw [bind_assoc]
  refine (option _).bind fun _ => ?_
  rw [bind_assoc]
  refine expectSymbol.bind fun _ => ?_
  rw [pure_bind]
  exact nexts token

theorem navigationAttribute {key : Token} (isKnown : key ∈ known) (navigation : OpenNavigation) :
    Points known (Grammar.navigationAttribute key navigation) := by
  unfold Grammar.navigationAttribute
  split
  · refine expectName_bind fun kind => ?_
    split
    · exact pure _
    · exact fail (by nofun) (mem_last kind)
  · exact objectList.bind fun objects => (mapM (navItemOf isKnown) objects).bind fun _ => pure _
  · exact fail (by nofun) isKnown

theorem navigation : Points known Grammar.navigation := by
  refine openSection_bind fun keyword => ?_
  refine (untilClosed _ (fun navigation => entry fun key =>
    navigationAttribute (mem_last key) navigation) _).bind fun body => expectSymbol.bind fun _ => ?_
  split
  · exact pure _
  · exact fail (by nofun) (mem_last keyword)

/-! ## The interface -/

theorem parameterAttribute {key : Token} (isKnown : key ∈ known) (parameter : OpenParameter) :
    Points known (Grammar.parameterAttribute key parameter) := by
  unfold Grammar.parameterAttribute
  split
  · exact expectName.bind fun _ => pure _
  · exact typeRef.bind fun _ => pure _
  · exact expectFlag.bind fun _ => pure _
  · exact fail (by nofun) isKnown

theorem parameterEntry (parameter : OpenParameter) :
    Points known (Grammar.parameterEntry parameter) := by
  refine (flag _).bind fun required => ?_
  split
  · exact pure _
  · exact entry fun key => parameterAttribute (mem_last key) parameter

theorem endpointParameter : Points known Grammar.endpointParameter := by
  refine expectSymbol_bind fun opening => (untilClosed _ parameterEntry _).bind fun body =>
    expectSymbol.bind fun _ => ?_
  split
  · exact pure _
  · exact fail (by nofun) (mem_last opening)

theorem endpointParameters : Points known Grammar.endpointParameters :=
  expectSymbol.bind fun _ => (itemsUntil _ endpointParameter).bind fun _ =>
    expectSymbol.bind fun _ => pure _

theorem endpointAttribute {key : Token} (isKnown : key ∈ known) (endpoint : OpenEndpoint) :
    Points known (Grammar.endpointAttribute key endpoint) := by
  unfold Grammar.endpointAttribute
  split
  · exact expectName.bind fun _ => pure _
  · exact expectText.bind fun _ => pure _
  · refine expectName_bind fun method => ?_
    split
    · exact pure _
    · exact fail (by nofun) (mem_last method)
  · exact endpointParameters.bind fun _ => pure _
  · exact expectName.bind fun _ => pure _
  · exact typeRef.bind fun _ => pure _
  · exact fail (by nofun) isKnown

theorem endpointBody (id : Option String) : Points known (Grammar.endpointBody id) := by
  refine expectSymbol_bind fun opening => (untilClosed _ (fun endpoint => entry fun key =>
    endpointAttribute (mem_last key) endpoint) _).bind fun body => expectSymbol.bind fun _ => ?_
  split
  · exact fail (by nofun) (mem_last opening)
  · exact fail (by nofun) (mem_last opening)
  · exact fail (by nofun) (mem_last opening)
  · exact pure _

theorem apiAttribute {key : Token} (isKnown : key ∈ known) (api : OpenApi) :
    Points known (Grammar.apiAttribute key api) := by
  unfold Grammar.apiAttribute
  split
  · exact expectText.bind fun _ => pure _
  · exact expectFlag.bind fun _ => pure _
  · exact expectSymbol.bind fun _ => (commaSeparated (endpointBody none)).bind fun _ =>
      expectSymbol.bind fun _ => pure _
  · exact fail (by nofun) isKnown

theorem apiEntry (api : OpenApi) : Points known (Grammar.apiEntry api) := by
  refine (flag _).bind fun isMock => ?_
  split
  · exact pure _
  · refine (option _).bind fun isEndpoint => ?_
    split
    · exact expectName.bind fun _ => (endpointBody _).bind fun _ => pure _
    · exact entry fun key => apiAttribute (mem_last key) api

theorem api : Points known Grammar.api := by
  refine openSection_bind fun keyword => (untilClosed _ apiEntry _).bind fun body =>
    expectSymbol.bind fun _ => ?_
  split
  · exact pure _
  · exact fail (by nofun) (mem_last keyword)

/-! ## Mock data and themes -/

theorem mockData : Points known Grammar.mockData :=
  openSection_bind fun _ => (untilClosed _ (fun _ => entry fun _ => objectList) _).bind fun _ =>
    expectSymbol.bind fun _ => pure _

theorem theme : Points known Grammar.theme :=
  expectSymbol.bind fun _ => (untilClosed _ (fun _ => entry fun _ => expectText) _).bind fun _ =>
    expectSymbol.bind fun _ => pure _

end Blueprint.Points
