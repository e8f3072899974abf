import Blueprint.Document.Parse
import Blueprint.Proofs.Places

/-!
The grammar does not see places: sources whose tokens differ in their places only are read as the same
document, with the same problems reported.
-/
set_option autoImplicit false

namespace Blueprint

open Grammar

namespace Blind

/-! ## Values -/

theorem number (text : String) : Blind Eq (Grammar.number text) (Grammar.number text) := by
  unfold Grammar.number
  simp only
  split
  · exact pure rfl
  · split
    · exact pure rfl
    · exact failOversized

theorem dottedName : Blind Eq Grammar.dottedName Grammar.dottedName := by
  refine expectName.bind ?_
  intro first first' names
  rw [names.2]
  refine (loop Eq ?_ ?_ rfl).bind ?_
  · intro _ _ tokens tokens' _ alike
    cases alike with
    | nil => rfl
    | cons dot tail =>
      cases tail with
      | nil => rfl
      | cons name _ => simp only [startsWithPart, dot.1, name.1]
  · rintro parts _ rfl
    refine (expectSymbol .dot).bind fun _ => expectName.bind fun names => ?_
    rw [names.2]
    exact pure rfl
  · rintro parts _ rfl
    exact pure rfl

theorem objectKey : Blind Eq Grammar.objectKey Grammar.objectKey := by
  refine (isAt .string).bind ?_
  rintro isText _ rfl
  cases isText with
  | true => exact expectText
  | false => exact expectName.bind fun names => pure names.2

theorem entryContent {value : Parser Value} (values : Blind Eq value value) :
    Blind Eq (Grammar.entryContent value) (Grammar.entryContent value) := by
  refine (option (.symbol .colon)).bind ?_
  rintro hasContent _ rfl
  cases hasContent with
  | true => exact values
  | false => exact pure rfl

theorem objectOf {value : Parser Value} (values : Blind Eq value value) :
    Blind Eq (Grammar.objectOf value) (Grammar.objectOf value) := by
  refine (expectSymbol .leftBrace).bind fun _ => (untilClosed .rightBrace ?_ rfl).bind ?_
  · rintro fields _ rfl
    refine objectKey.bind ?_
    rintro key _ rfl
    refine (entryContent values).bind ?_
    rintro content _ rfl
    exact skipCommas.bind fun _ => pure rfl
  · rintro fields _ rfl
    exact (expectSymbol .rightBrace).bind fun _ => pure rfl

theorem listOf {value : Parser Value} (values : Blind Eq value value) :
    Blind Eq (Grammar.listOf value) (Grammar.listOf value) := by
  refine (expectSymbol .leftBracket).bind fun _ => (commaSeparated values).bind ?_
  rintro items _ rfl
  exact (expectSymbol .rightBracket).bind fun _ => pure rfl

theorem valueOf {inner : Parser Value} (inners : Blind Eq inner inner) :
    Blind Eq (Grammar.valueOf inner) (Grammar.valueOf inner) := by
  refine current.bind ?_
  intro token token' tokens
  rw [tokens.1]
  split
  · exact expectText.bind fun texts => pure (by rw [texts])
  · refine (expect .number).bind fun tokens => ?_
    rw [tokens.2]
    exact number _
  · exact expectFlag.bind fun flags => pure (by rw [flags])
  · exact expectFlag.bind fun flags => pure (by rw [flags])
  · exact (objectOf inners).bind fun objects => pure (by rw [objects])
  · exact (listOf inners).bind fun lists => pure (by rw [lists])
  · split
    · exact dottedName.bind fun names => pure (by rw [names])
    · exact unexpected .value

theorem valueWithin (depth : Nat) :
    Blind Eq (Grammar.valueWithin depth) (Grammar.valueWithin depth) := by
  induction depth with
  | zero => exact unexpected .value
  | succ depth ih => exact valueOf ih

theorem value : Blind Eq Grammar.value Grammar.value := by
  intro stop stop' tokens tokens' alike
  unfold Grammar.value
  rw [alike.length_eq]
  exact valueWithin _ stop stop' tokens tokens' alike

theorem object : Blind Eq Grammar.object Grammar.object :=
  objectOf value

theorem objectList : Blind Eq Grammar.objectList Grammar.objectList := by
  refine (expectSymbol .leftBracket).bind fun _ => (itemsUntil .rightBracket object).bind ?_
  rintro objects _ rfl
  exact (expectSymbol .rightBracket).bind fun _ => pure rfl

/-! ## Models -/

theorem typeRef : Blind Eq Grammar.typeRef Grammar.typeRef := by
  refine expectName.bind fun names => (takeIf 2 ?_).bind ?_
  · intro tokens tokens' alike
    cases alike with
    | nil => rfl
    | cons opening tail =>
      cases tail with
      | nil => rfl
      | cons closing _ => simp only [startsWithBrackets, opening.1, closing.1]
  · rintro isArray _ rfl
    exact pure (by rw [names.2])

theorem scalarText : Blind Eq Grammar.scalarText Grammar.scalarText :=
  (accept _ _).bind fun tokens => pure tokens.2

theorem enumValues : Blind Eq Grammar.enumValues Grammar.enumValues := by
  refine (expectSymbol .leftBracket).bind fun _ => (commaSeparated scalarText).bind ?_
  rintro values _ rfl
  exact (expectSymbol .rightBracket).bind fun _ => pure rfl

theorem featureAt?_same {tokens tokens' : List Token} (alike : SameTokens tokens tokens') :
    featureAt? tokens = featureAt? tokens' := by
  cases alike with
  | nil => rfl
  | cons head tail => simp only [featureAt?, head.1, head.2, startsWith_same tail]

theorem feature (property : Property) :
    Blind Eq (Grammar.feature property) (Grammar.feature property) := by
  refine (takeFound featureAt?_same _).bind ?_
  rintro found _ rfl
  match found with
  | none => exact pure rfl
  | some .required => exact pure rfl
  | some .default => exact scalarText.bind fun texts => pure (by rw [texts])
  | some .enumeration => exact enumValues.bind fun values => pure (by rw [values])

theorem property : Blind Eq Grammar.property Grammar.property := by
  refine expectKey.bind fun names => typeRef.bind ?_
  rintro type _ rfl
  rw [names.2]
  refine loop Eq ?_ ?_ rfl
  · rintro _ _ tokens tokens' _ alike
    rw [featureAt?_same alike]
  · rintro property _ rfl
    refine (feature property).bind ?_
    rintro next _ rfl
    exact skipCommas.bind fun _ => pure rfl

theorem model : Blind Eq Grammar.model Grammar.model := by
  refine (expect _).bind fun _ => expectName.bind fun names => ?_
  refine (expectSymbol .leftBrace).bind fun _ => (itemsUntil .rightBrace property).bind ?_
  rintro properties _ rfl
  exact (expectSymbol .rightBrace).bind fun _ => pure (by rw [names.2])

/-! ## Screens -/

theorem screenParameters : Blind Eq Grammar.screenParameters Grammar.screenParameters := by
  refine (expectSymbol .leftBrace).bind fun _ => (itemsUntil .rightBrace ?_).bind ?_
  · refine expectKey.bind fun names => typeRef.bind ?_
    rintro type _ rfl
    refine (flag "required").bind ?_
    rintro required _ rfl
    exact pure (by rw [names.2])
  · rintro parameters _ rfl
    exact (expectSymbol .rightBrace).bind fun _ => pure rfl

theorem componentOf (place place' : Position) (fields : Fields Value) :
    Blind Eq (Grammar.componentOf place fields) (Grammar.componentOf place' fields) := by
  unfold Grammar.componentOf
  split
  · exact pure rfl
  · exact fail _ place place'

theorem formFieldOf (place place' : Position) (fields : Fields Value) :
    Blind Eq (Grammar.formFieldOf place fields) (Grammar.formFieldOf place' fields) := by
  unfold Grammar.formFieldOf
  split
  · exact pure rfl
  · exact fail _ place place'

theorem actions : Blind Eq Grammar.actions Grammar.actions := by
  refine (expectSymbol .leftBrace).bind fun _ => (itemsUntil .rightBrace ?_).bind ?_
  · refine expectKey.bind fun events => object.bind ?_
    rintro fields _ rfl
    exact pure (by rw [events.2])
  · rintro actions _ rfl
    exact (expectSymbol .rightBrace).bind fun _ => pure rfl

theorem layoutAttribute {key key' : Token} (keys : key.Same key') (layout : Layout) :
    Blind Eq (Grammar.layoutAttribute key layout) (Grammar.layoutAttribute key' layout) := by
  unfold Grammar.layoutAttribute
  rw [keys.2]
  split
  · refine expectName.bind fun kinds => ?_
    rw [kinds.2]
    split
    · exact pure rfl
    · exact fail _ _ _
  · refine objectList.bind ?_
    rintro objects _ rfl
    exact (mapM (componentOf _ _) objects).bind fun components => pure (by rw [components])
  · refine objectList.bind ?_
    rintro objects _ rfl
    exact (mapM (formFieldOf _ _) objects).bind fun fields => pure (by rw [fields])
  · exact actions.bind fun actions => pure (by rw [actions])
  · exact expectText.bind fun texts => pure (by rw [texts])
  · exact expectText.bind fun texts => pure (by rw [texts])
  · exact fail _ _ _

theorem layout : Blind Eq Grammar.layout Grammar.layout := by
  refine (expectSymbol .leftBrace).bind fun _ => (untilClosed .rightBrace ?_ rfl).bind ?_
  · rintro ⟨layout, typed⟩ _ rfl
    refine expectKey.bind fun keys => (layoutAttribute keys layout).bind ?_
    rintro ⟨layout, isType⟩ _ rfl
    exact skipCommas.bind fun _ => pure rfl
  · rintro ⟨layout, typed⟩ _ rfl
    refine (expectSymbol .rightBrace).bind fun _ => ?_
    cases typed with
    | true => exact pure rfl
    | false => exact fail _ _ _

theorem screenAttribute {key key' : Token} (keys : key.Same key') (screen : OpenScreen) :
    Blind Eq (Grammar.screenAttribute key screen) (Grammar.screenAttribute key' screen) := by
  unfold Grammar.screenAttribute
  rw [keys.2]
  split
  · exact expectText.bind fun texts => pure (by rw [texts])
  · exact screenParameters.bind fun parameters => pure (by rw [parameters])
  · exact layout.bind fun layouts => pure (by rw [layouts])
  · exact fail _ _ _

theorem screenEntry (screen : OpenScreen) :
    Blind Eq (Grammar.screenEntry screen) (Grammar.screenEntry screen) := by
  refine (flag "initial").bind ?_
  rintro isInitial _ rfl
  cases isInitial with
  | true => exact pure rfl
  | false =>
    refine expectKey.bind fun keys => (screenAttribute keys screen).bind ?_
    rintro next _ rfl
    exact skipCommas.bind fun _ => pure rfl

theorem screen : Blind Eq Grammar.screen Grammar.screen := by
  refine (expect _).bind fun _ => expectName.bind fun names => ?_
  rw [names.2]
  refine (expectSymbol .leftBrace).bind fun _ => (untilClosed .rightBrace ?_ rfl).bind ?_
  · rintro screen _ rfl
    exact screenEntry screen
  · rintro body _ rfl
    refine (expectSymbol .rightBrace).bind fun _ => ?_
    split
    · exact (report _ _ _).bind fun _ => pure rfl
    · exact pure rfl

/-! ## Navigation -/

theorem openSection (keyword : Keyword) :
    Blind Token.Same (Grammar.openSection keyword) (Grammar.openSection keyword) :=
  (expect _).bind fun keywords => (option _).bind fun _ => (expectSymbol .leftBrace).bind fun _ =>
    pure keywords

theorem navItemOf (place place' : Position) (fields : Fields Value) :
    Blind Eq (Grammar.navItemOf place fields) (Grammar.navItemOf place' fields) := by
  unfold Grammar.navItemOf
  split
  · exact pure rfl
  · exact fail _ place place'

theorem navigationAttribute {key key' : Token} (keys : key.Same key')
    (navigation : OpenNavigation) : Blind Eq (Grammar.navigationAttribute key navigation)
      (Grammar.navigationAttribute key' navigation) := by
  unfold Grammar.navigationAttribute
  rw [keys.2]
  split
  · refine expectName.bind fun kinds => ?_
    rw [kinds.2]
    split
    · exact pure rfl
    · exact fail _ _ _
  · refine objectList.bind ?_
    rintro objects _ rfl
    exact (mapM (navItemOf _ _) objects).bind fun items => pure (by rw [items])
  · exact fail _ _ _

theorem navigation : Blind Eq Grammar.navigation Grammar.navigation := by
  refine (openSection .navigation).bind fun _ => (untilClosed .rightBrace ?_ rfl).bind ?_
  · rintro body _ rfl
    refine expectKey.bind fun keys => (navigationAttribute keys body).bind ?_
    rintro next _ rfl
    exact skipCommas.bind fun _ => pure rfl
  · rintro body _ rfl
    refine (expectSymbol .rightBrace).bind fun _ => ?_
    split
    · exact pure rfl
    · exact fail _ _ _

/-! ## The interface -/

theorem parameterAttribute {key key' : Token} (keys : key.Same key') (parameter : OpenParameter) :
    Blind Eq (Grammar.parameterAttribute key parameter)
      (Grammar.parameterAttribute key' parameter) := by
  unfold Grammar.parameterAttribute
  rw [keys.2]
  split
  · exact expectName.bind fun names => pure (by rw [names.2])
  · exact typeRef.bind fun types => pure (by rw [types])
  · exact expectFlag.bind fun flags => pure (by rw [flags])
  · exact fail _ _ _

theorem parameterEntry (parameter : OpenParameter) :
    Blind Eq (Grammar.parameterEntry parameter) (Grammar.parameterEntry parameter) := by
  refine (flag "required").bind ?_
  rintro required _ rfl
  cases required with
  | true => exact pure rfl
  | false =>
    refine expectKey.bind fun keys => (parameterAttribute keys parameter).bind ?_
    rintro next _ rfl
    exact skipCommas.bind fun _ => pure rfl

theorem endpointParameter : Blind Eq Grammar.endpointParameter Grammar.endpointParameter := by
  refine (expectSymbol .leftBrace).bind fun _ => (untilClosed .rightBrace ?_ rfl).bind ?_
  · rintro parameter _ rfl
    exact parameterEntry parameter
  · rintro body _ rfl
    refine (expectSymbol .rightBrace).bind fun _ => ?_
    split
    · exact pure rfl
    · exact fail _ _ _

theorem endpointParameters : Blind Eq Grammar.endpointParameters Grammar.endpointParameters := by
  refine (expectSymbol .leftBracket).bind fun _ =>
    (itemsUntil .rightBracket endpointParameter).bind ?_
  rintro parameters _ rfl
  exact (expectSymbol .rightBracket).bind fun _ => pure rfl

theorem endpointAttribute {key key' : Token} (keys : key.Same key') (endpoint : OpenEndpoint) :
    Blind Eq (Grammar.endpointAttribute key endpoint) (Grammar.endpointAttribute key' endpoint) := by
  unfold Grammar.endpointAttribute
  rw [keys.2]
  split
  · exact expectName.bind fun names => pure (by rw [names.2])
  · exact expectText.bind fun texts => pure (by rw [texts])
  · refine expectName.bind fun methods => ?_
    rw [methods.2]
    split
    · exact pure rfl
    · exact fail _ _ _
  · exact endpointParameters.bind fun parameters => pure (by rw [parameters])
  · exact expectName.bind fun names => pure (by rw [names.2])
  · exact typeRef.bind fun types => pure (by rw [types])
  · exact fail _ _ _

theorem endpointBody (id : Option String) :
    Blind Eq (Grammar.endpointBody id) (Grammar.endpointBody id) := by
  refine (expectSymbol .leftBrace).bind fun _ => (untilClosed .rightBrace ?_ rfl).bind ?_
  · rintro endpoint _ rfl
    refine expectKey.bind fun keys => (endpointAttribute keys endpoint).bind ?_
    rintro next _ rfl
    exact skipCommas.bind fun _ => pure rfl
  · rintro body _ rfl
    refine (expectSymbol .rightBrace).bind fun _ => ?_
    split
    · exact fail _ _ _
    · exact fail _ _ _
    · exact fail _ _ _
    · exact pure rfl

theorem apiAttribute {key key' : Token} (keys : key.Same key') (api : OpenApi) :
    Blind Eq (Grammar.apiAttribute key api) (Grammar.apiAttribute key' api) := by
  unfold Grammar.apiAttribute
  rw [keys.2]
  split
  · exact expectText.bind fun texts => pure (by rw [texts])
  · exact expectFlag.bind fun flags => pure (by rw [flags])
  · refine (expectSymbol .leftBracket).bind fun _ => (commaSeparated (endpointBody none)).bind ?_
    rintro endpoints _ rfl
    exact (expectSymbol .rightBracket).bind fun _ => pure rfl
  · exact fail _ _ _

theorem apiEntry (api : OpenApi) : Blind Eq (Grammar.apiEntry api) (Grammar.apiEntry api) := by
  refine (flag "mock").bind ?_
  rintro isMock _ rfl
  cases isMock with
  | true => exact pure rfl
  | false =>
    refine (option _).bind ?_
    rintro isEndpoint _ rfl
    cases isEndpoint with
    | true =>
      refine expectName.bind fun names => ?_
      rw [names.2]
      exact (endpointBody _).bind fun endpoints => pure (by rw [endpoints])
    | false =>
      refine expectKey.bind fun keys => (apiAttribute keys api).bind ?_
      rintro next _ rfl
      exact skipCommas.bind fun _ => pure rfl

theorem api : Blind Eq Grammar.api Grammar.api := by
  refine (openSection .api).bind fun _ => (untilClosed .rightBrace ?_ rfl).bind ?_
  · rintro api _ rfl
    exact apiEntry api
  · rintro body _ rfl
    refine (expectSymbol .rightBrace).bind fun _ => ?_
    split
    · exact pure rfl
    · exact fail _ _ _

/-! ## The header -/

theorem getElem?_same {tokens tokens' : List Token} (alike : SameTokens tokens tokens')
    (ahead : Nat) : (tokens[ahead]?).map Token.kind = (tokens'[ahead]?).map Token.kind := by
  induction alike generalizing ahead with
  | nil => rfl
  | cons head _ ih =>
    cases ahead with
    | zero => simp only [List.getElem?_cons_zero, Option.map_some, head.1]
    | succ ahead => simpa only [List.getElem?_cons_succ] using ih ahead

theorem startsStatement_same {tokens tokens' : List Token} (alike : SameTokens tokens tokens') :
    startsStatement tokens = startsStatement tokens' := by
  simp only [startsStatement, getElem?_same alike]

theorem endsHeader_same {tokens tokens' : List Token} (alike : SameTokens tokens tokens') :
    endsHeader tokens = endsHeader tokens' := by
  rw [endsHeader, endsHeader, stillOpen_same alike, startsStatement_same alike]

theorem startsAttribute_same {tokens tokens' : List Token} (alike : SameTokens tokens tokens') :
    startsAttribute tokens = startsAttribute tokens' := by
  cases alike with
  | nil => rfl
  | cons key tail =>
    cases tail with
    | nil => rfl
    | cons colon _ => simp only [startsAttribute, key.1, colon.1]

theorem afterValue_same {tokens tokens' : List Token} (alike : SameTokens tokens tokens')
    (depth : Nat) : SameTokens (afterValue depth tokens) (afterValue depth tokens') := by
  induction alike generalizing depth with
  | nil => cases depth <;> exact .nil
  | cons head tail ih =>
    cases depth with
    | zero =>
      simp only [afterValue, head.1]
      split
      · exact .cons head tail
      · split
        · exact ih 1
        · exact tail
    | succ depth =>
      simp only [afterValue, head.1]
      split
      · exact ih (depth + 2)
      · split
        · split
          · exact tail
          · exact ih depth
        · exact ih (depth + 1)

theorem skipValue : Blind Eq Grammar.skipValue Grammar.skipValue :=
  skip fun alike => afterValue_same alike 0

theorem skipToAttribute : Blind Eq Grammar.skipToAttribute Grammar.skipToAttribute := by
  refine advance.bind fun _ => loop Eq ?_ ?_ rfl
  · intro _ _ tokens tokens' _ alike
    rw [endsHeader_same alike, startsAttribute_same alike]
  · intro _ _ _
    refine (isAt _).bind ?_
    rintro atBracket _ rfl
    cases atBracket with
    | true => exact advance.bind fun _ => pure rfl
    | false => exact skipValue

theorem platforms : Blind Eq Grammar.platforms Grammar.platforms := by
  refine (expectSymbol .leftBracket).bind fun _ => (commaSeparated ?_).bind ?_
  · refine expectName.bind fun names => ?_
    rw [names.2]
    simp only
    split
    · exact (report _ _ _).bind fun _ => pure rfl
    · exact pure rfl
  · rintro found _ rfl
    exact (expectSymbol .rightBracket).bind fun _ => pure rfl

theorem theme : Blind Eq Grammar.theme Grammar.theme := by
  refine (expectSymbol .leftBrace).bind fun _ => (untilClosed .rightBrace ?_ rfl).bind ?_
  · rintro fields _ rfl
    refine expectKey.bind fun keys => expectText.bind ?_
    rintro text _ rfl
    exact skipCommas.bind fun _ => pure (by rw [keys.2])
  · rintro fields _ rfl
    exact (expectSymbol .rightBrace).bind fun _ => pure rfl

theorem headerAttribute {key key' : Token} (keys : key.Same key') (header : Header) :
    Blind Eq (Grammar.headerAttribute key header) (Grammar.headerAttribute key' header) := by
  unfold Grammar.headerAttribute
  rw [keys.2]
  split
  · exact expectText.bind fun texts => pure (by rw [texts])
  · exact expectText.bind fun texts => pure (by rw [texts])
  · exact expectText.bind fun texts => pure (by rw [texts])
  · exact platforms.bind fun platforms => pure (by rw [platforms])
  · exact theme.bind fun themes => pure (by rw [themes])
  · exact fail _ _ _

theorem headerKey : Blind (Option.Rel Token.Same) Grammar.headerKey Grammar.headerKey := by
  refine orRetry ?_ ?_
  · exact expectKey.bind fun keys => pure (.some keys)
  · exact skipToAttribute.bind fun _ => pure .none

theorem headerContent {key key' : Token} (keys : key.Same key') (header : Header) :
    Blind Eq (Grammar.headerContent key header) (Grammar.headerContent key' header) :=
  orRetry (headerAttribute keys header) (skipValue.bind fun _ => pure rfl)

theorem headerEntry (body : OpenHeader) :
    Blind Eq (Grammar.headerEntry body) (Grammar.headerEntry body) := by
  refine headerKey.bind ?_
  intro key key' found
  cases found with
  | none => exact skipCommas.bind fun _ => pure rfl
  | some keys =>
    refine (headerContent keys body.header).bind ?_
    rintro header _ rfl
    exact skipCommas.bind fun _ => pure (by rw [keys.2])

theorem closeHeader (app : String) :
    Blind Eq (Grammar.closeHeader app) (Grammar.closeHeader app) := by
  refine (option _).bind ?_
  rintro closed _ rfl
  split
  · exact current.bind fun _ => report _ _ _
  · exact pure rfl

theorem reportMissing (app : String) (place place' : Position) (seen : List String) :
    Blind Eq (Grammar.reportMissing app place seen) (Grammar.reportMissing app place' seen) := by
  refine forM (fun required => ?_) _
  split
  · exact report _ _ _
  · exact pure rfl

theorem header : Blind Eq Grammar.header Grammar.header := by
  refine (expect _).bind fun _ => expectName.bind fun names => ?_
  rw [names.2]
  refine (expectSymbol .leftBrace).bind fun _ => (loop Eq ?_ ?_ rfl).bind ?_
  · intro _ _ tokens tokens' _ alike
    rw [endsHeader_same alike]
  · rintro body _ rfl
    exact headerEntry body
  · rintro body _ rfl
    exact (closeHeader _).bind fun _ => (reportMissing _ _ _ _).bind fun _ => pure rfl

/-! ## Documents -/

theorem mockData : Blind Eq Grammar.mockData Grammar.mockData := by
  refine (openSection .mockData).bind fun _ => (untilClosed .rightBrace ?_ rfl).bind ?_
  · rintro sections _ rfl
    refine expectKey.bind fun keys => objectList.bind ?_
    rintro records _ rfl
    exact skipCommas.bind fun _ => pure (by rw [keys.2])
  · rintro sections _ rfl
    exact (expectSymbol .rightBrace).bind fun _ => pure rfl

theorem setOnce {α : Type} (old : Option α) (duplicate : SyntaxProblem) (place place' : Position)
    (set : α → Document) (document : Document) (part : α) :
    Blind Eq (Grammar.setOnce old duplicate place set document part)
      (Grammar.setOnce old duplicate place' set document part) := by
  cases old with
  | none => exact pure rfl
  | some _ => exact (report _ _ _).bind fun _ => pure rfl

theorem statement (document : Document) :
    Blind Eq (Grammar.statement document) (Grammar.statement document) := by
  refine current.bind fun tokens => ?_
  rw [tokens.1]
  split
  · refine header.bind ?_
    rintro header _ rfl
    exact setOnce _ _ _ _ _ _ _
  · exact model.bind fun models => pure (by rw [models])
  · exact screen.bind fun screens => pure (by rw [screens])
  · refine navigation.bind ?_
    rintro navigation _ rfl
    exact setOnce _ _ _ _ _ _ _
  · refine api.bind ?_
    rintro api _ rfl
    exact setOnce _ _ _ _ _ _ _
  · refine mockData.bind ?_
    rintro mockData _ rfl
    exact setOnce _ _ _ _ _ _ _
  · exact unexpected _

theorem toStatement_same {tokens tokens' : List Token} (alike : SameTokens tokens tokens') :
    SameTokens (toStatement tokens) (toStatement tokens') := by
  induction alike with
  | nil => exact .nil
  | cons head tail ih =>
    rw [toStatement, toStatement, startsStatement_same (.cons head tail)]
    split
    · exact .cons head tail
    · exact ih

theorem resynchronize {began began' : List Token} (begins : SameTokens began began') :
    Blind Eq (Grammar.resynchronize began) (Grammar.resynchronize began') := by
  intro stop stop' tokens tokens' alike
  refine .ok rfl ?_ rfl
  simp only [alike.length_eq, begins.length_eq]
  split
  · exact toStatement_same (List.forall₂_drop 1 alike)
  · exact toStatement_same alike

theorem nextStatement (document : Document) :
    Blind Eq (Grammar.nextStatement document) (Grammar.nextStatement document) :=
  orResume (statement document) fun begins => (resynchronize begins).bind fun _ => pure rfl

theorem documentEntry (state : OpenDocument) :
    Blind Eq (Grammar.documentEntry state) (Grammar.documentEntry state) := by
  refine (isAt _).bind ?_
  rintro startsApp _ rfl
  exact (nextStatement state.document).bind fun documents => pure (by rw [documents])

theorem documentBody : Blind Eq Grammar.documentBody Grammar.documentBody := by
  refine loop Eq ?_ ?_ rfl
  · intro _ _ tokens tokens' _ alike
    cases alike <;> rfl
  · rintro state _ rfl
    exact documentEntry state

end Blind

/-- What a parsed source says, wherever it says it: the document and the problems reported. -/
def ParseResult.content (result : ParseResult) : Option Document × List SyntaxProblem :=
  (result.document, result.diagnostics.map SyntaxDiagnostic.problem)

/-- The document and the problems do not depend on where the tokens stand. -/
theorem parseTokens_same {tokens tokens' : List Token} (alike : SameTokens tokens tokens')
    (stop stop' : Position) : (Document.parseTokens tokens stop).map ParseResult.content =
      (Document.parseTokens tokens' stop').map ParseResult.content := by
  have outcomes := Blind.documentBody stop stop' tokens tokens' alike
  cases alike with
  | nil => rfl
  | @cons first first' rest rest' firsts rests =>
    simp only [Document.parseTokens]
    generalize documentBody stop (first :: rest) = outcome at outcomes ⊢
    generalize documentBody stop' (first' :: rest') = outcome' at outcomes ⊢
    cases outcomes with
    | ok values _ problems =>
      subst values
      unfold SameProblems at problems
      simp only [Except.map, ParseResult.content, List.map_append, problems]
      split <;> rfl
    | failed failures _ problems =>
      unfold SameProblems at problems
      cases failures with
      | oversizedInteger => rfl
      | syntaxError same =>
        simp only [Except.map, ParseResult.content, List.map_append, problems, List.map_cons, same,
          List.map_nil]

end Blueprint
