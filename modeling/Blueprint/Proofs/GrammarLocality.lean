import Blueprint.Proofs.Locality
import Blueprint.Proofs.Nesting

/-!
Statements do not see each other: what a statement is read as, if it is read without a complaint, does
not depend on the text after it.
-/
set_option autoImplicit false

namespace Blueprint

open Grammar

/-! ## What takes no token -/

namespace Settles

theorem number (text : String) : Settles (Grammar.number text) := by
  unfold Grammar.number
  simp only
  split
  · exact pure _
  · split
    · exact pure _
    · exact failOversized

theorem componentOf (place : Position) (fields : Fields Value) :
    Settles (Grammar.componentOf place fields) := by
  unfold Grammar.componentOf
  split
  · exact pure _
  · exact fail _ _

theorem formFieldOf (place : Position) (fields : Fields Value) :
    Settles (Grammar.formFieldOf place fields) := by
  unfold Grammar.formFieldOf
  split
  · exact pure _
  · exact fail _ _

theorem navItemOf (place : Position) (fields : Fields Value) :
    Settles (Grammar.navItemOf place fields) := by
  unfold Grammar.navItemOf
  split
  · exact pure _
  · exact fail _ _

theorem reportMissing (app : String) (place : Position) (seen : List String) :
    Settles (Grammar.reportMissing app place seen) := by
  refine forM (fun required => ?_) _
  split
  · exact report _ _
  · exact pure _

end Settles

namespace Local

variable {bound : Nat}

/-! ## Values -/

theorem startsWithPart_same {tokens tokens' : List Token} (same : SameToBrace tokens tokens') :
    startsWithPart tokens = startsWithPart tokens' := by
  cases same with
  | @brace token rest rest' closes =>
    cases rest <;> cases rest' <;> simp only [startsWithPart, closes] <;> rfl
  | token tail => cases tail <;> rfl

theorem dottedName : Local bound Grammar.dottedName Grammar.dottedName := by
  refine expectName.bind fun first => (loop startsWithPart_same ?_ _).bind fun _ => pure _
  exact fun parts => (expectSymbol .dot).bind fun _ => expectName.bind fun _ => pure _

theorem objectKey : Local bound Grammar.objectKey Grammar.objectKey := by
  refine (isAt .string).bind fun isText => ?_
  cases isText with
  | true => exact expectText
  | false => exact expectName.bind fun _ => pure _

section Inner

variable {inner inner' : Parser Value} (inners : Local bound inner inner')
include inners

theorem entryContent : Local bound (Grammar.entryContent inner) (Grammar.entryContent inner') := by
  refine (option (by simp)).bind fun hasContent => ?_
  cases hasContent with
  | true => exact inners
  | false => exact pure _

/-- The brace that opens an object is not among the tokens of its parts. -/
theorem objectOf : Local (bound + 1) (Grammar.objectOf inner) (Grammar.objectOf inner') := by
  refine acceptThen (sound_symbol .leftBrace) fun _ =>
    (untilClosed .rightBrace (fun fields => ?_) []).bind fun fields =>
      (expectSymbol .rightBrace).bind fun _ => pure _
  exact objectKey.bind fun key => (entryContent inners).bind fun content =>
    skipCommas.bind fun _ => pure _

theorem listOf : Local (bound + 1) (Grammar.listOf inner) (Grammar.listOf inner') :=
  acceptThen (sound_symbol .leftBracket) fun _ => (commaSeparated inners).bind fun _ =>
    (expectSymbol .rightBracket).bind fun _ => pure _

theorem valueOf : Local (bound + 1) (Grammar.valueOf inner) (Grammar.valueOf inner') := by
  refine current.bind fun token => ?_
  split
  · exact expectText.bind fun _ => pure _
  · exact (expect ⟨rfl, rfl⟩).bind fun _ => ofSettles (.number _) _
  · exact expectFlag.bind fun _ => pure _
  · exact expectFlag.bind fun _ => pure _
  · exact (objectOf inners).bind fun _ => pure _
  · exact (listOf inners).bind fun _ => pure _
  · split
    · exact dottedName.bind fun _ => pure _
    · exact unexpected _ _

end Inner

/-- A value of few tokens does not need much depth, however much there is. -/
theorem valueWithin (depth depth' : Nat) :
    Local depth' (Grammar.valueWithin depth) (Grammar.valueWithin depth') := by
  induction depth generalizing depth' with
  | zero => exact unexpected _ _
  | succ depth ih =>
    cases depth' with
    | zero => exact (valueOf (ih 0)).unbounded _
    | succ depth' => exact valueOf (ih depth')

theorem value : Local bound Grammar.value Grammar.value := by
  intro stop tokens rest value success
  obtain ⟨taken, rfl, known, _⟩ := valueWithin _ 0 stop tokens rest value success
  refine ⟨taken, rfl, known, fun _ stop' rest' same => ?_⟩
  obtain ⟨taken', whole, _, again⟩ :=
    valueWithin _ ((taken ++ rest').length + 1) stop (taken ++ rest) rest value success
  obtain rfl := List.append_cancel_right whole
  exact again (by rw [List.length_append]; omega) stop' rest' same

theorem object : Local bound Grammar.object Grammar.object :=
  (objectOf value).mono (Nat.le_succ bound)

theorem objectList : Local bound Grammar.objectList Grammar.objectList :=
  (expectSymbol .leftBracket).bind fun _ => (itemsUntil .rightBracket object).bind fun _ =>
    (expectSymbol .rightBracket).bind fun _ => pure _

/-! ## Models -/

theorem typeRef : Local bound Grammar.typeRef Grammar.typeRef := by
  refine expectName.bind fun name => (takeIf ?_ ?_).bind fun _ => pure _
  · intro tokens tokens' same
    cases same with
    | @brace token rest rest' closes =>
      cases rest <;> cases rest' <;> simp only [startsWithBrackets, closes] <;> rfl
    | token tail => cases tail <;> rfl
  · intro tokens holds
    obtain ⟨opening, closing, rest, rfl, opens, closes⟩ := Inherited.brackets_of_starts holds
    exact ⟨[opening, closing], rest, rfl, rfl, by simp [Known, opens, closes]⟩

theorem scalarText : Local bound Grammar.scalarText Grammar.scalarText :=
  (accept ⟨rfl, rfl⟩ _).bind fun _ => pure _

theorem enumValues : Local bound Grammar.enumValues Grammar.enumValues :=
  (expectSymbol .leftBracket).bind fun _ => (commaSeparated scalarText).bind fun _ =>
    (expectSymbol .rightBracket).bind fun _ => pure _

theorem featureAt?_same {tokens tokens' : List Token} (same : SameToBrace tokens tokens') :
    featureAt? tokens = featureAt? tokens' := by
  cases same with
  | brace closes => simp [featureAt?, closes, TokenKind.isName]
  | token tail => simp only [featureAt?, startsWith_same tail]

theorem featureAt?_taken {tokens : List Token} {found : Feature}
    (isFeature : featureAt? tokens = some found) :
    ∃ taken rest, tokens = taken ++ rest ∧ taken.length = found.markLength ∧
      ∀ token ∈ taken, Known token := by
  obtain ⟨taken, rest, whole, size, levels⟩ := Inherited.featureAt?_levels isFeature
  exact ⟨taken, rest, whole, size, fun token member => known_of_allowed rfl (levels token member)⟩

theorem feature (property : Property) :
    Local bound (Grammar.feature property) (Grammar.feature property) := by
  refine (takeFound featureAt?_same featureAt?_taken).bind fun found => ?_
  match found with
  | none => exact pure _
  | some .required => exact pure _
  | some .default => exact scalarText.bind fun _ => pure _
  | some .enumeration => exact enumValues.bind fun _ => pure _

theorem property : Local bound Grammar.property Grammar.property := by
  refine expectKey.bind fun name => typeRef.bind fun type => loop ?_ ?_ _
  · intro _ tokens tokens' same
    rw [featureAt?_same same]
  · exact fun property => (feature property).bind fun _ => skipCommas.bind fun _ => pure _

/-! ## Screens -/

theorem screenParameters : Local bound Grammar.screenParameters Grammar.screenParameters := by
  refine (expectSymbol .leftBrace).bind fun _ => (itemsUntil .rightBrace ?_).bind fun _ =>
    (expectSymbol .rightBrace).bind fun _ => pure _
  exact expectKey.bind fun _ => typeRef.bind fun _ => (flag _).bind fun _ => pure _

theorem actions : Local bound Grammar.actions Grammar.actions := by
  refine (expectSymbol .leftBrace).bind fun _ => (itemsUntil .rightBrace ?_).bind fun _ =>
    (expectSymbol .rightBrace).bind fun _ => pure _
  exact expectKey.bind fun _ => object.bind fun _ => pure _

theorem layoutAttribute (key : Token) (layout : Layout) :
    Local bound (Grammar.layoutAttribute key layout) (Grammar.layoutAttribute key layout) := by
  unfold Grammar.layoutAttribute
  split
  · refine expectName.bind fun kind => ?_
    split
    · exact pure _
    · exact fail _ _
  · exact objectList.bind fun objects => (ofSettles (.mapM (.componentOf _) objects) _).bind fun _ =>
      pure _
  · exact objectList.bind fun objects => (ofSettles (.mapM (.formFieldOf _) objects) _).bind fun _ =>
      pure _
  · exact actions.bind fun _ => pure _
  · exact expectText.bind fun _ => pure _
  · exact expectText.bind fun _ => pure _
  · exact fail _ _

theorem layout : Local bound Grammar.layout Grammar.layout := by
  refine (expectSymbol .leftBrace).bind fun _ => (untilClosed .rightBrace ?_ _).bind ?_
  · exact fun state => expectKey.bind fun key => (layoutAttribute key _).bind fun _ =>
      skipCommas.bind fun _ => pure _
  · refine fun state => (expectSymbol .rightBrace).bind fun _ => ?_
    split
    · exact pure _
    · exact fail _ _

theorem screenAttribute (key : Token) (screen : OpenScreen) :
    Local bound (Grammar.screenAttribute key screen) (Grammar.screenAttribute key screen) := by
  unfold Grammar.screenAttribute
  split
  · exact expectText.bind fun _ => pure _
  · exact screenParameters.bind fun _ => pure _
  · exact layout.bind fun _ => pure _
  · exact fail _ _

theorem screenEntry (screen : OpenScreen) :
    Local bound (Grammar.screenEntry screen) (Grammar.screenEntry screen) := by
  refine (flag "initial").bind fun isInitial => ?_
  split
  · exact pure _
  · exact expectKey.bind fun key => (screenAttribute key screen).bind fun _ =>
      skipCommas.bind fun _ => pure _

/-! ## Navigation -/

theorem openSection (keyword : Keyword) :
    Local bound (Grammar.openSection keyword) (Grammar.openSection keyword) :=
  (expectKeyword keyword).bind fun _ => (option (by simp)).bind fun _ =>
    (expectSymbol .leftBrace).bind fun _ => pure _

theorem navigationAttribute (key : Token) (navigation : OpenNavigation) :
    Local bound (Grammar.navigationAttribute key navigation)
      (Grammar.navigationAttribute key navigation) := by
  unfold Grammar.navigationAttribute
  split
  · refine expectName.bind fun kind => ?_
    split
    · exact pure _
    · exact fail _ _
  · exact objectList.bind fun objects => (ofSettles (.mapM (.navItemOf _) objects) _).bind fun _ =>
      pure _
  · exact fail _ _

/-! ## The interface -/

theorem parameterAttribute (key : Token) (parameter : OpenParameter) :
    Local bound (Grammar.parameterAttribute key parameter)
      (Grammar.parameterAttribute key parameter) := by
  unfold Grammar.parameterAttribute
  split
  · exact expectName.bind fun _ => pure _
  · exact typeRef.bind fun _ => pure _
  · exact expectFlag.bind fun _ => pure _
  · exact fail _ _

theorem parameterEntry (parameter : OpenParameter) :
    Local bound (Grammar.parameterEntry parameter) (Grammar.parameterEntry parameter) := by
  refine (flag "required").bind fun required => ?_
  split
  · exact pure _
  · exact expectKey.bind fun key => (parameterAttribute key parameter).bind fun _ =>
      skipCommas.bind fun _ => pure _

theorem endpointParameter : Local bound Grammar.endpointParameter Grammar.endpointParameter := by
  refine (expectSymbol .leftBrace).bind fun _ =>
    (untilClosed .rightBrace parameterEntry _).bind fun body =>
      (expectSymbol .rightBrace).bind fun _ => ?_
  split
  · exact pure _
  · exact fail _ _

theorem endpointParameters : Local bound Grammar.endpointParameters Grammar.endpointParameters :=
  (expectSymbol .leftBracket).bind fun _ => (itemsUntil .rightBracket endpointParameter).bind fun _ =>
    (expectSymbol .rightBracket).bind fun _ => pure _

theorem endpointAttribute (key : Token) (endpoint : OpenEndpoint) :
    Local bound (Grammar.endpointAttribute key endpoint)
      (Grammar.endpointAttribute key endpoint) := by
  unfold Grammar.endpointAttribute
  split
  · exact expectName.bind fun _ => pure _
  · exact expectText.bind fun _ => pure _
  · refine expectName.bind fun method => ?_
    split
    · exact pure _
    · exact fail _ _
  · exact endpointParameters.bind fun _ => pure _
  · exact expectName.bind fun _ => pure _
  · exact typeRef.bind fun _ => pure _
  · exact fail _ _

theorem endpointBody (id : Option String) :
    Local bound (Grammar.endpointBody id) (Grammar.endpointBody id) := by
  refine (expectSymbol .leftBrace).bind fun _ => (untilClosed .rightBrace ?_ _).bind fun body =>
    (expectSymbol .rightBrace).bind fun _ => ?_
  · exact fun endpoint => expectKey.bind fun key => (endpointAttribute key endpoint).bind fun _ =>
      skipCommas.bind fun _ => pure _
  · split
    · exact fail _ _
    · exact fail _ _
    · exact fail _ _
    · exact pure _

theorem apiAttribute (key : Token) (api : OpenApi) :
    Local bound (Grammar.apiAttribute key api) (Grammar.apiAttribute key api) := by
  unfold Grammar.apiAttribute
  split
  · exact expectText.bind fun _ => pure _
  · exact expectFlag.bind fun _ => pure _
  · exact (expectSymbol .leftBracket).bind fun _ => (commaSeparated (endpointBody _)).bind fun _ =>
      (expectSymbol .rightBracket).bind fun _ => pure _
  · exact fail _ _

theorem apiEntry (api : OpenApi) :
    Local bound (Grammar.apiEntry api) (Grammar.apiEntry api) := by
  refine (flag "mock").bind fun isMock => ?_
  split
  · exact pure _
  · refine (option (by simp)).bind fun isEndpoint => ?_
    split
    · exact expectName.bind fun _ => (endpointBody _).bind fun _ => pure _
    · exact expectKey.bind fun key => (apiAttribute key api).bind fun _ =>
        skipCommas.bind fun _ => pure _

/-! ## The header -/

theorem startsStatement_same {tokens tokens' : List Token} (same : SameToBrace tokens tokens') :
    startsStatement tokens = startsStatement tokens' := by
  cases same with
  | brace closes => simp [startsStatement, closes]
  | @token first rest rest' tail =>
    cases tail with
    | brace closes =>
      simp only [startsStatement, List.getElem?_cons_zero, List.getElem?_cons_succ, Option.map_some,
        Option.getD_some, closes]
      split <;> rfl
    | token tail => cases tail <;> rfl

theorem endsHeader_same {tokens tokens' : List Token} (same : SameToBrace tokens tokens') :
    endsHeader tokens = endsHeader tokens' := by
  rw [endsHeader, endsHeader, stillOpen_same same, startsStatement_same same]

theorem platforms : Local bound Grammar.platforms Grammar.platforms := by
  refine (expectSymbol .leftBracket).bind fun _ => (commaSeparated ?_).bind fun _ =>
    (expectSymbol .rightBracket).bind fun _ => pure _
  refine expectName.bind fun name => ?_
  simp only
  split
  · exact (report _ _).bind fun _ => pure _
  · exact pure _

theorem theme : Local bound Grammar.theme Grammar.theme := by
  refine (expectSymbol .leftBrace).bind fun _ => (untilClosed .rightBrace ?_ _).bind fun _ =>
    (expectSymbol .rightBrace).bind fun _ => pure _
  exact fun fields => expectKey.bind fun _ => expectText.bind fun _ => skipCommas.bind fun _ =>
    pure _

theorem headerAttribute (key : Token) (header : Header) :
    Local bound (Grammar.headerAttribute key header) (Grammar.headerAttribute key header) := by
  unfold Grammar.headerAttribute
  split
  · exact expectText.bind fun _ => pure _
  · exact expectText.bind fun _ => pure _
  · exact expectText.bind fun _ => pure _
  · exact platforms.bind fun _ => pure _
  · exact theme.bind fun _ => pure _
  · exact fail _ _

theorem headerEntry (body : OpenHeader) :
    Local bound (Grammar.headerEntry body) (Grammar.headerEntry body) := by
  refine (orRetry (expectKey.bind fun _ => pure _) _ _).bind fun found => ?_
  match found with
  | none => exact skipCommas.bind fun _ => pure _
  | some key =>
    exact (orRetry (headerAttribute key body.header) _ _).bind fun _ => skipCommas.bind fun _ =>
      pure _

end Local

namespace Closes

theorem model : Closes Grammar.model :=
  bind (fun _ => .expectKeyword .model) fun _ => bind (fun _ => .expectName) fun _ =>
    bind (fun _ => .expectSymbol .leftBrace) fun _ =>
      bind (fun _ => .itemsUntil .rightBrace .property) fun _ => brace fun _ => .pure _

theorem screen : Closes Grammar.screen := by
  refine bind (fun _ => .expectKeyword .screen) fun _ => bind (fun _ => .expectName) fun _ =>
    bind (fun _ => .expectSymbol .leftBrace) fun _ =>
      bind (fun _ => .untilClosed .rightBrace .screenEntry _) fun body => brace fun _ => ?_
  split
  · exact (Settles.report _ _).bind fun _ => .pure _
  · exact .pure _

theorem navigation : Closes Grammar.navigation := by
  refine bind (fun _ => .openSection .navigation) fun _ =>
    bind (fun _ => .untilClosed .rightBrace (fun body => ?_) _) fun body => brace fun _ => ?_
  · exact Local.expectKey.bind fun key => (Local.navigationAttribute key body).bind fun _ =>
      Local.skipCommas.bind fun _ => .pure _
  · split
    · exact .pure _
    · exact .fail _ _

theorem api : Closes Grammar.api := by
  refine bind (fun _ => .openSection .api) fun _ =>
    bind (fun _ => .untilClosed .rightBrace .apiEntry _) fun body => brace fun _ => ?_
  split
  · exact .pure _
  · exact .fail _ _

theorem mockData : Closes Grammar.mockData := by
  refine bind (fun _ => .openSection .mockData) fun _ =>
    bind (fun _ => .untilClosed .rightBrace (fun sections => ?_) _) fun body =>
      brace fun _ => .pure _
  exact Local.expectKey.bind fun key => Local.objectList.bind fun _ =>
    Local.skipCommas.bind fun _ => .pure _

/-- A header without its closing brace is reported. -/
theorem closeHeader (app : String) : Closes (Grammar.closeHeader app) := by
  intro stop tokens rest value success
  obtain ⟨closed, between, run, run'⟩ := Parser.bind_eq_clean success
  rw [Parser.option, Parser.takeIf_run] at run
  split at run
  · next atBrace =>
    simp only [Outcome.ok.injEq, and_true] at run
    obtain ⟨rfl, rfl⟩ := run
    cases tokens with
    | nil => contradiction
    | cons token others =>
      have isBrace : token.kind = .symbol .rightBrace := beq_iff_eq.mp atBrace
      simp only [Bool.not_true, Bool.false_eq_true, if_false, Parser.pure_run, List.drop_succ_cons,
        List.drop_zero, Outcome.ok.injEq, and_true, true_and] at run'
      subst run'
      refine ⟨[token], rfl, by simp [Known, isBrace], ⟨token, List.mem_singleton_self token, isBrace⟩,
        fun stop' rest' => ?_⟩
      have taken : Parser.option (.symbol .rightBrace) stop' (token :: rest') = .ok true rest' [] := by
        rw [Parser.option, Parser.takeIf_run, Parser.startsWith, if_pos (beq_iff_eq.mpr isBrace),
          List.drop_succ_cons, List.drop_zero]
      exact Parser.bind_run_clean taken _
  · simp only [Outcome.ok.injEq, and_true] at run
    obtain ⟨rfl, rfl⟩ := run
    simp only [Bool.not_false, if_true] at run'
    obtain ⟨token, _, _, reported⟩ := Parser.bind_eq_clean run'
    simp [Parser.report] at reported

theorem header : Closes Grammar.header := by
  refine bind (fun _ => .expectKeyword .app) fun _ => bind (fun _ => .expectName) fun _ =>
    bind (fun _ => .expectSymbol .leftBrace) fun _ =>
      bind (fun _ => .loop ?_ .headerEntry _) fun body => (closeHeader _).map fun _ => ?_
  · intro _ tokens tokens' same
    rw [Local.endsHeader_same same]
  · exact (Settles.reportMissing _ _ _).bind fun _ => .pure _

end Closes

end Blueprint
