import Blueprint.Document.Endpoints
import Blueprint.Proofs.ScreenReading

/-!
The interface and its endpoints are read as they were written.
-/
set_option autoImplicit false

namespace Blueprint

open Written

variable {follow : List Token → Prop}

/-! ## Parameters -/

theorem isEntry_parameter {key : String} {content : List Token}
    {parameter next : Grammar.OpenParameter} (isName : IsName key)
    (contents : Reads CommaNext (Grammar.parameterAttribute (word key) parameter) content next) :
    IsEntry EntryNext (fun _ tokens => Parser.stillOpen .rightBrace tokens)
      Grammar.parameterEntry parameter (entry key content) next :=
  .inGroup closing_brace (opens_word _ _) (.unflagged (.key isName (.comma contents (.pure _))))

theorem Reads.endpointParameter {parameter : Parameter} (wellFormed : parameter.WellFormed) :
    Reads follow Grammar.endpointParameter (Written.endpointParameter parameter) parameter := by
  obtain ⟨name, type, required⟩ := parameter
  obtain ⟨isName, typeName⟩ := wellFormed
  have flags : Reads EntryNext (Grammar.parameterEntry {}) [word "required"]
      ⟨none, { name := "string" }, true⟩ :=
    .flagged (by decide) (.pure _) fun _ => noColonNext_of_entryNext
  have names : Reads CommaNext
      (Grammar.parameterAttribute (word "name") ⟨none, { name := "string" }, required⟩)
      [word name] ⟨some name, { name := "string" }, required⟩ :=
    .map (.ofTakes (takes_name isName)) (.pure _)
  have types : Reads CommaNext
      (Grammar.parameterAttribute (word "type") ⟨some name, { name := "string" }, required⟩)
      (Written.typeRef type) ⟨some name, type, required⟩ :=
    .map (.typeRef typeName fun _ => noBrackets_of_commaNext) (.pure _)
  have entries : Entries (CloseNext .rightBrace)
      (fun _ tokens => Parser.stillOpen .rightBrace tokens) Grammar.parameterEntry {}
      (Written.flag required "required" ++
        (Written.entry "name" [word name] ++ Written.entry "type" (Written.typeRef type)))
      ⟨some name, type, required⟩ := by
    refine .flag
      (fun required => (⟨none, { name := "string" }, required⟩ : Grammar.OpenParameter))
      closing_brace (.inGroup closing_brace (opens_word _ _) flags) ?_
    refine .cons closing_brace (isEntry_parameter (by decide) names) ?_
    exact .single closing_brace (isEntry_parameter (by decide) types)
  exact .take (takes_symbol .leftBrace) (.closed (.untilClosed entries) (.pure _))

theorem Reads.endpointParameters {parameters : List Parameter}
    (wellFormed : ∀ parameter ∈ parameters, parameter.WellFormed) :
    Reads follow Grammar.endpointParameters
      (brackets (elements Written.endpointParameter parameters)) parameters := by
  refine .take (takes_symbol .leftBracket) (.closed (.itemsUntil closing_bracket ?_) (.pure _))
  intro parameter member
  exact ⟨.endpointParameter (wellFormed parameter member), opens_brace _⟩

/-! ## Endpoints -/

theorem isEntry_endpoint {key : String} {content : List Token}
    {endpoint next : Grammar.OpenEndpoint} (isName : IsName key)
    (contents : Reads CommaNext (Grammar.endpointAttribute (word key) endpoint) content next) :
    IsEntry EntryNext (fun _ tokens => Parser.stillOpen .rightBrace tokens)
      Grammar.endpointEntry endpoint (entry key content) next :=
  .inGroup closing_brace (opens_word _ _) (.key isName (.comma contents (.pure _)))

theorem isName_of_method {method : String}
    (supported : (HttpMethod.ofName? method).isSome = true) : IsName method := by
  obtain ⟨found, same⟩ := Option.isSome_iff_exists.mp supported
  have name := List.find?_some same
  rw [beq_iff_eq] at name
  subst name
  cases found <;> decide

theorem Reads.endpoint {endpoint : Endpoint} (wellFormed : endpoint.WellFormed) :
    Reads follow (Grammar.endpointBody none) (Written.endpoint endpoint) endpoint := by
  obtain ⟨id, path, method, parameters, body, response⟩ := endpoint
  have ids : Reads CommaNext (Grammar.endpointAttribute (word "id") {}) [word id]
      ⟨some id, none, none, [], none, none⟩ :=
    .map (.ofTakes (takes_name wellFormed.id)) (.pure _)
  have paths : Reads CommaNext
      (Grammar.endpointAttribute (word "path") ⟨some id, none, none, [], none, none⟩)
      [quoted path] ⟨some id, some path, none, [], none, none⟩ :=
    .map (.ofTakes (takes_text path)) (.pure _)
  have methods : Reads CommaNext
      (Grammar.endpointAttribute (word "method") ⟨some id, some path, none, [], none, none⟩)
      [word method] ⟨some id, some path, some method, [], none, none⟩ := by
    obtain ⟨known, found⟩ := Option.isSome_iff_exists.mp wellFormed.method
    have found : HttpMethod.ofName? (word method).value = some known := found
    refine .take (takes_name (isName_of_method wellFormed.method)) ?_
    rw [found]
    exact .pure _
  have parameterLists : Reads CommaNext
      (Grammar.endpointAttribute (word "params") ⟨some id, some path, some method, [], none, none⟩)
      (brackets (elements Written.endpointParameter parameters))
      ⟨some id, some path, some method, parameters, none, none⟩ :=
    .map (.endpointParameters wellFormed.parameters) (.pure _)
  have entries : Entries (CloseNext .rightBrace)
      (fun _ tokens => Parser.stillOpen .rightBrace tokens) Grammar.endpointEntry {}
      (Written.entry "id" [word id] ++ (Written.entry "path" [quoted path] ++
        (Written.entry "method" [word method] ++
        (Written.entry "params" (brackets (elements Written.endpointParameter parameters)) ++
        (optionally (fun name => Written.entry "body" [word name]) body ++
        optionally (fun type => Written.entry "response" (Written.typeRef type)) response)))))
      ⟨some id, some path, some method, parameters, body, response⟩ := by
    refine .cons closing_brace (isEntry_endpoint (by decide) ids) ?_
    refine .cons closing_brace (isEntry_endpoint (by decide) paths) ?_
    refine .cons closing_brace (isEntry_endpoint (by decide) methods) ?_
    refine .cons closing_brace (isEntry_endpoint (by decide) parameterLists) ?_
    refine .optional
      (fun body => (⟨some id, some path, some method, parameters, body, none⟩ : Grammar.OpenEndpoint))
      closing_brace (fun name member => isEntry_endpoint (by decide) ?_) ?_
    · exact .map (.ofTakes (takes_name (wellFormed.body name member))) (.pure _)
    refine .lastOptional
      (fun response =>
        (⟨some id, some path, some method, parameters, body, response⟩ : Grammar.OpenEndpoint))
      closing_brace fun type member => isEntry_endpoint (by decide) ?_
    exact .map (.typeRef (wellFormed.response type member) fun _ => noBrackets_of_commaNext)
      (.pure _)
  exact .take (takes_symbol .leftBrace) (.closed (.untilClosed entries) (.pure _))

/-! ## The interface -/

theorem isEntry_api {key : String} {content : List Token} {api next : Grammar.OpenApi}
    (isName : IsName key) (notEndpoint : (word key).kind ≠ .keyword .endpoint)
    (contents : Reads CommaNext (Grammar.apiAttribute (word key) api) content next) :
    IsEntry EntryNext (fun _ tokens => Parser.stillOpen .rightBrace tokens) Grammar.apiEntry api
      (entry key content) next := by
  refine .inGroup closing_brace (opens_word _ _) (.unflagged (.pass ?_ fun rest _ => ?_))
  · exact .key isName (.comma contents (.pure _))
  · exact beq_eq_false_iff_ne.mpr notEndpoint

theorem Reads.api {api : Api} (wellFormed : ∀ endpoint ∈ api.endpoints, endpoint.WellFormed) :
    Reads follow Grammar.api (Written.api api) api := by
  obtain ⟨baseUrl, mock, endpoints⟩ := api
  have mocks : Reads EntryNext (Grammar.apiEntry {}) [word "mock"] ⟨none, true, []⟩ :=
    .flagged (by decide) (.pure _) fun _ => noColonNext_of_entryNext
  have addresses : Reads CommaNext (Grammar.apiAttribute (word "baseUrl") ⟨none, mock, []⟩)
      [quoted baseUrl] ⟨some baseUrl, mock, []⟩ :=
    .map (.ofTakes (takes_text baseUrl)) (.pure _)
  have endpointLists : Reads CommaNext
      (Grammar.apiAttribute (word "endpoints") ⟨some baseUrl, mock, []⟩)
      (brackets (elements Written.endpoint endpoints)) ⟨some baseUrl, mock, endpoints⟩ := by
    refine .take (takes_symbol .leftBracket) (.closed (.commaSeparated ?_) (.pure _))
    intro endpoint member
    exact ⟨.endpoint (wellFormed endpoint member), opens_brace _⟩
  have entries : Entries (CloseNext .rightBrace)
      (fun _ tokens => Parser.stillOpen .rightBrace tokens) Grammar.apiEntry {}
      (Written.flag mock "mock" ++ (Written.entry "baseUrl" [quoted baseUrl] ++
        Written.entry "endpoints" (brackets (elements Written.endpoint endpoints))))
      ⟨some baseUrl, mock, endpoints⟩ := by
    refine .flag (fun mock => (⟨none, mock, []⟩ : Grammar.OpenApi)) closing_brace
      (.inGroup closing_brace (opens_word _ _) mocks) ?_
    refine .cons closing_brace (isEntry_api (by decide) (by decide) addresses) ?_
    exact .single closing_brace (isEntry_api (by decide) (by decide) endpointLists)
  exact .openSection (by decide) (.closed (.untilClosed entries) (.pure _))

end Blueprint
