import Blueprint.Proofs.Naming
import Blueprint.Proofs.Validity
import Blueprint.Sources.Ios
import Blueprint.Sources.Web

/-!
Functions for endpoints bind what their addresses interpolate. The arguments come from the
placeholders of the path, the address from its holes; the two differ by empty placeholders only
(`contents_pathParts`). An application without errors has none of these, because every placeholder
is named like a parameter, and parameters are named by words.
-/
set_option autoImplicit false

namespace Blueprint

open Text Grammar

/-! ## Placeholders and holes -/

def Text.PathPart.content? : PathPart → Option (List Char)
  | .plain _ => none
  | .hole inside => some inside

theorem placeholders_unclosed {text : List Char} (unclosed : untilClose? text = none) :
    placeholders text = [] := by
  induction text with
  | nil => rw [placeholders]
  | cons c rest ih =>
    rw [untilClose?] at unclosed
    split at unclosed
    · contradiction
    · have unclosed := Option.map_eq_none_iff.mp unclosed
      rw [placeholders]
      split
      · split
        · rfl
        · next found => simp [unclosed] at found
      · exact ih unclosed

/-- The holes of a path are its placeholders other than empty ones. -/
theorem contents_pathParts (text : List Char) :
    (pathParts text).filterMap PathPart.content? =
      (placeholders text).filter fun inside => !inside.isEmpty := by
  fun_induction pathParts text with
  | case1 => rw [placeholders]; rfl
  | case2 c rest isOpen d inside after found ih =>
    obtain ⟨closed, rfl⟩ := append_of_untilClose? found
    rw [beq_iff_eq.mp isOpen, placeholders_closed closed]
    simpa [PathPart.content?] using ih
  | case3 c rest isOpen noHole ih =>
    rw [List.filterMap_cons_none (by rfl), ih, beq_iff_eq.mp isOpen]
    cases found : untilClose? rest with
    | none =>
      rw [placeholders_unclosed found, placeholders, if_pos (by simp)]
      split
      · rfl
      · next closes => simp [found] at closes
    | some pair =>
      obtain ⟨inside, after⟩ := pair
      cases inside with
      | cons d inside => exact absurd found (noHole d inside after)
      | nil =>
        obtain ⟨closed, rfl⟩ := append_of_untilClose? found
        have plain : placeholders ([] ++ closeBrace :: after) = placeholders after := by
          rw [List.nil_append, placeholders, if_neg (by decide)]
        rw [placeholders_closed closed, plain]
        rfl
  | case4 c rest plain ih =>
    rw [List.filterMap_cons_none (by rfl), ih, placeholders.eq_def (c :: rest)]
    simp [plain]

/-- An endpoint of which all parameters have names. -/
def Endpoint.Named (endpoint : Endpoint) : Prop :=
  ∀ parameter ∈ endpoint.parameters, IsRun parameter.name

def Api.Named (api : Api) : Prop :=
  ∀ endpoint ∈ api.endpoints, endpoint.Named

namespace Delivers

theorem items {α : Type} {property : α → Prop} {close : Symbol} {item : Parser α}
    (each : Delivers property item) :
    Delivers (fun items => ∀ item ∈ items, property item) (Parser.itemsUntil close item) := by
  refine loop (fun items all => bind each fun next holds =>
    Delivers.next composable_accounted.skipCommas fun _ => pure ?_) nofun
  intro other member
  rcases List.mem_append.mp member with earlier | last
  · exact all other earlier
  · exact List.mem_singleton.mp last ▸ holds

theorem commaSeparated {α : Type} {property : α → Prop} {item : Parser α}
    (each : Delivers property item) :
    Delivers (fun items => ∀ item ∈ items, property item) (Parser.commaSeparated item) := by
  have steps : Delivers (fun state : List α × Bool => ∀ item ∈ state.1, property item)
      (Parser.loop (fun state tokens => state.2 && Parser.stillOpen .rightBracket tokens)
        (fun state => do
          let next ← item
          let more ← Parser.option (.symbol .comma)
          return (state.1 ++ [next], more)) ([], true)) := by
    refine loop (fun state all => bind each fun next holds =>
      Delivers.next (Accounted.option _) fun more => pure ?_) nofun
    intro other member
    rcases List.mem_append.mp member with earlier | last
    · exact all other earlier
    · exact List.mem_singleton.mp last ▸ holds
  exact bind steps fun _ all => pure all

theorem parameterAttribute (key : Token) {parameter : OpenParameter}
    (named : ∀ name ∈ parameter.name, IsRun name) :
    Delivers (fun parameter : OpenParameter => ∀ name ∈ parameter.name, IsRun name)
      (Grammar.parameterAttribute key parameter) := by
  unfold Grammar.parameterAttribute
  split
  · refine bind expectName fun token isRun => pure ?_
    rintro _ ⟨⟩
    exact isRun
  · exact next inherited_accounted.typeRef fun _ => pure named
  · exact next composable_accounted.expectFlag fun _ => pure named
  · exact fail _ _

theorem parameterEntry {parameter : OpenParameter}
    (named : ∀ name ∈ parameter.name, IsRun name) :
    Delivers (fun parameter : OpenParameter => ∀ name ∈ parameter.name, IsRun name)
      (Grammar.parameterEntry parameter) := by
  refine next (composable_accounted.flag _) fun required => ?_
  split
  · exact pure named
  · exact next composable_accounted.expectKey fun key => bind (parameterAttribute key named)
      fun _ named' => next composable_accounted.skipCommas fun _ => pure named'

theorem endpointParameter :
    Delivers (fun parameter : Parameter => IsRun parameter.name) Grammar.endpointParameter := by
  refine next (Accounted.expectSymbol .leftBrace) fun opening =>
    bind (loop (fun _ => parameterEntry) nofun) fun body named =>
      next (Accounted.expectSymbol .rightBrace) fun _ => ?_
  split
  · next name isName => exact pure (named name isName)
  · exact fail _ _

theorem endpointParameters :
    Delivers (fun parameters : List Parameter => ∀ parameter ∈ parameters, IsRun parameter.name)
      Grammar.endpointParameters :=
  next (Accounted.expectSymbol .leftBracket) fun _ => bind (items endpointParameter)
    fun _ named => next (Accounted.expectSymbol .rightBracket) fun _ => pure named

theorem endpointAttribute (key : Token) {endpoint : OpenEndpoint}
    (named : ∀ parameter ∈ endpoint.parameters, IsRun parameter.name) :
    Delivers (fun endpoint : OpenEndpoint =>
        ∀ parameter ∈ endpoint.parameters, IsRun parameter.name)
      (Grammar.endpointAttribute key endpoint) := by
  unfold Grammar.endpointAttribute
  split
  · exact next composable_accounted.expectName fun _ => pure named
  · exact next composable_accounted.expectText fun _ => pure named
  · refine next composable_accounted.expectName fun method => ?_
    split
    · exact pure named
    · exact fail _ _
  · exact bind endpointParameters fun _ named' => pure named'
  · exact next composable_accounted.expectName fun _ => pure named
  · exact next inherited_accounted.typeRef fun _ => pure named
  · exact fail _ _

theorem endpointBody (id : Option String) : Delivers Endpoint.Named (Grammar.endpointBody id) := by
  have entry (endpoint : OpenEndpoint)
      (named : ∀ parameter ∈ endpoint.parameters, IsRun parameter.name) :
      Delivers (fun endpoint : OpenEndpoint =>
        ∀ parameter ∈ endpoint.parameters, IsRun parameter.name)
        (Grammar.endpointEntry endpoint) :=
    next composable_accounted.expectKey fun key => bind (endpointAttribute key named)
      fun _ named' => next composable_accounted.skipCommas fun _ => pure named'
  refine next (Accounted.expectSymbol .leftBrace) fun opening =>
    bind (loop entry nofun) fun body named =>
      next (Accounted.expectSymbol .rightBrace) fun _ => ?_
  split
  · exact fail _ _
  · exact fail _ _
  · exact fail _ _
  · exact pure named

theorem apiAttribute (key : Token) {api : OpenApi}
    (named : ∀ endpoint ∈ api.endpoints, endpoint.Named) :
    Delivers (fun api : OpenApi => ∀ endpoint ∈ api.endpoints, endpoint.Named)
      (Grammar.apiAttribute key api) := by
  unfold Grammar.apiAttribute
  split
  · exact next composable_accounted.expectText fun _ => pure named
  · exact next composable_accounted.expectFlag fun _ => pure named
  · exact next (Accounted.expectSymbol .leftBracket) fun _ =>
      bind (commaSeparated (endpointBody none)) fun _ named' =>
        next (Accounted.expectSymbol .rightBracket) fun _ =>
          pure (List.forall_mem_append.mpr ⟨named, named'⟩)
  · exact fail _ _

theorem apiEntry {api : OpenApi} (named : ∀ endpoint ∈ api.endpoints, endpoint.Named) :
    Delivers (fun api : OpenApi => ∀ endpoint ∈ api.endpoints, endpoint.Named)
      (Grammar.apiEntry api) := by
  refine next (composable_accounted.flag _) fun isMock => ?_
  split
  · exact pure named
  · refine next (Accounted.option _) fun isEndpoint => ?_
    split
    · exact next composable_accounted.expectName fun _ => bind (endpointBody _) fun _ named' =>
        pure (List.forall_mem_append.mpr ⟨named, List.forall_mem_singleton.mpr named'⟩)
    · exact next composable_accounted.expectKey fun key => bind (apiAttribute key named)
        fun _ named' => next composable_accounted.skipCommas fun _ => pure named'

theorem api : Delivers Api.Named Grammar.api := by
  refine next (Accounted.openSection .api) fun keyword =>
    bind (loop (fun _ => apiEntry) nofun) fun body named =>
      next (Accounted.expectSymbol .rightBrace) fun _ => ?_
  split
  · exact pure named
  · exact fail _ _

/-- Of all statements only the one for the interface sets it. -/
theorem statement_api {document : Document} (named : ∀ api ∈ document.api, api.Named) :
    Delivers (fun document : Document => ∀ api ∈ document.api, api.Named)
      (Grammar.statement document) := by
  refine next composable_accounted.current fun token => ?_
  split
  · exact next Accounted.header fun _ => setOnce named named
  · exact next Accounted.model fun _ => pure named
  · exact next Accounted.screen fun _ => pure named
  · exact next Accounted.navigation fun _ => setOnce named named
  · refine bind api fun api named' => setOnce named ?_
    rintro _ ⟨⟩
    exact named'
  · exact next Accounted.mockData fun _ => setOnce named named
  · exact fun _ tokens _ => .misfit (List.suffix_refl tokens)

end Delivers

theorem of_firstMatch {α : Type} {read : List Char → Option α} (property : α → Prop)
    (reads : ∀ {place found}, read place = some found → property found) {text : List Char}
    {found : α} (matched : firstMatch read text = some found) : property found := by
  induction text with
  | nil => exact reads matched
  | cons c rest ih =>
    rw [firstMatch] at matched
    cases here : read (c :: rest) with
    | none => exact ih (by simpa [here] using matched)
    | some other =>
      rw [here] at matched
      exact reads (here.trans matched)

/-- Extracted endpoints have no parameters. -/
theorem parameters_of_mem_endpointsOf {source : String} {endpoint : Endpoint}
    (member : endpoint ∈ Extraction.endpointsOf source) : endpoint.parameters = [] := by
  refine of_mem_matchesFrom (fun endpoint : Endpoint => endpoint.parameters = []) ?_ member
  intro insideWord text endpoint after found
  cases insideWord with
  | true => simp [Extraction.endpointBlock, failure] at found
  | false =>
    simp only [Extraction.endpointBlock, Bool.false_eq_true, if_false, Option.bind_eq_bind,
      Option.bind_eq_some_iff] at found
    obtain ⟨_, _, _, _, _, _, _, _, inside⟩ := found
    refine of_firstMatch (fun found : Endpoint × List Char => found.1.parameters = []) ?_ inside
    intro place answer read
    simp only [Option.bind_eq_some_iff] at read
    obtain ⟨_, _, _, _, same⟩ := read
    cases same
    rfl

theorem apiOf?_named {source : String} {api : Api} (isApi : Extraction.apiOf? source = some api) :
    api.Named := by
  obtain ⟨baseUrl, _, rfl⟩ := Option.map_eq_some_iff.mp isApi
  intro endpoint member
  rw [Endpoint.Named, parameters_of_mem_endpointsOf member]
  exact nofun

/-- Both ways of compiling a source only deliver endpoints whose parameters have names. -/
theorem compile_api_named {source : String} {strategy : Strategy} {compilation : Compilation}
    (compiled : compile source strategy = .ok compilation) {api : Api}
    (hasApi : compilation.application.api = some api) : api.Named := by
  obtain ⟨result, document, header, parsed, isDocument, _, same⟩ := compile_eq_ok compiled
  have named : ∀ api ∈ document.api, api.Named :=
    parse_delivers (fun _ => Delivers.statement_api) nofun parsed isDocument
  rw [same] at hasApi
  cases strategy with
  | grammar => exact named api hasApi
  | extracted =>
    rcases Option.or_eq_some_iff.mp hasApi with extracted | ⟨_, own⟩
    · exact apiOf?_named extracted
    · exact named api own

/-! ## Functions of endpoints -/

open Sources

theorem validApi_of_errorless {app : Application} (errorless : app.hasErrors = false) {api : Api}
    (hasApi : app.api = some api) : ValidApi app api := by
  rw [hasErrors_eq_false, Application.findings, errorless_append, hasApi] at errorless
  exact errorless_apiFindings.mp errorless.2

/-- In an application without errors every placeholder is named like a parameter. -/
theorem placeholderNames_isRun {app : Application} (errorless : app.hasErrors = false) {api : Api}
    (hasApi : app.api = some api) (named : api.Named) {endpoint : Endpoint}
    (member : endpoint ∈ api.endpoints) : ∀ name ∈ endpoint.pathParameters, IsRun name := by
  have valid := (validApi_of_errorless errorless hasApi).endpoints endpoint member
  intro name among
  obtain ⟨inside, placeholder, rfl⟩ := List.mem_map.mp among
  obtain ⟨parameter, declared, same⟩ := valid.placeholders inside (mem_placeholders.mp placeholder)
  rw [← same]
  exact named endpoint member parameter declared

/-- An endpoint with two placeholders, one of them spaced. -/
def doorSource : String :=
  "app A \x7bname: 'a' id: 'b' version: '1'\x7d api \x7bbaseUrl: 'u' endpoint open " ++
    "\x7bpath: '/\x7bhall\x7d/\x7b door \x7d' method: PUT " ++
    "params: [\x7bname: hall\x7d, \x7bname: door type: number\x7d]\x7d\x7d"

def door : Endpoint :=
  { id := "open", path := "/\x7bhall\x7d/\x7b door \x7d", method := "PUT"
    parameters := [{ name := "hall", type := { name := "string" } },
      { name := "door", type := { name := "number" } }] }

def house : Application :=
  { name := "A", displayName := "a", appId := "b", version := "1"
    api := some { baseUrl := "u", endpoints := [door] } }

set_option maxRecDepth 2000 in
theorem compile_doorSource : compile doorSource .grammar =
    .ok ⟨house, [], Extraction.ofSource doorSource⟩ := by
  have parsed : Document.parse doorSource =
      .ok ⟨some {
        header := some { name := "A", displayName := "a", appId := "b", version := "1" }
        api := some { baseUrl := "u", endpoints := [door] } }, []⟩ := by
    cbv
  exact compile_of_header parsed rfl rfl .grammar

end Blueprint
