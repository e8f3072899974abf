import Blueprint.Proofs.GrammarPlaces
import Blueprint.Proofs.SheetReading

/-!
A source that lays out a sheet is parsed as the document that the sheet describes. A header may lack
attributes that it should have; this is reported, and the document is the same.
-/
set_option autoImplicit false

namespace Blueprint

open Written

variable {follow : List Token → Prop}

/-! ## Screens -/

theorem isEntry_sheetScreen {key : String} {content : List Token}
    {screen next : Grammar.OpenScreen} (isName : IsName key)
    (contents : Reads EntryNext (Grammar.screenAttribute (word key) screen) content next) :
    IsEntry EntryNext (fun _ tokens => Parser.stillOpen .rightBrace tokens) Grammar.screenEntry
      screen (word key :: mark .colon :: content) next :=
  .inGroup closing_brace (opens_word _ _) (.unflagged (.key isName (.bare contents (.pure _))))

theorem Reads.stack : Reads follow Grammar.layout
    [mark .leftBrace, word "type", mark .colon, word "stack", mark .rightBrace] {} := by
  have kinds : Reads EntryNext (Grammar.layoutAttribute (word "type") {}) [word "stack"]
      ({}, true) := .take (takes_name (isName_layoutKind .stack)) (.pure _)
  have entry : IsEntry EntryNext (fun _ tokens => Parser.stillOpen .rightBrace tokens)
      Grammar.layoutEntry ({}, false) [word "type", mark .colon, word "stack"] ({}, true) :=
    .inGroup closing_brace (opens_word _ _)
      (.key (by decide) (kinds.map (Reads.noCommas.map (.pure _))))
  exact .take (takes_symbol .leftBrace)
    (.closed (.untilClosed (.single closing_brace entry)) (.pure _))

theorem entries_sheetScreen (outline : ScreenOutline) :
    Entries (CloseNext .rightBrace) (fun _ tokens => Parser.stillOpen .rightBrace tokens)
      Grammar.screenEntry {}
      ([word "title", mark .colon, quoted outline.title] ++
        (Written.flag outline.isInitial "initial" ++
        [word "layout", mark .colon, mark .leftBrace, word "type", mark .colon, word "stack",
          mark .rightBrace]))
      ⟨some outline.title, outline.isInitial, [], some {}⟩ := by
  obtain ⟨name, title, isInitial⟩ := outline
  have titles : Reads EntryNext (Grammar.screenAttribute (word "title") {}) [quoted title]
      ⟨some title, false, [], none⟩ :=
    .map (.ofTakes (takes_text title)) (.pure _)
  have initials : Reads EntryNext (Grammar.screenEntry ⟨some title, false, [], none⟩)
      [word "initial"] ⟨some title, true, [], none⟩ :=
    .flagged (by decide) (.pure _) fun _ => noColonNext_of_entryNext
  refine .cons closing_brace (isEntry_sheetScreen (by decide) titles) ?_
  refine .flag (fun isInitial => (⟨some title, isInitial, [], none⟩ : Grammar.OpenScreen))
    closing_brace (.inGroup closing_brace (opens_word _ _) initials) ?_
  exact .single closing_brace (isEntry_sheetScreen (by decide) (.map .stack (.pure _)))

theorem Reads.sheetScreen {outline : ScreenOutline} (canonical : outline.Canonical) :
    Reads follow Grammar.screen (Row.tokens (screenRow outline)) outline.screen := by
  have same : Row.tokens (screenRow outline) = word "screen" :: word outline.name ::
      mark .leftBrace :: ([word "title", mark .colon, quoted outline.title] ++
        (Written.flag outline.isInitial "initial" ++
        [word "layout", mark .colon, mark .leftBrace, word "type", mark .colon, word "stack",
          mark .rightBrace]) ++ [mark .rightBrace]) := by
    obtain ⟨name, title, isInitial⟩ := outline
    cases isInitial <;> rfl
  rw [same]
  exact .take (takes_keyword .screen (by decide)) (.take (takes_name (isName_of_isTerm canonical.name))
    (.take (takes_symbol .leftBrace) (.closed (.untilClosed (entries_sheetScreen outline)) (.pure _))))

/-! ## The interface -/

theorem isEntry_sheetEndpoint {key : String} {content : List Token}
    {endpoint next : Grammar.OpenEndpoint} (isName : IsName key)
    (contents : Reads EntryNext (Grammar.endpointAttribute (word key) endpoint) content next) :
    IsEntry EntryNext (fun _ tokens => Parser.stillOpen .rightBrace tokens)
      Grammar.endpointEntry endpoint (word key :: mark .colon :: content) next :=
  .inGroup closing_brace (opens_word _ _) (.key isName (.bare contents (.pure _)))

theorem method_ofName? (method : HttpMethod) : HttpMethod.ofName? method.name = some method := by
  cases method <;> rfl

theorem isName_method (method : HttpMethod) : IsName method.name := by
  cases method <;> decide

theorem Reads.sheetEndpoint (outline : EndpointOutline) :
    Reads follow (Grammar.endpointBody (some outline.id))
      (mark .leftBrace :: (Row.tokens (endpointBody outline) ++ [mark .rightBrace]))
      outline.endpoint := by
  obtain ⟨id, path, method⟩ := outline
  have paths : Reads EntryNext
      (Grammar.endpointAttribute (word "path") ⟨some id, none, none, [], none, none⟩)
      [quoted path] ⟨some id, some path, none, [], none, none⟩ :=
    .map (.ofTakes (takes_text path)) (.pure _)
  have methods : Reads EntryNext
      (Grammar.endpointAttribute (word "method") ⟨some id, some path, none, [], none, none⟩)
      [word method.name] ⟨some id, some path, some method.name, [], none, none⟩ := by
    have found : HttpMethod.ofName? (word method.name).value = some method := method_ofName? method
    refine .take (takes_name (isName_method method)) ?_
    rw [found]
    exact .pure _
  have entries : Entries (CloseNext .rightBrace)
      (fun _ tokens => Parser.stillOpen .rightBrace tokens) Grammar.endpointEntry
      { id := some id } (Row.tokens (endpointBody ⟨id, path, method⟩))
      ⟨some id, some path, some method.name, [], none, none⟩ :=
    .cons closing_brace (isEntry_sheetEndpoint (by decide) paths)
      (.single closing_brace (isEntry_sheetEndpoint (by decide) methods))
  exact .take (takes_symbol .leftBrace) (.closed (.untilClosed entries) (.pure _))

theorem isEntry_inlineEndpoint {outline : EndpointOutline} (canonical : outline.Canonical)
    (baseUrl : String) (earlier : List EndpointOutline) :
    IsEntry Anything (fun _ tokens => Parser.stillOpen .rightBrace tokens) Grammar.apiEntry
      ⟨some baseUrl, false, earlier.map EndpointOutline.endpoint⟩ (Row.tokens (endpointRow outline))
      ⟨some baseUrl, false, (earlier ++ [outline]).map EndpointOutline.endpoint⟩ := by
  have body : Reads Anything (Parser.expectName >>= fun name =>
      Grammar.endpointBody (some name.value) >>= fun endpoint => (pure
        ⟨some baseUrl, false, earlier.map EndpointOutline.endpoint ++ [endpoint]⟩ :
        Parser Grammar.OpenApi))
      (word outline.id :: mark .leftBrace ::
        (Row.tokens (endpointBody outline) ++ [mark .rightBrace]))
      ⟨some baseUrl, false, (earlier ++ [outline]).map EndpointOutline.endpoint⟩ := by
    rw [List.map_append]
    exact .take (takes_name (isName_of_isTerm canonical.id)) (.map (.sheetEndpoint outline) (.pure _))
  refine .inGroup closing_brace (opens_word _ _) (.pass ?_ fun rest _ => rfl)
  change Reads Anything (Parser.takeIf 1 (Parser.startsWith (.keyword .endpoint)) >>= _)
    ([word "endpoint"] ++ _) _
  exact .test body (List.forall_mem_singleton.mpr (legible_word (by decide))) rfl fun _ _ => rfl

theorem isEntry_baseUrl (baseUrl : String) :
    IsEntry EntryNext (fun _ tokens => Parser.stillOpen .rightBrace tokens) Grammar.apiEntry {}
      [word "baseUrl", mark .colon, quoted baseUrl] ⟨some baseUrl, false, []⟩ := by
  have contents : Reads EntryNext (Grammar.apiAttribute (word "baseUrl") {}) [quoted baseUrl]
      ⟨some baseUrl, false, []⟩ := .map (.ofTakes (takes_text baseUrl)) (.pure _)
  have reads : Reads EntryNext (Parser.expectKey >>= fun key =>
      Grammar.apiAttribute key {} >>= fun api => Parser.skipCommas >>= fun _ => pure api)
      [word "baseUrl", mark .colon, quoted baseUrl] ⟨some baseUrl, false, []⟩ :=
    .key (by decide) (.bare contents (.pure _))
  exact .inGroup closing_brace (opens_word _ _)
    (.unflagged (.pass reads fun rest _ => rfl))

theorem Reads.sheetApi {outline : ApiOutline} (canonical : outline.Canonical) :
    Reads follow Grammar.api (Row.tokens (apiRow outline)) outline.api := by
  obtain ⟨baseUrl, endpoints⟩ := outline
  have ended : Entries (CloseNext .rightBrace) (fun _ tokens => Parser.stillOpen .rightBrace tokens)
      Grammar.apiEntry ⟨some baseUrl, false, endpoints.map EndpointOutline.endpoint⟩ []
      ⟨some baseUrl, false, endpoints.map EndpointOutline.endpoint⟩ := .none
  have inline := Entries.list
    (fun outlines : List EndpointOutline =>
      (⟨some baseUrl, false, outlines.map EndpointOutline.endpoint⟩ : Grammar.OpenApi))
    (fun endpoint member earlier =>
      isEntry_inlineEndpoint (canonical.endpoints endpoint member) baseUrl earlier) [] ended
  have entries := Entries.cons closing_brace (isEntry_baseUrl baseUrl) inline
  have same : Row.tokens (apiRow ⟨baseUrl, endpoints⟩) = word "api" :: mark .leftBrace ::
      ([word "baseUrl", mark .colon, quoted baseUrl] ++
        (endpoints.flatMap (fun endpoint => Row.tokens (endpointRow endpoint)) ++ []) ++
        [mark .rightBrace]) := by
    rw [apiRow, Row.tokens_append, Row.tokens_append, Row.tokens_flatMap, List.append_nil]
    rfl
  rw [same]
  exact .openSection (by decide) (.closed (.untilClosed entries) (.pure _))

/-! ## The header -/

theorem Reads.commaIf (comma : Bool) :
    Reads EntryNext Parser.skipCommas ((commaIf comma).map Piece.token) () := by
  cases comma with
  | false => exact .noCommas
  | true => exact .commas

theorem entries_theme {entries : List ThemeEntry} (names : ∀ entry ∈ entries, IsTerm entry.key)
    (earlier : Fields String) :
    Entries (CloseNext .rightBrace) (fun _ tokens => Parser.stillOpen .rightBrace tokens)
      (fun fields => Parser.expectKey >>= fun key => Parser.expectText >>= fun text =>
        Parser.skipCommas >>= fun _ => Pure.pure (Fields.insert key.value text fields))
      earlier ((entries.flatMap ThemeEntry.pieces).map Piece.token)
      (entries.foldl (fun fields entry => Fields.insert entry.key entry.text fields) earlier) := by
  induction entries generalizing earlier with
  | nil => exact .none
  | cons entry entries ih =>
    obtain ⟨key, text, comma⟩ := entry
    have isName := isName_of_isTerm (names _ List.mem_cons_self)
    have commas : Reads EntryNext (Parser.skipCommas >>= fun _ =>
        Pure.pure (Fields.insert (word key).value text earlier))
        ((commaIf comma).map Piece.token) (Fields.insert key text earlier) :=
      .map (.commaIf comma) (.pure _)
    have first : Reads EntryNext (Parser.expectKey >>= fun key =>
        Parser.expectText >>= fun text => Parser.skipCommas >>= fun _ =>
          Pure.pure (Fields.insert key.value text earlier))
        (word key :: mark .colon :: quoted text :: (commaIf comma).map Piece.token)
        (Fields.insert key text earlier) :=
      .key isName (.take (takes_text text) commas)
    have tail := ih (fun other later => names other (List.mem_cons_of_mem _ later))
      (Fields.insert key text earlier)
    rw [List.flatMap_cons, List.map_append]
    exact .cons closing_brace (.inGroup closing_brace (opens_word _ _) first) tail

theorem Reads.sheetTheme {entries : List ThemeEntry} (names : ∀ entry ∈ entries, IsTerm entry.key) :
    Reads follow Grammar.theme
      (mark .leftBrace ::
        ((entries.flatMap ThemeEntry.pieces).map Piece.token ++ [mark .rightBrace]))
      (Fields.ofList (entries.map fun entry => (entry.key, entry.text))) := by
  rw [Fields.ofList, List.foldl_map]
  exact .take (takes_symbol .leftBrace) (.closed (.untilClosed (entries_theme names [])) (.pure _))

theorem Reads.sheetPlatforms (found : List Platform) :
    Reads follow Grammar.platforms
      (mark .leftBracket :: ((commaPieces (found.map fun platform => .word platform.name)).map
        Piece.token ++ [mark .rightBracket])) found := by
  have each : ∀ item ∈ found.map some, TakesItem (do
      let name ← Parser.expectName
      let platform := Platform.ofName? name.value
      if platform.isNone then
        Parser.report (.unknownPlatform name.value) name.place
      return platform)
      (fun item => item.elim (.mark .comma) fun platform => .word platform.name) item := by
    intro item member
    obtain ⟨platform, _, rfl⟩ := List.mem_map.mp member
    refine ⟨⟨legible_word (isName_platform platform).1, fun stop rest => ?_⟩,
      isOpening_word platform.name⟩
    have known : Platform.ofName? (word platform.name).value = some platform :=
      platform_ofName? platform
    change (Parser.expectName >>= _) stop (word platform.name :: rest) = _
    rw [Parser.bind_run_clean ((takes_name (isName_platform platform)).run stop rest), known]
    rfl
  have items := Reads.items each
  have kept : (found.map some).filterMap id = found := by
    rw [List.filterMap_map]
    exact List.filterMap_some
  rw [List.map_map] at items
  refine .take (takes_symbol .leftBracket) (.closed items ?_)
  rw [kept]
  exact .pure _

theorem isEntry_headerContent {key : String} {content : List Token} {header next : Header}
    (seen : List String) (comma : Bool) (isName : IsName key)
    (ordinary : (word key).kind = .identifier)
    (contents : Reads Anything (Grammar.headerAttribute (word key) header) content next) :
    IsEntry EntryNext (fun _ tokens => !Grammar.endsHeader tokens) Grammar.headerEntry
      ⟨header, seen⟩ (word key :: mark .colon :: (content ++ (commaIf comma).map Piece.token))
      ⟨next, key :: seen⟩ where
  reads := by
    have keys : Reads Anything Grammar.headerKey [word key, mark .colon] (some (word key)) :=
      .headerKey isName
    have commas : Reads EntryNext (Parser.skipCommas >>= fun _ =>
        (pure ⟨next, key :: seen⟩ : Parser Grammar.OpenHeader))
        ((commaIf comma).map Piece.token) ⟨next, key :: seen⟩ := .map (.commaIf comma) (.pure _)
    have contents : Reads Anything (Grammar.headerContent (word key) header) content next :=
      .orRetry contents _
    refine keys.bind (contents.bind ?_ fun _ _ => trivial) fun _ _ => trivial
    exact commas
  opens := opens_word _ _
  goesOn := headerGoesOn ordinary _

theorem isEntry_headerEntry {entry : HeaderEntry} (canonical : entry.content.Canonical)
    (header : Header) (seen : List String) :
    ∃ seen', IsEntry EntryNext (fun _ tokens => !Grammar.endsHeader tokens) Grammar.headerEntry
      ⟨header, seen⟩ (Row.tokens entry.row) ⟨entry.content.set header, seen'⟩ := by
  obtain ⟨content, comma⟩ := entry
  rw [HeaderEntry.row, loose, Row.tokens_spacedBy, List.map_append]
  cases content with
  | name text =>
    exact ⟨_, isEntry_headerContent seen comma (by decide) rfl
      (.map (.ofTakes (takes_text text)) (.pure _))⟩
  | id text =>
    exact ⟨_, isEntry_headerContent seen comma (by decide) rfl
      (.map (.ofTakes (takes_text text)) (.pure _))⟩
  | version text =>
    exact ⟨_, isEntry_headerContent seen comma (by decide) rfl
      (.map (.ofTakes (takes_text text)) (.pure _))⟩
  | platforms found =>
    have contents : Reads Anything (Grammar.headerAttribute (word "platforms") header) _ _ :=
      .map (.sheetPlatforms found) (.pure _)
    have entry := isEntry_headerContent seen comma (by decide) rfl contents
    refine ⟨"platforms" :: seen, ?_⟩
    simpa [HeaderAttribute.pieces, HeaderAttribute.set, Piece.token] using entry
  | theme entries =>
    have contents : Reads Anything (Grammar.headerAttribute (word "theme") header) _ _ :=
      .map (.sheetTheme fun entry member => (canonical entry member).1) (.pure _)
    have entry := isEntry_headerContent seen comma (by decide) rfl contents
    refine ⟨"theme" :: seen, ?_⟩
    simpa [HeaderAttribute.pieces, HeaderAttribute.set, Piece.token] using entry

theorem entries_headerEntries {entries : List HeaderEntry}
    (canonical : ∀ entry ∈ entries, entry.content.Canonical) (header : Header)
    (seen : List String) :
    ∃ seen', Entries (CloseNext .rightBrace) (fun _ tokens => !Grammar.endsHeader tokens)
      Grammar.headerEntry ⟨header, seen⟩ (Row.tokens (entries.flatMap HeaderEntry.row))
      ⟨entries.foldl (fun header entry => entry.content.set header) header, seen'⟩ := by
  induction entries generalizing header seen with
  | nil => exact ⟨seen, .none⟩
  | cons entry entries ih =>
    obtain ⟨seen', first⟩ := isEntry_headerEntry (canonical entry List.mem_cons_self) header seen
    obtain ⟨seen'', tail⟩ := ih (fun other later => canonical other (List.mem_cons_of_mem _ later))
      (entry.content.set header) seen'
    rw [List.flatMap_cons, Row.tokens_append]
    exact ⟨seen'', .cons closing_brace first tail⟩

theorem reportMissing_run (app : String) (place : Position) (seen : List String) (stop : Position)
    (tokens : List Token) :
    ∃ reports, Grammar.reportMissing app place seen stop tokens = .ok () tokens reports := by
  rw [Grammar.reportMissing, List.forM_eq_forM]
  generalize Grammar.requiredAttributes = keys
  induction keys with
  | nil => exact ⟨[], rfl⟩
  | cons key keys ih =>
    obtain ⟨later, ih⟩ := ih
    rw [List.forM_cons]
    by_cases present : seen.contains key = true
    · refine ⟨later, ?_⟩
      rw [if_neg (by simpa using present), pure_bind]
      exact ih
    · refine ⟨⟨.incompleteApp app key, place⟩ :: later, ?_⟩
      rw [if_pos (by simpa using present)]
      exact (Parser.bind_run_ok rfl _).trans (congrArg _ ih)

theorem header_run {sheet : Sheet} (canonical : sheet.Canonical) (stop : Position)
    (rest : List Token) :
    ∃ reports, Grammar.header stop (Row.tokens sheet.headerRow ++ rest) =
      .ok sheet.header rest reports := by
  obtain ⟨seen, entries⟩ := entries_headerEntries canonical.entries
    { name := (word sheet.name).value } []
  have body := entries.reads fun rest ends => by rw [endsHeader_closed ends, Bool.not_true]
  have close : Reads Anything (Grammar.closeHeader (word sheet.name).value) [mark .rightBrace] () :=
    .closeHeader _
  have closed : Grammar.closeHeader (word sheet.name).value stop (mark .rightBrace :: rest) =
      .ok () rest [] := close.run stop rest trivial
  obtain ⟨reports, reported⟩ :=
    reportMissing_run (word sheet.name).value (word "app").place seen stop rest
  have same : Row.tokens sheet.headerRow ++ rest = word "app" :: word sheet.name ::
      mark .leftBrace :: (Row.tokens (sheet.entries.flatMap HeaderEntry.row) ++
        (mark .rightBrace :: rest)) := by
    rw [Sheet.headerRow, Row.tokens_append, Row.tokens_append, List.append_assoc, List.append_assoc]
    rfl
  have keyword : Takes (Parser.expect (.keyword .app)) (word "app") (word "app") :=
    takes_keyword .app (by decide)
  refine ⟨reports ++ [], ?_⟩
  rw [same]
  unfold Grammar.header
  rw [Parser.bind_run_clean (keyword.run stop _),
    Parser.bind_run_clean ((takes_name (isName_of_isTerm canonical.name)).run stop _),
    Parser.bind_run_clean ((takes_symbol .leftBrace).run stop _),
    Parser.bind_run_clean (body.run stop _ ⟨rest, rfl⟩),
    Parser.bind_run_clean closed, Parser.bind_run_ok reported]
  rfl

/-! ## Documents -/

theorem entries_sections {sheet : Sheet} (canonical : sheet.Canonical) :
    Entries (· = []) (fun _ tokens => !tokens.isEmpty) Grammar.documentEntry
      ⟨{ header := some sheet.header }, true⟩
      (Row.tokens (sheet.models.flatMap modelRow ++
        (sheet.screens.flatMap screenRow ++ sheet.api.elim [] apiRow)))
      ⟨sheet.document, true⟩ := by
  have apis : Row.tokens (sheet.api.elim [] apiRow) =
      optionally (fun outline => Row.tokens (apiRow outline)) sheet.api := by
    cases sheet.api <;> rfl
  rw [Row.tokens_append, Row.tokens_append, Row.tokens_flatMap, Row.tokens_flatMap, apis]
  refine .list (fun models => (⟨⟨some sheet.header, models, [], none, none, none⟩, true⟩ :
    Grammar.OpenDocument)) (fun model member earlier => ?_) [] ?_
  · have reads : Reads Anything Grammar.model (Row.tokens (modelRow model)) model :=
      .sheetModel (canonical.models model member)
    exact isEntry_statement true (opens_word _ _) (.look (.map reads (.pure _)))
  refine .list (fun outlines => (⟨⟨some sheet.header, sheet.models,
    outlines.map ScreenOutline.screen, none, none, none⟩, true⟩ : Grammar.OpenDocument))
    (fun outline member earlier => ?_) [] ?_
  · rw [List.map_append]
    have reads : Reads Anything Grammar.screen (Row.tokens (screenRow outline)) outline.screen :=
      .sheetScreen (canonical.screens outline member)
    exact isEntry_statement true (opens_word _ _) (.look (.map reads (.pure _)))
  refine .lastPart (fun api => (⟨⟨some sheet.header, sheet.models,
    sheet.screens.map ScreenOutline.screen, none, api.map ApiOutline.api, none⟩, true⟩ :
    Grammar.OpenDocument)) fun outline member => ?_
  have reads : Reads Anything Grammar.api (Row.tokens (apiRow outline)) outline.api :=
      .sheetApi (canonical.api outline member)
  exact isEntry_statement true (opens_word _ _) (.look (.map reads (.pure _)))

theorem documentEntry_run {sheet : Sheet} (canonical : sheet.Canonical) (stop : Position)
    (rest : List Token) :
    ∃ reports, Grammar.documentEntry {} stop (Row.tokens sheet.headerRow ++ rest) =
      .ok ⟨{ header := some sheet.header }, true⟩ rest reports := by
  obtain ⟨reports, header⟩ := header_run canonical stop rest
  have statement : Grammar.statement {} stop (Row.tokens sheet.headerRow ++ rest) =
      .ok { header := some sheet.header } rest (reports ++ []) :=
    (Parser.bind_run_clean rfl _).trans (Parser.bind_run_ok header _)
  have next : Grammar.nextStatement {} stop (Row.tokens sheet.headerRow ++ rest) =
      .ok { header := some sheet.header } rest (reports ++ []) :=
    Parser.orResume_run_ok statement _
  have startsApp : Parser.isAt (.keyword .app) stop (Row.tokens sheet.headerRow ++ rest) =
      .ok true (Row.tokens sheet.headerRow ++ rest) [] := rfl
  exact ⟨_, (Parser.bind_run_clean startsApp _).trans (Parser.bind_run_ok next _)⟩

theorem parseTokens_sheet {sheet : Sheet} (canonical : sheet.Canonical) (stop : Position) :
    ∃ reports, Document.parseTokens (Row.tokens sheet.row) stop =
      .ok ⟨some sheet.document, reports⟩ := by
  have sections := (entries_sections canonical).reads fun rest ends => by
    rw [ends]
    rfl
  have run := sections.run stop [] rfl
  rw [List.append_nil] at run
  obtain ⟨reports, first⟩ := documentEntry_run canonical stop (Row.tokens (sheet.models.flatMap
    modelRow ++ (sheet.screens.flatMap screenRow ++ sheet.api.elim [] apiRow)))
  have body : Grammar.documentBody stop (Row.tokens sheet.row) =
      .ok ⟨sheet.document, true⟩ [] (reports ++ []) := by
    rw [Sheet.row, Row.tokens_append, Grammar.documentBody, Parser.loop_step rfl first ?_, run]
    · rfl
    · rw [List.length_append]
      exact Nat.lt_add_of_pos_left (Nat.succ_pos _)
  have begins : Row.tokens sheet.row = word "app" :: (Row.tokens sheet.row).tail := rfl
  refine ⟨reports, ?_⟩
  rw [begins] at body ⊢
  simp only [Document.parseTokens, body]
  simp [Sheet.document]

/-- A source that lays out a sheet is parsed as the document that the sheet describes. -/
theorem parse_sheet {sheet : Sheet} (canonical : sheet.Canonical) (readable : sheet.row.Readable)
    {source : String} (laid : sheet.LaidOutIn source) :
    ∃ result, Document.parse source = .ok result ∧ result.document = some sheet.document := by
  obtain ⟨last, spaced, blank⟩ := laid
  obtain ⟨stop, parsed⟩ := parse_eq source
  obtain ⟨reports, known⟩ := parseTokens_sheet canonical stop
  have same := parseTokens_same (tokensOf_spaced spaced readable blank) stop stop
  rw [known] at same
  rw [parsed]
  cases outcome : Document.parseTokens (tokensOf source) stop with
  | error failure => simp [outcome, Except.map] at same
  | ok result =>
    rw [outcome] at same
    simp only [Except.map, ParseResult.content, Except.ok.injEq, Prod.mk.injEq] at same
    exact ⟨result, rfl, same.1⟩

end Blueprint
