import Blueprint.Document.Parse
import Blueprint.Proofs.EndpointReading

/-!
The header, the mock data and whole documents are read as they were written, one statement after
another.
-/
set_option autoImplicit false

namespace Blueprint

open Written

variable {α : Type} {follow : List Token → Prop}

/-! ## The header -/

namespace Reads

/-- No recovery is needed where the first parser reads. -/
theorem orRetry {first : Parser α} {tokens : List Token} {value : α}
    (reads : Reads follow first tokens value) (second : Parser α) :
    Reads follow (Parser.orRetry first second) tokens value where
  legible := reads.legible
  run stop rest follows := Parser.orRetry_run_ok (reads.run stop rest follows) second

theorem orResume {first : Parser α} {tokens : List Token} {value : α}
    (reads : Reads follow first tokens value) (recover : List Token → Parser α) :
    Reads follow (Parser.orResume first recover) tokens value where
  legible := reads.legible
  run stop rest follows := Parser.orResume_run_ok (reads.run stop rest follows) recover

theorem lookAt {kind : TokenKind} {next : Bool → Parser α} {first : Token} {more : List Token}
    {result : α} (nexts : Reads follow (next (first.kind == kind)) (first :: more) result) :
    Reads follow (Parser.isAt kind >>= next) (first :: more) result := by
  unfold Parser.isAt
  simp only [bind_assoc, pure_bind]
  exact look nexts

end Reads

theorem platform_ofName? (platform : Platform) : Platform.ofName? platform.name = some platform := by
  cases platform <;> rfl

theorem isName_platform (platform : Platform) : IsName platform.name := by
  cases platform <;> decide

theorem Reads.platforms (platforms : List Platform) :
    Reads follow Grammar.platforms
      (brackets (elements (fun platform => [word platform.name]) platforms)) platforms := by
  have written : elements (fun platform => [word platform.name]) platforms =
      elements (optionally fun platform => [word platform.name]) (platforms.map some) := by
    rw [elements, elements, List.flatMap_map]
    rfl
  have found : (platforms.map some).filterMap id = platforms := by
    rw [List.filterMap_map]
    exact List.filterMap_some
  rw [written]
  refine .take (takes_symbol .leftBracket) (.closed (.commaSeparated ?_) ?_)
  · intro item member
    obtain ⟨platform, _, rfl⟩ := List.mem_map.mp member
    have known : Platform.ofName? (word platform.name).value = some platform :=
      platform_ofName? platform
    refine ⟨.take (takes_name (isName_platform platform)) ?_, opens_word _ _⟩
    rw [known]
    exact .pure _
  · rw [found]
    exact .pure _

theorem Reads.theme {fields : Fields String} (distinct : fields.Distinct)
    (names : ∀ key ∈ fields.names, IsName key) :
    Reads follow Grammar.theme (Written.theme fields) fields := by
  refine .take (takes_symbol .leftBrace) (.closed (.untilClosed ?_) (.pure _))
  refine .fields closing_brace (fun field member earlier => ?_) [] distinct
  have isName := names field.1 (List.mem_map_of_mem member)
  exact .inGroup closing_brace (opens_word _ _)
    (.key isName (.comma (.ofTakes (takes_text field.2)) (.pure _)))

theorem Reads.headerKey {key : String} (isName : IsName key) :
    Reads follow Grammar.headerKey [word key, mark .colon] (some (word key)) := by
  unfold Grammar.headerKey
  refine .orRetry ?_ _
  exact .key isName (.pure _)

/-- A header does not end before an ordinary word. -/
theorem headerGoesOn {key : String} (ordinary : (word key).kind = .identifier)
    (others rest : List Token) : (!Grammar.endsHeader (word key :: others ++ rest)) = true := by
  have opened := stillOpen_of_opens closing_brace (opens_word key others) rest
  have noStatement : Grammar.startsStatement (word key :: others ++ rest) = false := by
    simp [Grammar.startsStatement, ordinary]
  rw [Grammar.endsHeader, noStatement, opened]
  rfl

theorem isEntry_header {key : String} {content : List Token} {header next : Header}
    (seen : List String) (isName : IsName key) (ordinary : (word key).kind = .identifier)
    (contents : Reads CommaNext (Grammar.headerAttribute (word key) header) content next) :
    IsEntry EntryNext (fun _ tokens => !Grammar.endsHeader tokens) Grammar.headerEntry
      ⟨header, seen⟩ (entry key content) ⟨next, key :: seen⟩ where
  reads := by
    have keys : Reads Anything Grammar.headerKey [word key, mark .colon] (some (word key)) :=
      .headerKey isName
    refine keys.bind ?_ fun _ _ => trivial
    exact .comma (.orRetry contents _) (.pure _)
  opens := opens_word _ _
  goesOn := headerGoesOn ordinary _

theorem reportMissing_eq (app : String) (place : Position) {seen : List String}
    (complete : ∀ required ∈ Grammar.requiredAttributes, required ∈ seen) :
    Grammar.reportMissing app place seen = pure () := by
  rw [Grammar.reportMissing, List.forM_eq_forM]
  generalize Grammar.requiredAttributes = keys at complete
  induction keys with
  | nil => rfl
  | cons key keys ih =>
    have present : seen.contains key = true := by simpa using complete key List.mem_cons_self
    rw [List.forM_cons, present, ih fun other later => complete other (List.mem_cons_of_mem key later)]
    rfl

theorem Reads.closeHeader (app : String) :
    Reads follow (Grammar.closeHeader app) [mark .rightBrace] () :=
  .taken (.pure _) (List.forall_mem_singleton.mpr (legible_mark .rightBrace)) rfl fun _ _ => rfl

/-- The keys of a header, the last of them first. -/
def headerKeys (theme : Option (Fields String)) : List String :=
  (theme.map fun _ => "theme").toList ++ ["platforms", "version", "id", "name"]

theorem headerKeys_complete (theme : Option (Fields String)) :
    ∀ required ∈ Grammar.requiredAttributes, required ∈ headerKeys theme := by
  intro required member
  refine List.mem_append_right _ ?_
  simp only [Grammar.requiredAttributes, List.mem_cons, List.not_mem_nil, or_false] at member
  rcases member with rfl | rfl | rfl <;> decide

theorem entries_header {header : Header} (wellFormed : header.WellFormed) :
    Entries (CloseNext .rightBrace) (fun _ tokens => !Grammar.endsHeader tokens)
      Grammar.headerEntry { header := { name := header.name } }
      (entry "name" [quoted header.displayName] ++ (entry "id" [quoted header.appId] ++
        (entry "version" [quoted header.version] ++
        (entry "platforms"
          (brackets (elements (fun platform => [word platform.name]) header.platforms)) ++
        optionally (fun fields => entry "theme" (Written.theme fields)) header.theme))))
      ⟨header, headerKeys header.theme⟩ := by
  obtain ⟨name, displayName, appId, version, platforms, theme⟩ := header
  have names : Reads CommaNext (Grammar.headerAttribute (word "name") { name := name })
      [quoted displayName] ⟨name, displayName, "", "", [], none⟩ :=
    .map (.ofTakes (takes_text displayName)) (.pure _)
  have ids : Reads CommaNext
      (Grammar.headerAttribute (word "id") ⟨name, displayName, "", "", [], none⟩)
      [quoted appId] ⟨name, displayName, appId, "", [], none⟩ :=
    .map (.ofTakes (takes_text appId)) (.pure _)
  have versions : Reads CommaNext
      (Grammar.headerAttribute (word "version") ⟨name, displayName, appId, "", [], none⟩)
      [quoted version] ⟨name, displayName, appId, version, [], none⟩ :=
    .map (.ofTakes (takes_text version)) (.pure _)
  have platformLists : Reads CommaNext
      (Grammar.headerAttribute (word "platforms") ⟨name, displayName, appId, version, [], none⟩)
      (brackets (elements (fun platform => [word platform.name]) platforms))
      ⟨name, displayName, appId, version, platforms, none⟩ :=
    .map (.platforms platforms) (.pure _)
  refine .cons closing_brace (isEntry_header [] (by decide) rfl names) ?_
  refine .cons closing_brace (isEntry_header _ (by decide) rfl ids) ?_
  refine .cons closing_brace (isEntry_header _ (by decide) rfl versions) ?_
  refine .cons closing_brace (isEntry_header _ (by decide) rfl platformLists) ?_
  refine .lastOptional (fun theme => (⟨⟨name, displayName, appId, version, platforms, theme⟩,
    headerKeys theme⟩ : Grammar.OpenHeader)) closing_brace fun fields member => ?_
  obtain ⟨distinct, keys⟩ := wellFormed.theme fields member
  exact isEntry_header _ (by decide) rfl (.map (.theme distinct keys) (.pure _))

theorem endsHeader_closed {rest : List Token} (ends : CloseNext .rightBrace rest) :
    Grammar.endsHeader rest = true := by
  rw [Grammar.endsHeader, stillOpen_closed ends]
  rfl

theorem Reads.header {header : Header} (wellFormed : header.WellFormed) :
    Reads follow Grammar.header (Written.header header) header := by
  refine .take (takes_keyword .app (by decide)) (.take (takes_name wellFormed.name)
    (.take (takes_symbol .leftBrace) ?_))
  have body := (entries_header wellFormed).reads fun rest ends => by
    rw [endsHeader_closed ends, Bool.not_true]
  refine body.bind (.map (.closeHeader _) ?_) fun rest _ => ⟨rest, rfl⟩
  rw [reportMissing_eq _ _ (headerKeys_complete header.theme), pure_bind]
  exact .pure _

/-! ## Mock data -/

theorem Reads.mockData {data : MockData} (wellFormed : data.WellFormed) :
    Reads follow Grammar.mockData (Written.mockData data) data := by
  obtain ⟨sections⟩ := data
  refine .openSection (by decide) (.closed (.untilClosed ?_) (.pure _))
  refine .fields closing_brace (fun field member earlier => ?_) [] wellFormed.distinct
  have isName := wellFormed.names field.1 (List.mem_map_of_mem member)
  exact .inGroup closing_brace (opens_word _ _)
    (.key isName (.comma (.objectList (wellFormed.records field member)) (.pure _)))

/-! ## Statements -/

theorem isEntry_statement {first : Token} {others : List Token} {document next : Document}
    (sawApp : Bool) (opens : Opens (first :: others))
    (reads : Reads Anything (Grammar.statement document) (first :: others) next) :
    IsEntry Anything (fun _ tokens => !tokens.isEmpty) Grammar.documentEntry
      ⟨document, sawApp⟩ (first :: others) ⟨next, sawApp || first.kind == .keyword .app⟩ where
  reads := .lookAt (.map (.orResume reads _) (.pure _))
  opens := opens
  goesOn _ := rfl

namespace Reads

variable {document : Document}

theorem headerStatement {header : Header} (wellFormed : header.WellFormed)
    (first : document.header = none) :
    Reads follow (Grammar.statement document) (Written.header header)
      { document with header := some header } := by
  refine look (map (Reads.header wellFormed) ?_)
  rw [first]
  exact pure _

theorem modelStatement {model : Model} (wellFormed : model.WellFormed) :
    Reads follow (Grammar.statement document) (Written.model model)
      { document with models := document.models ++ [model] } :=
  look (map (Reads.model wellFormed) (pure _))

theorem screenStatement {screen : Screen} (wellFormed : screen.WellFormed) :
    Reads follow (Grammar.statement document) (Written.screen screen)
      { document with screens := document.screens ++ [screen] } :=
  look (map (Reads.screen wellFormed) (pure _))

theorem navigationStatement (navigation : Navigation) (first : document.navigation = none) :
    Reads follow (Grammar.statement document) (Written.navigation navigation)
      { document with navigation := some navigation } := by
  refine look (map (Reads.navigation navigation) ?_)
  rw [first]
  exact pure _

theorem apiStatement {api : Api} (wellFormed : ∀ endpoint ∈ api.endpoints, endpoint.WellFormed)
    (first : document.api = none) :
    Reads follow (Grammar.statement document) (Written.api api)
      { document with api := some api } := by
  refine look (map (Reads.api wellFormed) ?_)
  rw [first]
  exact pure _

theorem mockStatement {data : MockData} (wellFormed : data.WellFormed)
    (first : document.mockData = none) :
    Reads follow (Grammar.statement document) (Written.mockData data)
      { document with mockData := some data } := by
  refine look (map (Reads.mockData wellFormed) ?_)
  rw [first]
  exact pure _

end Reads

end Blueprint
