import Blueprint.Proofs.DocumentReading
import Blueprint.Proofs.GrammarPlaces

/-!
Writing a document and reading it back. A document with a header that can be written is read from its
text as it was, and nothing is reported.
-/
set_option autoImplicit false

namespace Blueprint

open Written

/-- The whole of a document, up to the end of the tokens. -/
theorem entries_document {document : Document} (hasHeader : document.header.isSome = true)
    (wellFormed : document.WellFormed) :
    Entries (· = []) (fun _ tokens => !tokens.isEmpty) Grammar.documentEntry {}
      (Written.document document) ⟨document, true⟩ := by
  obtain ⟨header, models, screens, navigation, api, mockData⟩ := document
  obtain ⟨header, rfl⟩ := Option.isSome_iff_exists.mp hasHeader
  obtain ⟨headers, modelsFit, screensFit, endpointsFit, mockDataFit⟩ := wellFormed
  refine .entry (isEntry_statement false (opens_word _ _)
    (.headerStatement (headers header rfl) rfl)) (fun _ _ => trivial) ?_
  refine .list (fun models => (⟨⟨some header, models, [], none, none, none⟩, true⟩ :
    Grammar.OpenDocument)) (fun model member earlier => ?_) [] ?_
  · exact isEntry_statement true (opens_word _ _) (.modelStatement (modelsFit model member))
  refine .list (fun screens => (⟨⟨some header, models, screens, none, none, none⟩, true⟩ :
    Grammar.OpenDocument)) (fun screen member earlier => ?_) [] ?_
  · exact isEntry_statement true (opens_word _ _) (.screenStatement (screensFit screen member))
  refine .part (fun navigation => (⟨⟨some header, models, screens, navigation, none, none⟩,
    true⟩ : Grammar.OpenDocument)) (fun navigation _ => ?_) ?_
  · exact isEntry_statement true (opens_word _ _) (.navigationStatement navigation rfl)
  refine .part (fun api => (⟨⟨some header, models, screens, navigation, api, none⟩, true⟩ :
    Grammar.OpenDocument)) (fun api member => ?_) ?_
  · exact isEntry_statement true (opens_word _ _) (.apiStatement (endpointsFit api member) rfl)
  refine .lastPart (fun mockData => (⟨⟨some header, models, screens, navigation, api, mockData⟩,
    true⟩ : Grammar.OpenDocument)) fun data member => ?_
  exact isEntry_statement true (opens_word _ _) (.mockStatement (mockDataFit data member) rfl)

theorem parseTokens_written {document : Document} (hasHeader : document.header.isSome = true)
    (wellFormed : document.WellFormed) (stop : Position) :
    Document.parseTokens (Written.document document) stop = .ok ⟨some document, []⟩ := by
  have reads := (entries_document hasHeader wellFormed).reads fun rest ends => by
    rw [ends]
    rfl
  have run := reads.run stop [] rfl
  rw [List.append_nil] at run
  obtain ⟨header, present⟩ := Option.isSome_iff_exists.mp hasHeader
  have begins : Written.document document = word "app" :: (Written.document document).tail := by
    rw [Written.document, present]
    rfl
  rw [begins] at run ⊢
  simp only [Document.parseTokens, Grammar.documentBody, run, present]
  rfl

theorem clean_of_content {outcome : Except ParseError ParseResult} {document : Document}
    (same : outcome.map ParseResult.content = .ok (some document, [])) :
    outcome = .ok ⟨some document, []⟩ := by
  cases outcome with
  | error failure => simp [Except.map] at same
  | ok result =>
    obtain ⟨parsed, diagnostics⟩ := result
    simp only [Except.map, ParseResult.content, Except.ok.injEq, Prod.mk.injEq,
      List.map_eq_nil_iff] at same
    obtain ⟨rfl, rfl⟩ := same
    rfl

/-- A document with a header that can be written is read from its text as it was, and nothing is
reported. -/
theorem parse_rendered {document : Document} (hasHeader : document.header.isSome = true)
    (wellFormed : document.WellFormed) :
    Document.parse document.rendered = .ok ⟨some document, []⟩ := by
  obtain ⟨stop, parsed⟩ := parse_eq document.rendered
  have legible := (entries_document hasHeader wellFormed).legible
  have same := parseTokens_same (tokensOf_text legible) stop stop
  rw [parseTokens_written hasHeader wellFormed] at same
  rw [parsed]
  exact clean_of_content same

/-- A document with something of each kind, and with properties that are named like features. -/
def shop : Document where
  header := some ⟨"Shop", "The \"Shop\"", "org.shop", "1.0", [.web, .ios],
    some [("primary", "#fff")]⟩
  models := [⟨"Item", [⟨"default", ⟨"string", false⟩, false, none, []⟩,
    ⟨"required", ⟨"string", false⟩, true, some "new", ["new", "old"]⟩,
    ⟨"tags", ⟨"string", true⟩, false, none, []⟩]⟩]
  screens := [⟨"Home", "Home\n", true, [⟨"id", ⟨"number", false⟩, true⟩],
    some ⟨.form, [⟨"list", [("empty", .list []), ("style", .object [("bold", .bool true)])]⟩],
      [⟨"amount", "number", some "Amount", true, [("min", .int (-1))]⟩],
      [⟨"onSubmit", some "Home", none, [("from", .text "/* // */")]⟩], some "Save", none⟩⟩]
  navigation := some ⟨.tab, [⟨"Home", none, some "house"⟩]⟩
  api := some ⟨"https://shop.org", true, [⟨"items", "/items", "GET", [⟨"id", ⟨"number", false⟩, true⟩],
    none, some ⟨"Item", true⟩⟩]⟩
  mockData := some ⟨[("items", [[("id", .int 7)], []])]⟩

theorem parse_rendered_shop : shop.header.isSome = true ∧ shop.WellFormed ∧
    Document.parse shop.rendered = .ok ⟨some shop, []⟩ := by
  have wellFormed : shop.WellFormed :=
    { header := by
        rintro header ⟨⟩
        refine ⟨by decide, ?_⟩
        rintro fields ⟨⟩
        exact ⟨by decide, by decide⟩
      models := by
        intro model member
        obtain rfl := List.mem_singleton.mp member
        exact ⟨by decide, by decide, by simp [Property.MayPrecede, Property.HasFeature]⟩
      screens := by
        intro screen member
        obtain rfl := List.mem_singleton.mp member
        refine ⟨by decide, by decide, ?_⟩
        rintro layout ⟨⟩
        have empty : Value.WellFormed (.list []) := .list fun _ later => absurd later List.not_mem_nil
        have style : Fields.WellFormed [("bold", .bool true)] :=
          .cons List.not_mem_nil (.bool true) .empty
        have attributes : Fields.WellFormed [("empty", .list []), ("style", .object _)] :=
          .cons (by decide) empty (.cons List.not_mem_nil style .empty)
        have least : Fields.WellFormed [("min", .int (-1))] :=
          .cons List.not_mem_nil (.int (by decide)) .empty
        have source : Fields.WellFormed [("from", .text "/* // */")] :=
          .cons List.not_mem_nil (.text _) .empty
        refine ⟨?_, ?_, ?_⟩
        · simpa using ⟨attributes, by decide⟩
        · simpa using ⟨least, by decide⟩
        · simpa using ⟨by decide, source⟩
      endpoints := by
        rintro api ⟨⟩ endpoint member
        obtain rfl := List.mem_singleton.mp member
        exact ⟨by decide, by decide, by decide, by simp, by decide⟩
      mockData := by
        rintro data ⟨⟩
        have record : Fields.WellFormed [("id", .int 7)] :=
          .cons List.not_mem_nil (.int (by decide)) .empty
        refine ⟨by decide, by decide, ?_⟩
        simpa using ⟨record, Fields.WellFormed.empty⟩ }
  exact ⟨rfl, wellFormed, parse_rendered rfl wellFormed⟩

end Blueprint
