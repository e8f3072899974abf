import Blueprint.Compile
import Blueprint.Proofs.SheetDocument
import Blueprint.Proofs.SheetExtraction

/-!
Reading a laid out sheet by the grammar and extracting it from the text come to the same: whichever of
the two is preferred, the source is compiled to the application that the sheet describes.
-/
set_option autoImplicit false

namespace Blueprint

theorem nonemptyOr_self {α : Type} (items : List α) : nonemptyOr items items = items := by
  cases items <;> rfl

namespace Document

/-- An extraction that found what the document holds changes nothing. -/
theorem preferring_own (document : Document) :
    document.preferring ⟨document.models, document.screens, document.api⟩ = document := by
  have apis : document.api.or document.api = document.api := Option.or_self
  rw [preferring, nonemptyOr_self, nonemptyOr_self, apis]

theorem reconcile_own {document : Document} {header : Header} (declared : document.header = some header)
    (strategy : Strategy) :
    reconcile (some document) (some ⟨document.models, document.screens, document.api⟩) strategy =
      .ok (document.toApplication header) := by
  cases strategy with
  | extracted => simp only [reconcile, declared, preferring_own]
  | grammar => simp only [reconcile, declared]

end Document

section

variable {sheet : Sheet} (canonical : sheet.Canonical) {source : String}
  (laid : sheet.LaidOutIn source)

include canonical laid

/-- With either strategy the result is the application that the sheet describes. -/
theorem compile_laid (strategy : Strategy) : ∃ compilation,
    compile source strategy = .ok compilation ∧ compilation.application = sheet.application := by
  obtain ⟨parsed, read, document⟩ := parse_sheet canonical canonical.readable laid
  have extracted : Extraction.ofSource source =
      ⟨sheet.document.models, sheet.document.screens, sheet.document.api⟩ :=
    ofSource_laid canonical laid
  have declared : sheet.document.header = some sheet.header := rfl
  have application : reconcile parsed.document (some (Extraction.ofSource source)) strategy =
      .ok sheet.application := by
    rw [document, extracted]
    exact Document.reconcile_own declared strategy
  refine ⟨⟨sheet.application, parsed.diagnostics, Extraction.ofSource source⟩, ?_, rfl⟩
  unfold compile
  rw [read]
  change ((reconcile parsed.document (some (Extraction.ofSource source)) strategy).mapError
    CompileError.incomplete).bind _ = _
  rw [application]
  rfl

/-- On a source that lays out a sheet, both strategies make the same application. -/
theorem strategies_agree : ∃ extracted grammar, compile source .extracted = .ok extracted ∧
    compile source .grammar = .ok grammar ∧ extracted.application = grammar.application ∧
      grammar.application = sheet.application := by
  obtain ⟨extracted, compiled, described⟩ := compile_laid canonical laid .extracted
  obtain ⟨grammar, compiled', described'⟩ := compile_laid canonical laid .grammar
  exact ⟨extracted, grammar, compiled, compiled', described.trans described'.symm, described'⟩

end

/-- A sheet with something of each kind. -/
def kiosk : Sheet where
  name := "Kiosk"
  entries := [⟨.name "The Kiosk", true⟩, ⟨.platforms [.web, .ios], false⟩,
    ⟨.theme [⟨"primary", "#fff", false⟩], false⟩]
  models := [⟨"Item", [⟨"id", ⟨"number", false⟩, true, none, []⟩,
    ⟨"tags", ⟨"string", true⟩, false, some "a-1", ["a-1", "b"]⟩]⟩]
  screens := [⟨"Home", "Welcome", true⟩, ⟨"About", "", false⟩]
  api := some ⟨"https://kiosk.org", [⟨"item", "/items/\x7bid\x7d", .get⟩]⟩

def kioskLines : List String :=
  ["app Kiosk \x7b",
    "  name: \"The Kiosk\", platforms: [web, ios]",
    "  theme: \x7b primary: \"#fff\" \x7d",
    "\x7d",
    "model Item \x7b",
    "  id: number required",
    "  tags : string[] default: \"a-1\" enum: [\"a-1\", \"b\"]",
    "\x7d",
    "screen Home \x7b",
    "  title: \"Welcome\"",
    "  initial",
    "  layout: \x7b type: stack \x7d",
    "\x7d",
    "screen About \x7b",
    "  title: \"\"",
    "  layout: \x7b type: stack \x7d",
    "\x7d",
    "api \x7b",
    "  baseUrl: \"https://kiosk.org\"",
    "  endpoint item \x7b path: \"/items/\x7bid\x7d\" method: GET \x7d",
    "\x7d"]

def kioskSource : String :=
  String.ofList (kioskLines.flatMap fun line => line.toList ++ ['\n'])

theorem kiosk_laid : kiosk.LaidOutIn kioskSource := by
  refine ⟨['\n'], .ofAfter? ?_, by decide⟩
  rw [kioskSource, String.toList_ofList]
  decide +kernel

theorem kiosk_canonical : kiosk.Canonical where
  name := by decide
  entries := by
    have texts : Verbatim "The Kiosk" ∧ Braceless "The Kiosk" := by decide
    have colour : IsTerm "primary" ∧ Verbatim "#fff" ∧ Braceless "#fff" := by decide
    simp [kiosk, HeaderAttribute.Canonical, texts, colour]
  models := by
    intro model member
    obtain rfl := List.mem_singleton.mp member
    refine ⟨by decide, ?_⟩
    intro property inModel
    simp only [List.mem_cons, List.not_mem_nil, or_false] at inModel
    rcases inModel with rfl | rfl
    · exact ⟨by decide, by decide, by decide, by decide⟩
    · exact ⟨by decide, by decide, by decide, by decide⟩
  screens := by
    intro outline member
    simp only [kiosk, List.mem_cons, List.not_mem_nil, or_false] at member
    rcases member with rfl | rfl
    · exact ⟨by decide, by decide +kernel, by decide, by decide +kernel⟩
    · exact ⟨by decide, by decide +kernel, by decide, by decide +kernel⟩
  api := by
    rintro outline ⟨⟩
    refine ⟨by decide, ?_⟩
    intro endpoint member
    obtain rfl := List.mem_singleton.mp member
    exact ⟨by decide, by decide⟩

theorem strategies_agree_kiosk : kiosk.Canonical ∧ kiosk.LaidOutIn kioskSource ∧
    ∃ extracted grammar, compile kioskSource .extracted = .ok extracted ∧
      compile kioskSource .grammar = .ok grammar ∧
        extracted.application = grammar.application ∧ grammar.application = kiosk.application :=
  ⟨kiosk_canonical, kiosk_laid, strategies_agree kiosk_canonical kiosk_laid⟩

end Blueprint
