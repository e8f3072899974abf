import Blueprint.Compile
import Blueprint.Proofs.NamedBlocks
import Blueprint.Proofs.Oversized

/-!
The names of applications, models and screens. They come from words among the tokens, or from runs of
word characters that the extraction finds, and nothing on the way to the application makes others of
them: `compile_named` says that whatever is compiled is named by word characters only.
-/
set_option autoImplicit false

namespace Blueprint

open Text Grammar

/-- A name as the grammar and the extraction find them: word characters, at least one, and nothing
else. -/
def IsRun (name : String) : Prop :=
  name.toList ≠ [] ∧ ∀ c ∈ name.toList, isWordChar c = true

/-- What is no character of words is not in a name. -/
theorem IsRun.not_mem {name : String} (isRun : IsRun name) {mark : Char}
    (noWord : isWordChar mark = false) : mark ∉ name.toList :=
  fun member => Bool.eq_false_iff.mp noWord (isRun.2 mark member)

theorem isRun_of_isWord {name : String} (isWord : IsWord name.toList) : IsRun name := by
  have letters := isWordChar_of_isWord isWord
  obtain ⟨c, rest, same, _⟩ := isWord
  exact ⟨same ▸ List.cons_ne_nil c rest, letters⟩

/-! ## Tokens -/

/-- Tokens of which each one that may be taken for a name is one. -/
def WellNamed (tokens : List Token) : Prop :=
  ∀ token ∈ tokens, token.kind.isName = true → IsRun token.value

theorem WellNamed.suffix {tokens rest : List Token} (named : WellNamed tokens)
    (left : rest <:+ tokens) : WellNamed rest :=
  fun token member => named token (left.subset member)

theorem Spelled.isRun {rest spelling : List Char} {kind : TokenKind} {value : String}
    (spelled : Spelled rest kind value spelling) (isName : kind.isName = true) : IsRun value := by
  cases spelled with
  | keyword word longest => exact isRun_of_isWord longest.1
  | identifier longest => exact isRun_of_isWord (String.toList_ofList.symm ▸ longest.1)
  | symbol | string | number | openQuote | unknown => contradiction

theorem placed_wellNamed {tiles : List Tile} {last : List Char} (tiled : Tiled tiles last)
    (place : Position) : WellNamed (placed place tiles) := by
  induction tiled generalizing place with
  | last => exact fun _ member => absurd member List.not_mem_nil
  | tile _ spelled _ ih =>
    intro token member isName
    rcases List.mem_cons.mp member with rfl | later
    · exact spelled.isRun isName
    · exact ih _ token later isName

theorem tokensOf_wellNamed (source : String) : WellNamed (tokensOf source) := by
  obtain ⟨tiles, last, whole, tiled⟩ := exists_tiled source.toList
  rw [tokensOf_tiled whole tiled]
  exact placed_wellNamed tiled .start

/-! ## What parsers deliver -/

/-- An outcome leaves an end of the tokens, and a value that it delivers has a property. -/
inductive Outcome.Delivered {α : Type} (property : α → Prop) (tokens : List Token) :
    Outcome α → Prop where
  | ok {value : α} {rest : List Token} {reports : List SyntaxDiagnostic} (left : rest <:+ tokens)
    (holds : property value) : Delivered property tokens (.ok value rest reports)
  | misfit {diagnostic : SyntaxDiagnostic} {rest : List Token} {reports : List SyntaxDiagnostic}
    (left : rest <:+ tokens) :
    Delivered property tokens (.failed (.syntaxError diagnostic) rest reports)
  | oversized {rest : List Token} {reports : List SyntaxDiagnostic} :
    Delivered property tokens (.failed .oversizedInteger rest reports)

theorem Outcome.Delivered.after {α : Type} {property : α → Prop} {tokens between : List Token}
    {outcome : Outcome α} (delivered : outcome.Delivered property between)
    (left : between <:+ tokens) (earlier : List SyntaxDiagnostic) :
    (outcome.after earlier).Delivered property tokens := by
  cases delivered with
  | ok left' holds => exact .ok (left'.trans left) holds
  | misfit left' => exact .misfit (left'.trans left)
  | oversized => exact .oversized

/-- All that a parser delivers from well named tokens has a property. -/
def Delivers {α : Type} (property : α → Prop) (parser : Parser α) : Prop :=
  ∀ (stop : Position) (tokens : List Token), WellNamed tokens →
    (parser stop tokens).Delivered property tokens

namespace Delivers

variable {α β σ : Type} {property : α → Prop} {later : β → Prop}

/-- Of the values of a parser nothing need be known. -/
theorem something {parser : Parser α} (keeps : Keeps Accounted parser) :
    Delivers (fun _ => True) parser := by
  intro stop tokens _
  have accounted := keeps stop tokens
  generalize parser stop tokens = outcome at accounted ⊢
  cases accounted with
  | ok left => exact .ok left trivial
  | misfit left => exact .misfit left
  | oversized => exact .oversized

theorem pure {value : α} (holds : property value) : Delivers property (Pure.pure value) :=
  fun _ tokens _ => .ok (List.suffix_refl tokens) holds

theorem bind {first : Parser α} {next : α → Parser β} (firsts : Delivers property first)
    (nexts : ∀ value, property value → Delivers later (next value)) :
    Delivers later (first >>= next) := by
  intro stop tokens named
  have begun := firsts stop tokens named
  rw [Parser.bind_run]
  generalize first stop tokens = outcome at begun ⊢
  cases begun with
  | ok left holds => exact (nexts _ holds stop _ (named.suffix left)).after left _
  | misfit left => exact .misfit left
  | oversized => exact .oversized

/-- After a parser of whose values nothing need be known. -/
theorem next {first : Parser α} {next : α → Parser β} (keeps : Keeps Accounted first)
    (nexts : ∀ value, Delivers later (next value)) : Delivers later (first >>= next) :=
  bind (something keeps) fun value _ => nexts value

theorem fail (problem : SyntaxProblem) (place : Position) :
    Delivers property (Parser.fail problem place) :=
  fun _ tokens _ => .misfit (List.suffix_refl tokens)

theorem orRetry {first second : Parser α} (firsts : Delivers property first)
    (seconds : Delivers property second) : Delivers property (Parser.orRetry first second) := by
  intro stop tokens named
  have begun := firsts stop tokens named
  unfold Parser.orRetry
  generalize first stop tokens = outcome at begun ⊢
  cases begun with
  | ok left holds => exact .ok left holds
  | misfit left => exact (seconds stop tokens named).after (List.suffix_refl tokens) _
  | oversized => exact .oversized

theorem orResume {first : Parser α} {recover : List Token → Parser α}
    (firsts : Delivers property first) (recovers : ∀ began, Delivers property (recover began)) :
    Delivers property (Parser.orResume first recover) := by
  intro stop tokens named
  have begun := firsts stop tokens named
  unfold Parser.orResume
  generalize first stop tokens = outcome at begun ⊢
  cases begun with
  | ok left holds => exact .ok left holds
  | misfit left => exact (recovers tokens stop _ (named.suffix left)).after left _
  | oversized => exact .oversized

/-- What each step preserves holds after all of them. -/
theorem loop {more : α → List Token → Bool} {step : α → Parser α}
    (steps : ∀ state, property state → Delivers property (step state)) {state : α}
    (holds : property state) : Delivers property (Parser.loop more step state) := by
  intro stop tokens
  refine Parser.loop_induct (motive := fun state tokens outcome => property state →
    WellNamed tokens → outcome.Delivered property tokens) ?_ ?_ ?_ state tokens holds
  · exact fun _ tokens _ holds _ => .ok (List.suffix_refl tokens) holds
  · exact fun state tokens _ _ holds named => steps state holds stop tokens named
  · intro state next tokens rest reports outcome _ run later holds named
    have begun := steps state holds stop tokens named
    rw [run] at begun
    cases begun with
    | ok left holds' => exact (later holds' (named.suffix left)).after left _

theorem expectName : Delivers (fun token => IsRun token.value) Parser.expectName := by
  intro stop tokens named
  have notAtEnd : TokenKind.isName .eof = false := rfl
  rcases Parser.accept_outcome notAtEnd .name stop tokens with
    ⟨token, rest, rfl, isName, run⟩ | ⟨diagnostic, run⟩
  · rw [Parser.expectName, run]
    exact .ok (List.suffix_cons token rest) (named token List.mem_cons_self isName)
  · rw [Parser.expectName, run]
    exact .misfit (List.suffix_refl tokens)

/-! ## Documents -/

theorem model : Delivers (fun model : Model => IsRun model.name) Grammar.model :=
  next (Accounted.expectKeyword .model) fun _ => bind expectName fun _ named =>
    next (Accounted.expectSymbol .leftBrace) fun _ =>
      next (inherited_accounted.itemsUntil .rightBrace inherited_accounted.property) fun _ =>
        next (Accounted.expectSymbol .rightBrace) fun _ => pure named

theorem screen : Delivers (fun screen : Screen => IsRun screen.name) Grammar.screen := by
  refine next (Accounted.expectKeyword .screen) fun _ => bind expectName fun _ named =>
    next (Accounted.expectSymbol .leftBrace) fun _ =>
      next (inherited_accounted.untilClosed .rightBrace inherited_accounted.screenEntry _) fun _ =>
        next (Accounted.expectSymbol .rightBrace) fun _ => ?_
  split
  · exact next (composable_accounted.report _ _) fun _ => pure named
  · exact pure named

theorem headerAttribute (key : Token) {header : Header} (named : IsRun header.name) :
    Delivers (fun header : Header => IsRun header.name) (Grammar.headerAttribute key header) := by
  unfold Grammar.headerAttribute
  split
  · exact next composable_accounted.expectText fun _ => pure named
  · exact next composable_accounted.expectText fun _ => pure named
  · exact next composable_accounted.expectText fun _ => pure named
  · exact next inherited_accounted.platforms fun _ => pure named
  · exact next inherited_accounted.theme fun _ => pure named
  · exact fail _ _

/-- No attribute of a header, recovered from or not, changes its name. -/
theorem headerEntry {body : OpenHeader} (named : IsRun body.header.name) :
    Delivers (fun body : OpenHeader => IsRun body.header.name) (Grammar.headerEntry body) := by
  have key : Keeps Accounted Grammar.headerKey :=
    Accounted.orRetry (Accounted.bind composable_accounted.expectKey fun _ => Accounted.pure _)
      (Accounted.bind Accounted.skipToAttribute fun _ => Accounted.pure _)
  refine next key fun found => ?_
  match found with
  | none => exact next composable_accounted.skipCommas fun _ => pure named
  | some key =>
    exact bind (orRetry (headerAttribute key named) (next Accounted.skipValue fun _ => pure named))
      fun _ named' => next composable_accounted.skipCommas fun _ => pure named'

theorem header : Delivers (fun header : Header => IsRun header.name) Grammar.header :=
  next (Accounted.expectKeyword .app) fun _ => bind expectName fun _ named =>
    next (Accounted.expectSymbol .leftBrace) fun _ =>
      bind (loop (fun _ => headerEntry) named) fun _ named' =>
        next (Accounted.closeHeader _) fun _ =>
          next (Accounted.reportMissing _ _ _) fun _ => pure named'

end Delivers

/-- A document of which all parts that files are named by have names. -/
structure Document.Named (document : Document) : Prop where
  header {header : Header} (isHeader : document.header = some header) : IsRun header.name
  models {model : Model} (member : model ∈ document.models) : IsRun model.name
  screens {screen : Screen} (member : screen ∈ document.screens) : IsRun screen.name

namespace Delivers

variable {α : Type} {document : Document}

theorem setOnce {property : Document → Prop} {old : Option α} {duplicate : SyntaxProblem}
    {place : Position} {set : α → Document} {part : α} (holds : property document)
    (holds' : property (set part)) :
    Delivers property (Grammar.setOnce old duplicate place set document part) := by
  cases old with
  | none => exact pure holds'
  | some _ => exact next (composable_accounted.report _ _) fun _ => pure holds

theorem statement (named : document.Named) :
    Delivers Document.Named (Grammar.statement document) := by
  refine next composable_accounted.current fun token => ?_
  split
  · refine bind header fun header named' => setOnce named { named with header := ?_ }
    rintro _ ⟨⟩
    exact named'
  · refine bind model fun model named' => pure { named with models := fun member => ?_ }
    rcases List.mem_append.mp member with member | member
    · exact named.models member
    · exact List.mem_singleton.mp member ▸ named'
  · refine bind screen fun screen named' => pure { named with screens := fun member => ?_ }
    rcases List.mem_append.mp member with member | member
    · exact named.screens member
    · exact List.mem_singleton.mp member ▸ named'
  · exact next Accounted.navigation fun _ => setOnce named { named with }
  · exact next Accounted.api fun _ => setOnce named { named with }
  · exact next Accounted.mockData fun _ => setOnce named { named with }
  · exact fun _ tokens _ => .misfit (List.suffix_refl tokens)

theorem documentBody {property : Document → Prop}
    (statements : ∀ document, property document →
      Delivers property (Grammar.statement document)) (empty : property {}) :
    Delivers (fun state : OpenDocument => property state.document) Grammar.documentBody := by
  refine loop (fun state holds => ?_) empty
  refine next (composable_accounted.isAt _) fun startsApp => bind ?_ fun _ holds' => pure holds'
  exact orResume (statements _ holds) fun began =>
    next (Accounted.resynchronize began) fun _ => pure holds

end Delivers

/-- What every statement preserves holds of the document that is parsed. -/
theorem parse_delivers {property : Document → Prop}
    (statements : ∀ document, property document →
      Delivers property (Grammar.statement document)) (empty : property {})
    {source : String} {result : ParseResult} {document : Document}
    (parsed : Document.parse source = .ok result) (isDocument : result.document = some document) :
    property document := by
  obtain ⟨stop, run⟩ := parse_eq source
  have named := tokensOf_wellNamed source
  rw [run] at parsed
  generalize tokensOf source = tokens at named parsed
  cases tokens with
  | nil =>
    cases parsed
    contradiction
  | cons first others =>
    have delivered := Delivers.documentBody statements empty stop (first :: others) named
    rw [Document.parseTokens] at parsed
    generalize Grammar.documentBody stop (first :: others) = outcome at delivered parsed
    cases delivered with
    | ok _ holds =>
      cases parsed
      cases isDocument
      exact holds
    | misfit =>
      cases parsed
      contradiction
    | oversized => contradiction

theorem parse_named {source : String} {result : ParseResult} {document : Document}
    (parsed : Document.parse source = .ok result) (isDocument : result.document = some document) :
    document.Named :=
  parse_delivers (fun _ => Delivers.statement) ⟨nofun, nofun, nofun⟩ parsed isDocument

/-! ## What is extracted -/

theorem of_mem_matchesFrom {α : Type} {read : WordReader α} (property : α → Prop)
    (reads : ∀ {insideWord text answer after},
      read insideWord text = some (answer, after) → property answer)
    {insideWord : Bool} {taken : Nat} {text : List Char} {answer : α}
    (member : answer ∈ matchesFrom read insideWord taken text) : property answer := by
  induction text generalizing insideWord taken with
  | nil => simp [matchesFrom] at member
  | cons c rest ih =>
    cases taken with
    | succ taken => exact ih (by rwa [matchesFrom] at member)
    | zero =>
      rw [matchesFrom] at member
      split at member
      · next found =>
        rcases List.mem_cons.mp member with rfl | later
        · exact reads found
        · exact ih later
      · exact ih member

theorem namedBlock_isRun {keyword : String} {insideWord : Bool} {text after : List Char}
    {block : Extraction.NamedBlock}
    (found : Extraction.namedBlock keyword insideWord text = some (block, after)) :
    IsRun block.name := by
  obtain ⟨_, laid, _⟩ := namedBlock_eq_some_iff.mp found
  obtain ⟨blank, apart, letters, some, _⟩ := laid
  rw [IsRun, String.toList_ofList]
  exact ⟨some, letters⟩

theorem modelsOf_named {source : String} {model : Model}
    (member : model ∈ Extraction.modelsOf source) : IsRun model.name := by
  obtain ⟨block, found, rfl⟩ := List.mem_map.mp member
  exact of_mem_matchesFrom (fun block => IsRun block.name) namedBlock_isRun found

theorem screensOf_named {source : String} {screen : Screen}
    (member : screen ∈ Extraction.screensOf source) : IsRun screen.name := by
  obtain ⟨block, found, rfl⟩ := List.mem_map.mp member
  exact of_mem_matchesFrom (fun block => IsRun block.name) namedBlock_isRun found

/-! ## Applications -/

/-- An application of which all parts that files are named by have names. -/
structure Application.Named (app : Application) : Prop where
  name : IsRun app.name
  models {model : Model} (member : model ∈ app.models) : IsRun model.name
  screens {screen : Screen} (member : screen ∈ app.screens) : IsRun screen.name

theorem mem_nonemptyOr {α : Type} {preferred fallback : List α} {item : α}
    (member : item ∈ nonemptyOr preferred fallback) : item ∈ preferred ∨ item ∈ fallback := by
  unfold nonemptyOr at member
  split at member
  · exact .inr member
  · exact .inl member

theorem preferring_named {document : Document} (named : document.Named) (source : String) :
    (document.preferring (Extraction.ofSource source)).Named where
  header := named.header
  models member := (mem_nonemptyOr member).elim modelsOf_named named.models
  screens member := (mem_nonemptyOr member).elim screensOf_named named.screens

theorem toApplication_named {document : Document} {header : Header} (named : document.Named)
    (isHeader : document.header = some header) : (document.toApplication header).Named where
  name := named.header isHeader
  models := named.models
  screens := named.screens

/-- The document that a strategy makes the application of. -/
def Strategy.choose (source : String) (document : Document) : Strategy → Document
  | .grammar => document
  | .extracted => document.preferring (Extraction.ofSource source)

/-- What is compiled is the document with a header that was parsed, as the strategy chooses. -/
theorem compile_eq_ok {source : String} {strategy : Strategy} {compilation : Compilation}
    (compiled : compile source strategy = .ok compilation) :
    ∃ result document header, Document.parse source = .ok result ∧
      result.document = some document ∧ document.header = some header ∧
      compilation.application = (strategy.choose source document).toApplication header := by
  unfold compile at compiled
  cases parsed : Document.parse source with
  | error error => simp [parsed, Except.mapError, bind, Except.bind] at compiled
  | ok result =>
    cases isDocument : result.document with
    | none => simp [parsed, isDocument, reconcile, Except.mapError, bind, Except.bind] at compiled
    | some document =>
      cases isHeader : document.header with
      | none =>
        simp [parsed, isDocument, isHeader, reconcile, Except.mapError, bind, Except.bind]
          at compiled
      | some header =>
        simp only [parsed, isDocument, isHeader, reconcile, Except.mapError, bind, Except.bind, pure,
          Except.pure, Except.ok.injEq] at compiled
        subst compiled
        exact ⟨result, document, header, rfl, isDocument, isHeader, by cases strategy <;> rfl⟩

/-- A source that is parsed with a header is compiled. -/
theorem compile_of_header {source : String} {result : ParseResult} {document : Document}
    {header : Header} (parsed : Document.parse source = .ok result)
    (isDocument : result.document = some document) (hasHeader : document.header = some header)
    (strategy : Strategy) : compile source strategy =
      .ok ⟨(strategy.choose source document).toApplication header, result.diagnostics,
        Extraction.ofSource source⟩ := by
  cases strategy <;>
    simp [compile, parsed, isDocument, hasHeader, reconcile, Strategy.choose, Except.mapError, bind,
      Except.bind, pure, Except.pure]

/-- Both ways of compiling a source only deliver names of word characters. -/
theorem compile_named {source : String} {strategy : Strategy} {compilation : Compilation}
    (compiled : compile source strategy = .ok compilation) : compilation.application.Named := by
  obtain ⟨result, document, header, parsed, isDocument, isHeader, same⟩ := compile_eq_ok compiled
  have named := parse_named parsed isDocument
  rw [same]
  cases strategy with
  | grammar => exact toApplication_named named isHeader
  | extracted => exact toApplication_named (preferring_named named source) isHeader

end Blueprint
