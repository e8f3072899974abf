import Mathlib
import Blueprint.Proofs.GrammarLocality
import Blueprint.Proofs.GrammarPlaces
import Blueprint.Proofs.Junction

/-!
Reading two sources on separate lines as one. If the first is read without a diagnostic, no state
passes from its statements to those of the second: `parse_lines` says that the document of the whole
is made up of the two documents, whatever the second source is.
-/
set_option autoImplicit false

namespace Blueprint

open Grammar

/-- A document with the parts of a second one after its own. What a document has at most one of is
taken from the first where it has it. -/
def Document.followedBy (first second : Document) : Document where
  header := first.header
  models := first.models ++ second.models
  screens := first.screens ++ second.screens
  navigation := first.navigation.or second.navigation
  api := first.api.or second.api
  mockData := first.mockData.or second.mockData

theorem Document.followedBy_empty (document : Document) : document.followedBy {} = document := by
  simp [followedBy]

/-! ## Statements that are read without a diagnostic -/

namespace Closes

theorem setOnce {α : Type} (old : Option α) (duplicate : SyntaxProblem) (place : Position)
    (set : α → Document) (document : Document) (part : α) :
    Settles (Grammar.setOnce old duplicate place set document part) := by
  cases old with
  | none => exact .pure _
  | some _ => exact (Settles.report _ _).bind fun _ => .pure _

theorem statement (document : Document) : Closes (Grammar.statement document) := by
  refine bind (fun _ => .current) fun token => ?_
  split
  · exact header.map fun _ => setOnce _ _ _ _ _ _
  · exact model.map fun _ => .pure _
  · exact screen.map fun _ => .pure _
  · exact navigation.map fun _ => setOnce _ _ _ _ _ _
  · exact api.map fun _ => setOnce _ _ _ _ _ _
  · exact mockData.map fun _ => setOnce _ _ _ _ _ _
  · intro stop tokens rest value success
    contradiction

theorem orResume {α : Type} {first : Parser α} (firsts : Closes first)
    (recover : List Token → Parser α) : Closes (Parser.orResume first recover) := by
  intro stop tokens rest value success
  obtain ⟨taken, whole, known, closes, again⟩ :=
    firsts stop tokens rest value (Parser.orResume_eq_clean success)
  refine ⟨taken, whole, known, closes, fun stop' rest' => ?_⟩
  exact Parser.orResume_run_ok (again stop' rest') recover

theorem documentEntry (state : OpenDocument) : Closes (Grammar.documentEntry state) :=
  bind (fun _ => .isAt _) fun _ => ((statement state.document).orResume _).map fun _ => .pure _

end Closes

def moreStatements (_ : OpenDocument) (tokens : List Token) : Bool := !tokens.isEmpty

theorem documentBody_eq :
    documentBody = Parser.loop moreStatements documentEntry {} := rfl

/-- An entry of a document is the next statement, and it is noted whether that begins with `app`. -/
theorem documentEntry_eq (state : OpenDocument) (stop : Position) (tokens : List Token) :
    documentEntry state stop tokens = (nextStatement state.document >>= fun document =>
      pure ⟨document, state.sawApp || Parser.startsWith (.keyword .app) tokens⟩) stop tokens := by
  have looked : Parser.isAt (.keyword .app) stop tokens =
      .ok (Parser.startsWith (.keyword .app) tokens) tokens [] := by
    cases tokens <;> rfl
  exact Parser.bind_run_clean looked _

theorem documentEntry_of_next {state : OpenDocument} {document : Document}
    {tokens rest : List Token} {reports : List SyntaxDiagnostic} (stop : Position)
    (read : nextStatement state.document stop tokens = .ok document rest reports) :
    documentEntry state stop tokens = .ok ⟨document, state.sawApp ||
      Parser.startsWith (.keyword .app) tokens⟩ rest reports := by
  rw [documentEntry_eq, Parser.bind_run_ok read, Parser.pure_run, Outcome.after_ok, List.append_nil]

theorem documentEntry_eq_ok {state next : OpenDocument} {stop : Position}
    {tokens rest : List Token} {reports : List SyntaxDiagnostic}
    (success : documentEntry state stop tokens = .ok next rest reports) :
    nextStatement state.document stop tokens = .ok next.document rest reports ∧
      next.sawApp = (state.sawApp || Parser.startsWith (.keyword .app) tokens) := by
  rw [documentEntry_eq] at success
  obtain ⟨document, between, earlier, later, run, delivered, rfl⟩ := Parser.bind_eq_ok success
  rw [Parser.pure_run, Outcome.ok.injEq] at delivered
  obtain ⟨rfl, rfl, rfl⟩ := delivered
  exact ⟨by rwa [List.append_nil], rfl⟩

/-- Statements that are read without a report are read one by one, up to the end. -/
theorem statements_induct {motive : OpenDocument → List Token → Prop} {state final : OpenDocument}
    {stop : Position} {tokens rest : List Token} (ended : motive final [])
    (onward : ∀ {state next : OpenDocument} {tokens rest : List Token},
      documentEntry state stop tokens = .ok next rest [] → motive next rest → motive state tokens)
    (success : Parser.loop moreStatements documentEntry state stop tokens = .ok final rest []) :
    motive state tokens := by
  refine Parser.loop_induct_clean ?_ ?_ (fun _ run _ later => onward run later) success
  · intro stops
    have none : rest = [] := by simpa [moreStatements] using stops
    rwa [none]
  · -- Every statement takes at least its closing brace.
    intro state tokens _ run notShorter
    obtain ⟨taken, rfl, _, ⟨brace, member, _⟩, _⟩ :=
      Closes.documentEntry state stop tokens rest final run
    have := List.length_pos_of_mem member
    rw [List.length_append] at notShorter
    omega

/-- Statements that are read without a diagnostic take all their tokens, and reading goes on after
them from the state they lead to. -/
theorem statements_append {stop : Position} {tokens rest : List Token} {state state' : OpenDocument}
    (success : Parser.loop moreStatements documentEntry state stop tokens = .ok state' rest []) :
    (∀ token ∈ tokens, Known token) ∧ ∀ stop' more,
      Parser.loop moreStatements documentEntry state stop' (tokens ++ more) =
        Parser.loop moreStatements documentEntry state' stop' more := by
  refine statements_induct (motive := fun state tokens => (∀ token ∈ tokens, Known token) ∧
    ∀ stop' more, Parser.loop moreStatements documentEntry state stop' (tokens ++ more) =
      Parser.loop moreStatements documentEntry state' stop' more) ?_ ?_ success
  · exact ⟨fun _ member => absurd member List.not_mem_nil, fun _ _ => rfl⟩
  · intro state next tokens rest run later
    obtain ⟨known', again'⟩ := later
    obtain ⟨taken, rfl, known, ⟨brace, member, _⟩, again⟩ :=
      Closes.documentEntry state stop tokens rest next run
    refine ⟨List.forall_mem_append.mpr ⟨known, known'⟩, fun stop' more => ?_⟩
    obtain ⟨first, others, rfl⟩ := List.exists_cons_of_ne_nil (List.ne_nil_of_mem member)
    rw [List.append_assoc, Parser.loop_step rfl (again stop' _) (by simp), Outcome.after_nil]
    exact again' stop' more

/-- Without a report, setting a part sets it. -/
theorem setOnce_yields {α : Type} {property : Document → Prop} {set : α → Document} {part : α}
    (holds : property (set part)) (old : Option α) (duplicate : SyntaxProblem) (place : Position)
    (document : Document) :
    Parser.Yields property (setOnce old duplicate place set document part) := by
  cases old with
  | none => exact .pure holds
  | some _ =>
    intro stop tokens rest value success
    obtain ⟨_, _, reported, _⟩ := Parser.bind_eq_clean success
    simp [Parser.report] at reported

/-- A statement that begins with `app` gives the document a header, and no statement takes it away. -/
theorem header_of_statement {document next : Document} {stop : Position} {tokens rest : List Token}
    (success : statement document stop tokens = .ok next rest [])
    (expected : document.header.isSome = true ∨
      Parser.startsWith (.keyword .app) tokens = true) : next.header.isSome = true := by
  obtain ⟨token, between, run, success⟩ := Parser.bind_eq_clean success
  have kept (notApp : token.kind ≠ .keyword .app) : document.header.isSome = true := by
    refine expected.resolve_right fun starts => notApp ?_
    cases tokens with
    | nil => contradiction
    | cons first tokens =>
      simp only [Parser.current, List.head?_cons, Option.getD_some, Outcome.ok.injEq] at run
      rw [← run.1]
      exact beq_iff_eq.mp starts
  refine (?_ : Parser.Yields (fun next : Document => next.header.isSome = true) _)
    stop between rest next success
  split
  · exact .bind fun header => setOnce_yields (by rfl) _ _ _ _
  · next isModel => exact .bind fun model => .pure (kept (by simp [isModel]))
  · next isScreen => exact .bind fun screen => .pure (kept (by simp [isScreen]))
  · next isSection =>
    exact .bind fun navigation => setOnce_yields (kept (by simp [isSection])) _ _ _ _
  · next isSection => exact .bind fun api => setOnce_yields (kept (by simp [isSection])) _ _ _ _
  · next isSection =>
    exact .bind fun mockData => setOnce_yields (kept (by simp [isSection])) _ _ _ _
  · intro stop tokens rest value success
    contradiction

/-- Where a statement has begun with `app`, there is a header. -/
def HeaderRead (state : OpenDocument) : Prop :=
  state.sawApp = true → state.document.header.isSome = true

theorem headerRead_entry {state next : OpenDocument} {stop : Position} {tokens rest : List Token}
    (success : documentEntry state stop tokens = .ok next rest []) (read : HeaderRead state) :
    HeaderRead next := by
  obtain ⟨run, noted⟩ := documentEntry_eq_ok success
  intro saw
  refine header_of_statement (Parser.orResume_eq_clean run) ?_
  rw [noted] at saw
  rcases Bool.or_eq_true_iff.mp saw with saw | starts
  · exact .inl (read saw)
  · exact .inr starts

/-! ## The second source from another state -/

/-- Outcomes that leave the same tokens, whatever they report. -/
inductive Outcome.Beside {α β : Type} (related : α → β → Prop) : Outcome α → Outcome β → Prop where
  | ok {value : α} {value' : β} {rest : List Token} {reports reports' : List SyntaxDiagnostic}
    (values : related value value') :
    Beside related (.ok value rest reports) (.ok value' rest reports')
  | failed {failure : Failure} {rest : List Token} {reports reports' : List SyntaxDiagnostic} :
    Beside related (.failed failure rest reports) (.failed failure rest reports')

variable {α α' β β' : Type} {related : α → β → Prop} {related' : α' → β' → Prop}

theorem Outcome.Beside.after {outcome : Outcome α} {outcome' : Outcome β}
    (beside : Beside related outcome outcome') (earlier earlier' : List SyntaxDiagnostic) :
    Beside related (outcome.after earlier) (outcome'.after earlier') := by
  cases beside with
  | ok values => exact .ok values
  | failed => exact .failed

/-- Two parsers that take the same tokens and deliver related values, whatever they report. -/
def Beside (related : α → β → Prop) (first : Parser α) (second : Parser β) : Prop :=
  ∀ (stop : Position) (tokens : List Token),
    Outcome.Beside related (first stop tokens) (second stop tokens)

namespace Beside

theorem pure {value : α} {value' : β} (values : related value value') :
    Beside related (Pure.pure value) (Pure.pure value') :=
  fun _ _ => .ok values

theorem report (problem : SyntaxProblem) (place : Position) {value : α} {value' : β}
    (values : related value value') : Beside related (Pure.pure value)
      (Parser.report problem place >>= fun _ => Pure.pure value') :=
  fun _ _ => .ok values

theorem reports (problem : SyntaxProblem) (place : Position) {value : α} {value' : β}
    (values : related value value') :
    Beside related (Parser.report problem place >>= fun _ => Pure.pure value)
      (Parser.report problem place >>= fun _ => Pure.pure value') :=
  fun _ _ => .ok values

/-- After the same start, parsers go on beside each other. -/
theorem bindSame (first : Parser α') {next : α' → Parser α} {next' : α' → Parser β}
    (nexts : ∀ value, Beside related (next value) (next' value)) :
    Beside related (first >>= next) (first >>= next') := by
  intro stop tokens
  rw [Parser.bind_run, Parser.bind_run]
  cases first stop tokens with
  | ok value rest reports => exact (nexts value stop rest).after reports reports
  | failed failure rest reports => exact .failed

theorem bind {first : Parser α} {first' : Parser β} {next : α → Parser α'} {next' : β → Parser β'}
    (firsts : Beside related first first')
    (nexts : ∀ {value value'}, related value value' → Beside related' (next value) (next' value')) :
    Beside related' (first >>= next) (first' >>= next') := by
  intro stop tokens
  have outcomes := firsts stop tokens
  rw [Parser.bind_run, Parser.bind_run]
  generalize first stop tokens = outcome at outcomes ⊢
  generalize first' stop tokens = outcome' at outcomes ⊢
  cases outcomes with
  | ok values => exact (nexts values stop _).after _ _
  | failed => exact .failed

theorem orResume {first : Parser α} {first' : Parser β} {recover : List Token → Parser α}
    {recover' : List Token → Parser β} (firsts : Beside related first first')
    (recovers : ∀ began, Beside related (recover began) (recover' began)) :
    Beside related (Parser.orResume first recover) (Parser.orResume first' recover') := by
  intro stop tokens
  have outcomes := firsts stop tokens
  unfold Parser.orResume
  generalize first stop tokens = outcome at outcomes ⊢
  generalize first' stop tokens = outcome' at outcomes ⊢
  cases outcomes with
  | ok values => exact .ok values
  | @failed failure rest reports reports' =>
    cases failure with
    | oversizedInteger => exact .failed
    | syntaxError diagnostic => exact (recovers tokens stop rest).after _ _

theorem loop {more : α → List Token → Bool} {more' : β → List Token → Bool}
    {step : α → Parser α} {step' : β → Parser β}
    (mores : ∀ state state' tokens, more state tokens = more' state' tokens)
    (steps : ∀ {state state'}, related state state' → Beside related (step state) (step' state'))
    {state : α} {state' : β} (states : related state state') :
    Beside related (Parser.loop more step state) (Parser.loop more' step' state') := by
  intro stop tokens
  induction length : tokens.length using Nat.strongRecOn generalizing tokens state state' with
  | ind size ih =>
    subst length
    rw [Parser.loop, Parser.loop, mores state state']
    split
    · have outcomes := steps states stop tokens
      generalize step state stop tokens = outcome at outcomes ⊢
      generalize step' state' stop tokens = outcome' at outcomes ⊢
      cases outcomes with
      | failed => exact .failed
      | ok values =>
        simp only
        split
        · next shorter => exact (ih _ shorter values _ rfl).after _ _
        · exact .ok values
    · exact .ok states

end Beside

section After

variable {base : Document} (hasHeader : base.header.isSome = true)

/-- A document, and one that it follows. -/
def After (base document whole : Document) : Prop := whole = base.followedBy document

/-- A part that the base has of its own is left out, one that it has not is set in both. -/
theorem setOnce_after {part : Type} (own : Option part) {old whole : Option part} {duplicate : SyntaxProblem}
    {set set' : part → Document} {document : Document} (place : Position) (value : part)
    (wholes : whole.isSome = (own.isSome || old.isSome))
    (whenFree : own = none → After base (set value) (set' value))
    (whenTaken : own.isSome = true → After base (set value) (base.followedBy document)) :
    Beside (After base) (setOnce old duplicate place set document value)
      (setOnce whole duplicate place set' (base.followedBy document) value) := by
  cases whole with
  | none =>
    obtain ⟨free, free'⟩ := Bool.or_eq_false_iff.mp wholes.symm
    rw [Option.isSome_eq_false_iff, Option.isNone_iff_eq_none] at free free'
    subst free'
    exact .pure (whenFree free)
  | some _ =>
    cases old with
    | none => exact .report _ _ (whenTaken (by simpa using wholes.symm))
    | some _ => exact .reports _ _ rfl

include hasHeader

theorem statement_after (document : Document) :
    Beside (After base) (statement document) (statement (base.followedBy document)) := by
  refine .bindSame _ fun token => ?_
  split
  · refine .bindSame _ fun header => setOnce_after base.header _ _ ?_ ?_ fun _ => rfl
    · simp [Document.followedBy, hasHeader]
    · intro free
      rw [free] at hasHeader
      contradiction
  · refine .bindSame _ fun model => .pure ?_
    simp [After, Document.followedBy]
  · refine .bindSame _ fun screen => .pure ?_
    simp [After, Document.followedBy]
  · refine .bindSame _ fun navigation => setOnce_after base.navigation _ _ Option.isSome_or ?_ ?_
    · intro free
      simp [After, Document.followedBy, free]
    · intro taken
      simp [After, Document.followedBy, Option.or_of_isSome taken]
  · refine .bindSame _ fun api => setOnce_after base.api _ _ Option.isSome_or ?_ ?_
    · intro free
      simp [After, Document.followedBy, free]
    · intro taken
      simp [After, Document.followedBy, Option.or_of_isSome taken]
  · refine .bindSame _ fun mockData => setOnce_after base.mockData _ _ Option.isSome_or ?_ ?_
    · intro free
      simp [After, Document.followedBy, free]
    · intro taken
      simp [After, Document.followedBy, Option.or_of_isSome taken]
  · intro stop tokens
    exact .failed

theorem nextStatement_after (document : Document) :
    Beside (After base) (nextStatement document) (nextStatement (base.followedBy document)) :=
  (statement_after hasHeader document).orResume fun began =>
    .bindSame (resynchronize began) fun _ => .pure rfl

/-- States of which the second goes on from the base. -/
def StateAfter (base : Document) (state whole : OpenDocument) : Prop :=
  After base state.document whole.document

theorem documentEntry_after {state whole : OpenDocument} (after : StateAfter base state whole) :
    Beside (StateAfter base) (documentEntry state) (documentEntry whole) := by
  refine .bindSame _ fun startsApp => ?_
  rw [after]
  exact (nextStatement_after hasHeader state.document).bind fun documents => .pure documents

theorem statements_after {state whole : OpenDocument} (after : StateAfter base state whole) :
    Beside (StateAfter base) (Parser.loop moreStatements documentEntry state)
      (Parser.loop moreStatements documentEntry whole) := by
  refine .loop ?_ ?_ after
  · exact fun _ _ _ => rfl
  · intro state whole after
    exact documentEntry_after hasHeader after

end After

/-! ## Documents -/

theorem nextStatement_failed {document : Document} {stop : Position} {tokens rest : List Token}
    {failure : Failure} {reports : List SyntaxDiagnostic}
    (failed : nextStatement document stop tokens = .failed failure rest reports) :
    failure = .oversizedInteger := by
  unfold nextStatement Parser.orResume at failed
  cases run : statement document stop tokens with
  | ok value rest' reports' => simp [run] at failed
  | failed failure' rest' reports' =>
    cases failure' with
    | oversizedInteger =>
      simp only [run, Outcome.failed.injEq] at failed
      exact failed.1.symm
    | syntaxError diagnostic =>
      simp only [run, Parser.bind_run, resynchronize, Parser.skip] at failed
      contradiction

theorem documentEntry_failed {state : OpenDocument} {stop : Position} {tokens rest : List Token}
    {failure : Failure} {reports : List SyntaxDiagnostic}
    (failed : documentEntry state stop tokens = .failed failure rest reports) :
    failure = .oversizedInteger := by
  rw [documentEntry_eq, Parser.bind_run] at failed
  cases run : nextStatement state.document stop tokens with
  | ok document rest' reports' =>
    simp only [run] at failed
    contradiction
  | failed failure' rest' reports' =>
    simp only [run, Outcome.failed.injEq] at failed
    exact nextStatement_failed (failed.1 ▸ run)

/-- Statements recover from whatever does not fit the grammar. -/
theorem statements_failed {state : OpenDocument} {stop : Position} {tokens rest : List Token}
    {failure : Failure} {reports : List SyntaxDiagnostic}
    (failed : Parser.loop moreStatements documentEntry state stop tokens =
      .failed failure rest reports) : failure = .oversizedInteger := by
  refine Parser.loop_induct (motive := fun _ _ outcome => ∀ failure rest reports,
    outcome = .failed failure rest reports → failure = .oversizedInteger) ?_ ?_ ?_ state tokens
    failure rest reports failed
  · exact fun _ _ _ _ _ _ failed => nomatch failed
  · exact fun _ _ _ _ _ _ _ failed => documentEntry_failed failed
  · intro _ _ _ _ earlier outcome _ _ later failure rest reports failed
    cases outcome with
    | ok => contradiction
    | failed failure' rest' reports' =>
      obtain ⟨rfl, rfl, _⟩ := Outcome.failed.inj failed
      exact later _ _ _ rfl

theorem parseTokens_of_statements {tokens rest : List Token} {stop : Position}
    {state : OpenDocument} {reports : List SyntaxDiagnostic} (notEmpty : tokens ≠ [])
    (run : Parser.loop moreStatements documentEntry {} stop tokens = .ok state rest reports) :
    ∃ result, Document.parseTokens tokens stop = .ok result ∧
      result.document = some state.document := by
  cases tokens with
  | nil => contradiction
  | cons first others =>
    rw [Document.parseTokens, documentBody_eq, run]
    exact ⟨_, rfl, rfl⟩

theorem statements_of_parseTokens {tokens : List Token} {stop : Position} {result : ParseResult}
    (notEmpty : tokens ≠ []) (parsed : Document.parseTokens tokens stop = .ok result) :
    ∃ state rest reports,
      Parser.loop moreStatements documentEntry {} stop tokens = .ok state rest reports ∧
        result.document = some state.document := by
  cases tokens with
  | nil => contradiction
  | cons first others =>
    rw [Document.parseTokens, documentBody_eq] at parsed
    cases run : Parser.loop moreStatements documentEntry {} stop (first :: others) with
    | ok state rest reports =>
      simp only [run, Except.ok.injEq] at parsed
      exact ⟨state, rest, reports, rfl, by rw [← parsed]⟩
    | failed failure rest reports =>
      rw [statements_failed run] at run
      simp [run] at parsed

/-- A source read without a diagnostic: every statement is, and one of them is the header. -/
theorem statements_of_clean {tokens : List Token} {stop : Position} {result : ParseResult}
    (parsed : Document.parseTokens tokens stop = .ok result) (clean : result.isClean = true) :
    ∃ state rest, Parser.loop moreStatements documentEntry {} stop tokens = .ok state rest [] ∧
      result.document = some state.document ∧ state.document.header.isSome = true := by
  simp only [ParseResult.isClean, Bool.and_eq_true] at clean
  cases tokens with
  | nil =>
    simp only [Document.parseTokens, Except.ok.injEq] at parsed
    rw [← parsed] at clean
    exact absurd clean.1 (by simp)
  | cons first others =>
    rw [Document.parseTokens, documentBody_eq] at parsed
    cases run : Parser.loop moreStatements documentEntry {} stop (first :: others) with
    | ok state rest reports =>
      simp only [run, Except.ok.injEq] at parsed
      rw [← parsed] at clean ⊢
      obtain ⟨noneMissing, rfl⟩ := List.append_eq_nil_iff.mp (List.isEmpty_iff.mp clean.2)
      refine ⟨state, rest, rfl, rfl, ?_⟩
      have read : HeaderRead state :=
        Parser.loop_preserves headerRead_entry run fun saw => absurd saw (by simp)
      cases present : state.document.header.isSome with
      | true => rfl
      | false =>
        have notSaw : state.sawApp = false := by
          cases saw : state.sawApp with
          | false => rfl
          | true => exact absurd (read saw) (by simp [present])
        rw [Option.isSome_eq_false_iff] at present
        simp [present, notSaw] at noneMissing
    | failed failure rest reports =>
      rw [statements_failed run] at run
      simp [run] at parsed

/-- If a source is read without a diagnostic and does not end inside a comment, then the document of
it and any other readable source on the next line is its document followed by the other one; a source
without a token counts as an empty document. -/
theorem parse_lines {first second : String} {result result' : ParseResult}
    (parsed : Document.parse first = .ok result) (clean : result.isClean = true)
    (closed : ¬ EndsInComment first) (parsed' : Document.parse second = .ok result') :
    ∃ document whole, result.document = some document ∧
      Document.parse (first ++ "\n" ++ second) = .ok whole ∧
      whole.document = some (document.followedBy (result'.document.getD {})) := by
  obtain ⟨stop, run⟩ := parse_eq first
  obtain ⟨stop', run'⟩ := parse_eq second
  obtain ⟨stop'', run''⟩ := parse_eq (first ++ "\n" ++ second)
  rw [run] at parsed
  rw [run'] at parsed'
  obtain ⟨state, rest, statements, isDocument, hasHeader⟩ := statements_of_clean parsed clean
  obtain ⟨known, goesOn⟩ := statements_append statements
  obtain ⟨tokens, same, joined⟩ := tokensOf_lines known closed second
  have notEmpty : tokensOf first ++ tokens ≠ [] := by
    intro none
    rw [(List.append_eq_nil_iff.mp none).1, Document.parseTokens, Except.ok.injEq] at parsed
    rw [← parsed] at isDocument
    contradiction
  have continued := goesOn stop'' tokens
  rw [run'', joined, isDocument]
  by_cases empty : tokensOf second = []
  · have noMore : tokens = [] := by simpa [empty] using same
    rw [empty, Document.parseTokens, Except.ok.injEq] at parsed'
    subst noMore
    obtain ⟨whole, parsed, isWhole⟩ := parseTokens_of_statements notEmpty
      (continued.trans (Parser.loop_stop rfl))
    exact ⟨state.document, whole, rfl, parsed, by simp [isWhole, ← parsed', Document.followedBy_empty]⟩
  · obtain ⟨state', rest', reports', statements', isDocument'⟩ :=
      statements_of_parseTokens empty parsed'
    have moved := Blind.documentBody stop' stop'' _ _ same
    rw [documentBody_eq, statements'] at moved
    have after : StateAfter state.document {} state := (Document.followedBy_empty _).symm
    have beside := statements_after hasHeader after stop'' tokens
    generalize Parser.loop moreStatements documentEntry {} stop'' tokens = alone at moved beside
    generalize Parser.loop moreStatements documentEntry state stop'' tokens = both at continued beside
    cases moved with
    | ok values _ _ =>
      subst values
      cases beside with
      | ok after =>
        obtain ⟨whole, parsed, isWhole⟩ := parseTokens_of_statements notEmpty continued
        refine ⟨state.document, whole, rfl, parsed, ?_⟩
        rw [isWhole, isDocument', after]
        rfl

set_option maxRecDepth 2000 in
/-- A header on one line, and on the next a model that does not fit and a screen that does. -/
theorem parse_lines_malformed : ∃ result result' document whole,
    Document.parse "app A \x7bname: 'a' id: 'b' version: '1'\x7d" = .ok result ∧
      result.isClean = true ∧
      ¬ EndsInComment "app A \x7bname: 'a' id: 'b' version: '1'\x7d" ∧
      Document.parse "model M \x7bx\x7d screen S \x7btitle: 's'\x7d" = .ok result' ∧
      result.document = some document ∧
      Document.parse ("app A \x7bname: 'a' id: 'b' version: '1'\x7d" ++ "\n" ++
        "model M \x7bx\x7d screen S \x7btitle: 's'\x7d") = .ok whole ∧
      whole.document = some (document.followedBy (result'.document.getD {})) := by
  have parsed : Document.parse "app A \x7bname: 'a' id: 'b' version: '1'\x7d" =
      .ok ⟨some { header := some { name := "A", displayName := "a", appId := "b", version := "1" } },
        []⟩ := by cbv
  have closed : ¬ EndsInComment "app A \x7bname: 'a' id: 'b' version: '1'\x7d" :=
    not_endsInComment (by decide)
  have parsed' : Document.parse "model M \x7bx\x7d screen S \x7btitle: 's'\x7d" =
      .ok ⟨some { screens := [{ name := "S", title := "s" }] },
        [⟨.missingApp, ⟨1, 1⟩⟩, ⟨.unexpected (.kinds [.symbol .colon]) (some "\x7d"), ⟨1, 11⟩⟩]⟩ := by
    cbv
  obtain ⟨document, whole, isDocument, read, joined⟩ := parse_lines parsed rfl closed parsed'
  exact ⟨_, _, document, whole, parsed, rfl, closed, parsed', isDocument, read, joined⟩

end Blueprint
