import Blueprint.Compile
import Blueprint.Proofs.Composition
import Blueprint.Proofs.Nesting
import Blueprint.Proofs.Reading

/-!
When a source cannot be read. Whatever does not fit the grammar is reported and passed over; the one
thing that stops the reading is an integer literal with more digits than can be converted.
`unreadable_only_if_oversized` says so for every source, and what it means for compiling;
`oversizedRecord_unreadable` is a source that is stopped.
-/
set_option autoImplicit false

namespace Blueprint

open Grammar

/-- A literal of an integer with too many digits to be converted. -/
def Oversized (token : Token) : Prop :=
  token.kind = .number ∧ '.' ∉ token.value.toList ∧
    Numeral.maxDigits < (Numeral.splitSign token.value.toList).2.length

theorem int?_eq_none {digits : List Char} (none : Numeral.int? digits = none) :
    Numeral.maxDigits < (Numeral.splitSign digits).2.length := by
  unfold Numeral.int? at none
  simp only at none
  split at none
  · next long => exact long
  · contradiction

/-- Where a number is asked for, the current token is one and has a value, or is one that is not
converted, or it is left. -/
theorem number_outcome (stop : Position) (tokens : List Token) :
    let read := (Parser.expect .number >>= fun token => Grammar.number token.value) stop tokens
    (∃ token rest, tokens = token :: rest ∧ token.kind = .number ∧
      ((∃ value, read = .ok value rest []) ∨
        Oversized token ∧ read = .failed .oversizedInteger rest [])) ∨
    ∃ diagnostic, read = .failed (.syntaxError diagnostic) tokens [] := by
  intro read
  rcases @Parser.expect_outcome .number nofun stop tokens with
    ⟨token, rest, whole, isNumber, run⟩ | ⟨diagnostic, run⟩
  · have read_eq : read = Grammar.number token.value stop rest := Parser.bind_run_clean run _
    refine .inl ⟨token, rest, whole, isNumber, ?_⟩
    rw [read_eq, Grammar.number]
    split
    · exact .inl ⟨_, rfl⟩
    · next noPoint =>
      cases converted : Numeral.int? token.value.toList with
      | some i => exact .inl ⟨.int i, rfl⟩
      | none =>
        have long := int?_eq_none converted
        exact .inr ⟨⟨isNumber, by simpa using noPoint, long⟩, rfl⟩
  · exact .inr ⟨diagnostic, Parser.bind_run_failed run _⟩

/-- An outcome leaves an end of the tokens, and what could not be converted is among them. -/
inductive Outcome.Accounted (tokens : List Token) : {α : Type} → Outcome α → Prop where
  | ok {α : Type} {value : α} {rest : List Token} {reports : List SyntaxDiagnostic}
    (left : rest <:+ tokens) : Accounted tokens (.ok value rest reports)
  | misfit {α : Type} {diagnostic : SyntaxDiagnostic} {rest : List Token}
    {reports : List SyntaxDiagnostic} (left : rest <:+ tokens) :
    Accounted tokens (.failed (.syntaxError diagnostic) rest reports : Outcome α)
  | oversized {α : Type} {token : Token} {rest : List Token} {reports : List SyntaxDiagnostic}
    (inside : token ∈ tokens) (oversized : Oversized token) :
    Accounted tokens (.failed .oversizedInteger rest reports : Outcome α)

def Accounted (α : Type) (tokens : List Token) (outcome : Outcome α) : Prop :=
  outcome.Accounted tokens

theorem Outcome.Accounted.after {α : Type} {tokens between : List Token} {outcome : Outcome α}
    (accounted : outcome.Accounted between) (left : between <:+ tokens)
    (earlier : List SyntaxDiagnostic) : (outcome.after earlier).Accounted tokens := by
  cases accounted with
  | ok left' => exact .ok (left'.trans left)
  | misfit left' => exact .misfit (left'.trans left)
  | oversized inside isOversized => exact .oversized (left.subset inside) isOversized

theorem composable_accounted : Composable Accounted where
  still _ tokens _ := .ok (List.suffix_refl tokens)
  misfit _ tokens := .misfit (List.suffix_refl tokens)
  taken _ row _ rest := .ok (List.suffix_append row rest)
  onward first second := by
    cases first with
    | ok left => exact Outcome.Accounted.after second left _
  failed first := by
    cases first with
    | misfit left => exact .misfit left
    | oversized inside isOversized => exact .oversized inside isOversized

namespace Accounted

variable {α β : Type}

theorem accept {allowed : TokenKind → Bool} (notAtEnd : allowed .eof = false)
    (expected : Expectation) : Keeps Accounted (Parser.accept allowed expected) := by
  intro stop tokens
  rcases Parser.accept_outcome notAtEnd expected stop tokens with
    ⟨token, rest, rfl, _, run⟩ | ⟨diagnostic, run⟩
  · rw [run]
    exact .ok (List.suffix_cons token rest)
  · rw [run]
    exact .misfit (List.suffix_refl tokens)

theorem expectSymbol (mark : Symbol) : Keeps Accounted (Parser.expectSymbol mark) :=
  accept (by simp) _

theorem number :
    Keeps Accounted (Parser.expect .number >>= fun token => Grammar.number token.value) := by
  intro stop tokens
  rcases number_outcome stop tokens with
    ⟨token, rest, rfl, _, ⟨value, run⟩ | ⟨isOversized, run⟩⟩ | ⟨diagnostic, run⟩
  · rw [run]
    exact .ok (List.suffix_cons token rest)
  · rw [run]
    exact .oversized List.mem_cons_self isOversized
  · rw [run]
    exact .misfit (List.suffix_refl tokens)

end Accounted

theorem inherited_accounted : Inherited Accounted where
  toComposable := composable_accounted
  group _ inners nexts :=
    composable_accounted.bind (Accounted.expectSymbol _) fun token =>
      composable_accounted.bind (inners token) fun value =>
        composable_accounted.bind (Accounted.expectSymbol _) (nexts token value)
  number := Accounted.number

/-! ## What recovery passes over -/

theorem scans_afterValue : Scans afterValue := by
  refine ⟨fun depth => by rw [afterValue], fun depth token rest => ?_⟩
  cases depth with
  | zero =>
    rw [afterValue]
    split
    · exact .inl rfl
    · split
      · exact .inr (.inr ⟨1, rfl⟩)
      · exact .inr (.inl rfl)
  | succ depth =>
    rw [afterValue]
    split
    · exact .inr (.inr ⟨depth + 2, rfl⟩)
    · split
      · split
        · exact .inr (.inl rfl)
        · exact .inr (.inr ⟨depth, rfl⟩)
      · exact .inr (.inr ⟨depth + 1, rfl⟩)

/-- The tokens from the next statement on, looked for behind the current token if that is the one at a
given place. -/
def onwardTo (place : Option (List Token)) (tokens : List Token) : List Token :=
  match place with
  | some began => toStatement (if tokens.length == began.length then tokens.drop 1 else tokens)
  | none => toStatement tokens

theorem scans_onwardTo : Scans onwardTo := by
  have toward (token : Token) (rest : List Token) :
      toStatement (token :: rest) = token :: rest ∨ toStatement (token :: rest) = toStatement rest := by
    rw [toStatement]
    split
    · exact .inl rfl
    · exact .inr rfl
  refine ⟨fun place => ?_, fun place token rest => ?_⟩
  · cases place <;> simp [onwardTo, toStatement]
  · cases place with
    | none => exact (toward token rest).imp_right fun goesOn => .inr ⟨none, goesOn⟩
    | some began =>
      simp only [onwardTo]
      split
      · exact .inr (.inr ⟨none, rfl⟩)
      · exact (toward token rest).imp_right fun goesOn => .inr ⟨none, goesOn⟩

namespace Accounted

variable {α β : Type}

theorem bind {first : Parser α} {next : α → Parser β} (firsts : Keeps Accounted first)
    (nexts : ∀ value, Keeps Accounted (next value)) : Keeps Accounted (first >>= next) :=
  composable_accounted.bind firsts nexts

theorem pure (value : α) : Keeps Accounted (Pure.pure value) :=
  composable_accounted.pure value

theorem skip {keep : List Token → List Token} (keeps : ∀ tokens, keep tokens <:+ tokens) :
    Keeps Accounted (Parser.skip keep) :=
  fun _ tokens => .ok (keeps tokens)

theorem advance : Keeps Accounted Parser.advance :=
  fun _ tokens => .ok (List.drop_suffix 1 tokens)

theorem option (kind : TokenKind) : Keeps Accounted (Parser.option kind) := by
  intro stop tokens
  rw [Parser.option, Parser.takeIf_run]
  split
  · exact .ok (List.drop_suffix 1 tokens)
  · exact .ok (List.suffix_refl tokens)

theorem orRetry {first second : Parser α} (firsts : Keeps Accounted first)
    (seconds : Keeps Accounted second) : Keeps Accounted (Parser.orRetry first second) := by
  intro stop tokens
  have begun := firsts stop tokens
  unfold Parser.orRetry
  generalize first stop tokens = outcome at begun ⊢
  cases begun with
  | ok left => exact .ok left
  | misfit left => exact (seconds stop tokens).after (List.suffix_refl tokens) _
  | oversized inside isOversized => exact .oversized inside isOversized

theorem orResume {first : Parser α} {recover : List Token → Parser α}
    (firsts : Keeps Accounted first) (recovers : ∀ began, Keeps Accounted (recover began)) :
    Keeps Accounted (Parser.orResume first recover) := by
  intro stop tokens
  have begun := firsts stop tokens
  unfold Parser.orResume
  generalize first stop tokens = outcome at begun ⊢
  cases begun with
  | ok left => exact .ok left
  | misfit left => exact (recovers tokens stop _).after left _
  | oversized inside isOversized => exact .oversized inside isOversized

/-! ## Statements -/

theorem expectKeyword (keyword : Keyword) :
    Keeps Accounted (Parser.expect (.keyword keyword)) :=
  accept (by simp) _

theorem model : Keeps Accounted Grammar.model :=
  bind (expectKeyword .model) fun _ => bind inherited_accounted.expectName fun _ =>
    inherited_accounted.group .braces
      (fun _ => inherited_accounted.itemsUntil .rightBrace inherited_accounted.property)
      fun _ _ _ => pure _

theorem screen : Keeps Accounted Grammar.screen := by
  refine bind (expectKeyword .screen) fun _ => bind inherited_accounted.expectName fun _ =>
    inherited_accounted.group .braces
      (fun _ => inherited_accounted.untilClosed .rightBrace inherited_accounted.screenEntry _)
      fun _ body _ => ?_
  split
  · exact bind (composable_accounted.report _ _) fun _ => pure _
  · exact pure _

theorem openSection (keyword : Keyword) : Keeps Accounted (Grammar.openSection keyword) :=
  bind (expectKeyword keyword) fun _ => bind (option _) fun _ =>
    bind (expectSymbol .leftBrace) fun _ => pure _

theorem navigation : Keeps Accounted Grammar.navigation := by
  refine bind (openSection .navigation) fun _ =>
    bind (inherited_accounted.untilClosed .rightBrace inherited_accounted.navigationEntry _)
      fun body => bind (expectSymbol .rightBrace) fun _ => ?_
  split
  · exact pure _
  · exact composable_accounted.fail _ _

theorem api : Keeps Accounted Grammar.api := by
  refine bind (openSection .api) fun _ =>
    bind (inherited_accounted.untilClosed .rightBrace inherited_accounted.apiEntry _)
      fun body => bind (expectSymbol .rightBrace) fun _ => ?_
  split
  · exact pure _
  · exact composable_accounted.fail _ _

theorem mockData : Keeps Accounted Grammar.mockData :=
  bind (openSection .mockData) fun _ =>
    bind (inherited_accounted.untilClosed .rightBrace inherited_accounted.mockEntry _)
      fun _ => bind (expectSymbol .rightBrace) fun _ => pure _

/-! ## The header, with its recovery -/

theorem skipValue : Keeps Accounted Grammar.skipValue :=
  skip (scans_afterValue.suffix 0)

theorem skipToAttribute : Keeps Accounted Grammar.skipToAttribute := by
  refine bind advance fun _ => composable_accounted.loop (fun _ => ?_) _
  refine bind (composable_accounted.isAt _) fun atBracket => ?_
  split
  · exact bind advance fun _ => pure _
  · exact skipValue

theorem headerEntry (body : OpenHeader) : Keeps Accounted (Grammar.headerEntry body) := by
  refine bind (orRetry (bind composable_accounted.expectKey fun _ => pure _)
    (bind skipToAttribute fun _ => pure _)) fun found => ?_
  match found with
  | none => exact bind composable_accounted.skipCommas fun _ => pure _
  | some key =>
    exact bind (orRetry (inherited_accounted.headerAttribute key body.header)
      (bind skipValue fun _ => pure _)) fun _ =>
        bind composable_accounted.skipCommas fun _ => pure _

theorem closeHeader (app : String) : Keeps Accounted (Grammar.closeHeader app) := by
  refine bind (option _) fun closed => ?_
  split
  · exact bind composable_accounted.current fun _ => composable_accounted.report _ _
  · exact pure _

theorem reportMissing (app : String) (place : Position) (seen : List String) :
    Keeps Accounted (Grammar.reportMissing app place seen) := by
  refine composable_accounted.forM (fun required => ?_) _
  split
  · exact composable_accounted.report _ _
  · exact pure _

theorem header : Keeps Accounted Grammar.header :=
  bind (expectKeyword .app) fun _ => bind composable_accounted.expectName fun _ =>
    bind (expectSymbol .leftBrace) fun _ =>
      bind (composable_accounted.loop headerEntry _) fun _ =>
        bind (closeHeader _) fun _ => bind (reportMissing _ _ _) fun _ => pure _

/-! ## Documents -/

theorem setOnce (old : Option α) (duplicate : SyntaxProblem) (place : Position)
    (set : α → Document) (document : Document) (part : α) :
    Keeps Accounted (Grammar.setOnce old duplicate place set document part) := by
  cases old with
  | none => exact pure _
  | some _ => exact bind (composable_accounted.report _ _) fun _ => pure _

theorem statement (document : Document) : Keeps Accounted (Grammar.statement document) := by
  refine bind composable_accounted.current fun token => ?_
  split
  · exact bind header fun _ => setOnce _ _ _ _ _ _
  · exact bind model fun _ => pure _
  · exact bind screen fun _ => pure _
  · exact bind navigation fun _ => setOnce _ _ _ _ _ _
  · exact bind api fun _ => setOnce _ _ _ _ _ _
  · exact bind mockData fun _ => setOnce _ _ _ _ _ _
  · exact composable_accounted.unexpected _

theorem resynchronize (began : List Token) : Keeps Accounted (Grammar.resynchronize began) :=
  skip (scans_onwardTo.suffix (some began))

theorem documentBody : Keeps Accounted Grammar.documentBody := by
  refine composable_accounted.loop (fun state => ?_) _
  refine bind (composable_accounted.isAt _) fun startsApp => bind ?_ fun document => pure _
  exact orResume (statement _) fun began => bind (resynchronize began) fun _ => pure _

end Accounted

/-- Reading the tokens of a source delivers a document if there are any, unless one of them is an
integer literal of too many digits. -/
theorem parseTokens_outcome (tokens : List Token) (stop : Position) :
    (∃ result, Document.parseTokens tokens stop = .ok result ∧
      (result.document = none ↔ tokens = [])) ∨
    Document.parseTokens tokens stop = .error .oversizedInteger ∧ ∃ token ∈ tokens, Oversized token := by
  cases tokens with
  | nil => exact .inl ⟨_, rfl, by simp⟩
  | cons first others =>
    have accounted := Accounted.documentBody stop (first :: others)
    cases run : documentBody stop (first :: others) with
    | ok state rest reports =>
      rw [Document.parseTokens, run]
      exact .inl ⟨_, rfl, by simp⟩
    | failed failure rest reports =>
      rw [documentBody_eq] at run
      obtain rfl := statements_failed run
      rw [← documentBody_eq] at run
      rw [run] at accounted
      rw [Document.parseTokens, run]
      cases accounted with
      | oversized inside isOversized => exact .inr ⟨rfl, _, inside, isOversized⟩

theorem compile_of_parse {source : String} {result : ParseResult}
    (parsed : Document.parse source = .ok result) (strategy : Strategy) :
    (∃ compilation, compile source strategy = .ok compilation) ∨
      ∃ error, compile source strategy = .error (.incomplete error) := by
  unfold compile
  rw [parsed]
  change (∃ compilation, (reconcile result.document (Extraction.ofSource source) strategy).mapError
      CompileError.incomplete >>= _ = .ok compilation) ∨ ∃ error,
    (reconcile result.document (Extraction.ofSource source) strategy).mapError
      CompileError.incomplete >>= _ = .error (.incomplete error)
  cases reconcile result.document (Extraction.ofSource source) strategy with
  | ok application => exact .inl ⟨_, rfl⟩
  | error error => exact .inr ⟨error, rfl⟩

theorem compile_of_unreadable {source : String} {error : ParseError}
    (unreadable : Document.parse source = .error error) (strategy : Strategy) :
    compile source strategy = .error (.unreadable error) := by
  unfold compile
  rw [unreadable]
  rfl

/-- Every source is read, and compiled unless it has no document or no header; only where it holds an
integer literal of too many digits may reading, and so compiling, be stopped by it. -/
theorem unreadable_only_if_oversized (source : String) :
    ((∃ result, Document.parse source = .ok result ∧
        (result.document = none ↔ tokensOf source = [])) ∧
      ∀ strategy, (∃ compilation, compile source strategy = .ok compilation) ∨
        ∃ error, compile source strategy = .error (.incomplete error)) ∨
    Document.parse source = .error .oversizedInteger ∧
      (∃ token ∈ tokensOf source, Oversized token) ∧
      ∀ strategy, compile source strategy = .error (.unreadable .oversizedInteger) := by
  obtain ⟨stop, parsed⟩ := parse_eq source
  rcases parseTokens_outcome (tokensOf source) stop with ⟨result, run, isNone⟩ | ⟨run, oversized⟩
  · rw [← parsed] at run
    exact .inl ⟨⟨result, run, isNone⟩, compile_of_parse run⟩
  · rw [← parsed] at run
    exact .inr ⟨run, oversized, compile_of_unreadable run⟩

/-! ## A source that is stopped -/

/-- Whether a parser is stopped by a literal that cannot be converted. -/
def Overflows {α : Type} (parser : Parser α) (tokens : List Token) : Prop :=
  ∀ stop, ∃ rest reports, parser stop tokens = .failed .oversizedInteger rest reports

namespace Overflows

variable {α β : Type}

theorem first {parser : Parser α} {tokens : List Token} (overflows : Overflows parser tokens)
    (next : α → Parser β) : Overflows (parser >>= next) tokens := by
  intro stop
  obtain ⟨rest, reports, run⟩ := overflows stop
  exact ⟨rest, reports, Parser.bind_run_failed run next⟩

theorem after {parser : Parser α} {next : α → Parser β} {tokens rest : List Token} {value : α}
    (run : ∀ stop, parser stop tokens = .ok value rest [])
    (overflows : Overflows (next value) rest) : Overflows (parser >>= next) tokens := by
  intro stop
  obtain ⟨left, reports, stopped⟩ := overflows stop
  exact ⟨left, reports, (Parser.bind_run_clean (run stop) next).trans stopped⟩

theorem take {parser : Parser α} {next : α → Parser β} {token : Token} {rest : List Token}
    {value : α} (takes : Takes parser token value) (overflows : Overflows (next value) rest) :
    Overflows (parser >>= next) (token :: rest) :=
  after (fun stop => takes.run stop rest) overflows

theorem loop {more : α → List Token → Bool} {step : α → Parser α} {state : α}
    {tokens : List Token} (goesOn : more state tokens = true)
    (overflows : Overflows (step state) tokens) :
    Overflows (Parser.loop more step state) tokens := by
  intro stop
  obtain ⟨rest, reports, run⟩ := overflows stop
  exact ⟨rest, reports, by rw [Parser.loop, if_pos goesOn, run]⟩

theorem orResume {parser : Parser α} {tokens : List Token} (overflows : Overflows parser tokens)
    (recover : List Token → Parser α) : Overflows (Parser.orResume parser recover) tokens := by
  intro stop
  obtain ⟨rest, reports, run⟩ := overflows stop
  exact ⟨rest, reports, by rw [Parser.orResume, run]⟩

end Overflows

section Record

open Written

variable {digits : List Char}

/-- A mock record with a number. -/
def recordOf (digits : List Char) : List Token :=
  [word "mockData", mark .leftBrace, word "items", mark .colon, mark .leftBracket, mark .leftBrace,
    word "id", mark .colon, numeral digits, mark .rightBrace, mark .rightBracket, mark .rightBrace]

theorem legible_recordOf (isNumber : IsNumber digits) :
    ∀ token ∈ recordOf digits, Legible token := by
  simp only [recordOf, List.forall_mem_cons]
  exact ⟨legible_word (by decide), legible_mark _, legible_word (by decide), legible_mark _,
    legible_mark _, legible_mark _, legible_word (by decide), legible_mark _,
    legible_numeral isNumber, legible_mark _, legible_mark _, legible_mark _,
    fun _ member => absurd member List.not_mem_nil⟩

variable (isNumber : IsNumber digits) (noPoint : '.' ∉ digits)
  (tooLong : Numeral.int? digits = none)
include isNumber noPoint tooLong

theorem overflows_value (tokens : List Token) :
    Overflows Grammar.value (numeral digits :: tokens) := by
  have takes : Takes (Parser.expect .number) (numeral digits) (numeral digits) :=
    ⟨legible_numeral isNumber, Parser.accept_run rfl _⟩
  have stopped : Overflows (Grammar.number (numeral digits).value) tokens := by
    intro stop
    refine ⟨tokens, [], ?_⟩
    rw [Grammar.number, numeral, Written.token, String.toList_ofList,
      if_neg (by simpa using noPoint), tooLong]
    rfl
  have looked : ∀ stop, Parser.current stop (numeral digits :: tokens) =
      .ok (numeral digits) (numeral digits :: tokens) [] := fun _ => rfl
  have overflows (inner : Parser Value) : Overflows (valueOf inner) (numeral digits :: tokens) :=
    .after looked (.take takes stopped)
  exact fun stop => overflows (valueWithin (tokens.length + 1)) stop

theorem overflows_object (tokens : List Token) :
    Overflows Grammar.object
      (mark .leftBrace :: word "id" :: mark .colon :: numeral digits :: tokens) := by
  have key : ∀ stop, objectKey stop (word "id" :: mark .colon :: numeral digits :: tokens) =
      .ok "id" (mark .colon :: numeral digits :: tokens) [] := fun _ => rfl
  have content : Overflows (entryContent Grammar.value)
      (mark .colon :: numeral digits :: tokens) :=
    .after (fun _ => rfl) (overflows_value isNumber noPoint tooLong tokens)
  exact .take (takes_symbol .leftBrace) (.first (.loop rfl (.after key (.first content _))) _)

theorem overflows_objectList (tokens : List Token) :
    Overflows Grammar.objectList (mark .leftBracket :: mark .leftBrace :: word "id" ::
      mark .colon :: numeral digits :: tokens) :=
  .take (takes_symbol .leftBracket)
    (.first (.loop rfl (.first (overflows_object isNumber noPoint tooLong tokens) _)) _)

theorem overflows_mockData : Overflows Grammar.mockData (recordOf digits) := by
  have opened : ∀ stop, openSection .mockData stop (recordOf digits) =
      .ok (word "mockData") ((recordOf digits).drop 2) [] := fun _ => rfl
  have key : ∀ stop, Parser.expectKey stop ((recordOf digits).drop 2) =
      .ok (word "items") ((recordOf digits).drop 4) [] := fun _ => rfl
  exact .after opened
    (.first (.loop rfl (.after key (.first (overflows_objectList isNumber noPoint tooLong _) _))) _)

theorem overflows_recordOf : Overflows documentBody (recordOf digits) := by
  have document : Overflows (statement {}) (recordOf digits) :=
    .after (fun _ => rfl) (.first (overflows_mockData isNumber noPoint tooLong) _)
  have look : ∀ stop, Parser.isAt (.keyword .app) stop (recordOf digits) =
      .ok false (recordOf digits) [] := fun _ => rfl
  exact .loop rfl (.after look (.first (.orResume document _) _))

theorem parse_recordOf :
    Document.parse (String.ofList (text (recordOf digits))) = .error .oversizedInteger := by
  obtain ⟨stop, parsed⟩ := parse_eq (String.ofList (text (recordOf digits)))
  obtain ⟨rest, reports, run⟩ := overflows_recordOf isNumber noPoint tooLong stop
  have stopped : Document.parseTokens (recordOf digits) stop = .error .oversizedInteger := by
    rw [recordOf] at run ⊢
    rw [Document.parseTokens, run]
  have same := parseTokens_same (tokensOf_text (legible_recordOf isNumber)) stop stop
  rw [stopped, ← parsed] at same
  cases result : Document.parse (String.ofList (text (recordOf digits))) with
  | ok result =>
    rw [result] at same
    contradiction
  | error error => rfl

end Record

/-- A record whose only number has one digit too many. -/
def oversizedRecord : String :=
  String.ofList (Written.text (recordOf (List.replicate (Numeral.maxDigits + 1) '1')))

theorem oversizedRecord_unreadable :
    Document.parse oversizedRecord = .error .oversizedInteger ∧
      ∀ strategy, compile oversizedRecord strategy = .error (.unreadable .oversizedInteger) := by
  have digit : ∀ c ∈ List.replicate (Numeral.maxDigits + 1) '1', c = '1' :=
    fun c member => List.eq_of_mem_replicate member
  have digits : IsDigits (List.replicate (Numeral.maxDigits + 1) '1') :=
    ⟨List.cons_ne_nil _ _, fun c member => by rw [digit c member]; decide⟩
  have isNumber : IsNumber (List.replicate (Numeral.maxDigits + 1) '1') :=
    ⟨[], _, [], by rw [List.nil_append, List.append_nil], .inl rfl, digits, .inl rfl⟩
  have noPoint : '.' ∉ List.replicate (Numeral.maxDigits + 1) '1' :=
    fun member => absurd (digit _ member) (by decide)
  have tooLong : Numeral.int? (List.replicate (Numeral.maxDigits + 1) '1') = none := by
    rw [List.replicate_succ, Numeral.int?, Numeral.splitSign]
    · exact if_pos (by rw [List.length_cons, List.length_replicate]; exact Nat.lt_succ_self _)
    · simp
  have parsed := parse_recordOf isNumber noPoint tooLong
  exact ⟨parsed, compile_of_unreadable parsed⟩

end Blueprint
