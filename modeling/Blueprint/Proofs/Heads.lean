import Blueprint.Proofs.Composition
import Blueprint.Proofs.Nesting

/-!
What a source consists of that is read without a diagnostic. `clean_splits` says that no token of it
was passed over: braces and brackets match, the tokens outside of all braces are the heads of
statements, and the document has the parts that the heads announce, no more and no less.
-/
set_option autoImplicit false

namespace Blueprint

open Grammar

/-! ## Rows of tokens that are taken without a report -/

section Clean

variable {α β : Type}

/-- An outcome without a report leaves what follows a row with a property. -/
def TakesRow (content : List Token → Prop) (α : Type) (tokens : List Token) (outcome : Outcome α) :
    Prop :=
  ∀ value rest, outcome = .ok value rest [] → ∃ row, tokens = row ++ rest ∧ content row

/-- An outcome without a report leaves what follows a nested row. -/
def TakesNested (α : Type) (tokens : List Token) (outcome : Outcome α) : Prop :=
  ∀ value rest, outcome = .ok value rest [] → ∃ row, tokens = row ++ rest ∧ Nested row

theorem composable_takesNested : Composable TakesNested where
  still value tokens reports value' rest success := by
    simp only [Outcome.ok.injEq] at success
    obtain ⟨_, rfl, _⟩ := success
    exact ⟨[], rfl, .nil⟩
  misfit _ _ _ _ success := by contradiction
  taken value row nested rest value' rest' success := by
    simp only [Outcome.ok.injEq, and_true] at success
    obtain ⟨_, rfl⟩ := success
    exact ⟨row, rfl, nested⟩
  onward first second value rest success := by
    obtain ⟨later, rfl, whole⟩ := Outcome.after_eq_ok success
    obtain ⟨rfl, rfl⟩ := List.append_eq_nil_iff.mp whole.symm
    obtain ⟨row, rfl, nested⟩ := first _ _ rfl
    obtain ⟨row', rfl, nested'⟩ := second _ _ rfl
    exact ⟨row ++ row', (List.append_assoc ..).symm, nested.append nested'⟩
  failed _ _ _ success := by contradiction

theorem expect_eq_ok {kind : TokenKind} (notEnd : kind ≠ .eof) {stop : Position}
    {tokens rest : List Token} {token : Token} {reports : List SyntaxDiagnostic}
    (success : Parser.expect kind stop tokens = .ok token rest reports) :
    tokens = token :: rest ∧ token.kind = kind := by
  obtain ⟨whole, isAllowed⟩ := Parser.accept_eq_ok (by simpa using notEnd.symm) success
  exact ⟨whole, by simpa using isAllowed⟩

/-- A group that is read without a report: its marks, and between them a row of which the parser of
the inside knows something. -/
theorem group_eq_clean {content : List Token → Prop} {opening closing : Symbol}
    {inner : Token → Parser α} {next : Token → α → Token → Parser β}
    (inners : ∀ token, Keeps (TakesRow content) (inner token))
    {stop : Position} {tokens rest : List Token} {value : β}
    (success : (Parser.expectSymbol opening >>= fun token => inner token >>= fun value =>
      Parser.expectSymbol closing >>= next token value) stop tokens = .ok value rest []) :
    ∃ first inside last between found, tokens = first :: (inside ++ last :: between) ∧
      first.kind = .symbol opening ∧ last.kind = .symbol closing ∧ content inside ∧
      next first found last stop between = .ok value rest [] := by
  obtain ⟨first, others, opened, afterMark⟩ := Parser.bind_eq_clean success
  obtain ⟨rfl, opens⟩ := expect_eq_ok (by simp) opened
  obtain ⟨found, ending, filled, afterContent⟩ := Parser.bind_eq_clean afterMark
  obtain ⟨inside, rfl, holds⟩ := inners first stop others found ending filled
  obtain ⟨last, between, closed, afterGroup⟩ := Parser.bind_eq_clean afterContent
  obtain ⟨rfl, closes⟩ := expect_eq_ok (by simp) closed
  exact ⟨first, inside, last, between, found, rfl, opens, closes, holds, afterGroup⟩

theorem inherited_takesNested : Inherited TakesNested where
  toComposable := composable_takesNested
  group pair inners nexts := by
    intro stop tokens value rest success
    obtain ⟨first, inside, last, between, content, rfl, opens, closes, nested, success⟩ :=
      group_eq_clean inners success
    obtain ⟨row, rfl, nested'⟩ := nexts first content last stop between value rest success
    exact ⟨first :: (inside ++ last :: row), by simp, .group pair opens closes nested nested'⟩
  number := by
    intro stop tokens value rest success
    obtain ⟨token, between, taken, converted⟩ := Parser.bind_eq_clean success
    obtain ⟨rfl, isNumber⟩ := expect_eq_ok (by simp) taken
    obtain ⟨rfl, _⟩ := Settles.number token.value stop between rest value converted
    exact ⟨[token], rfl, .single (by rw [isNumber]; rfl)⟩

theorem TakesNested.orRetry {first second : Parser α} (firsts : Keeps TakesNested first) :
    Keeps TakesNested (Parser.orRetry first second) :=
  fun stop tokens value rest success =>
    firsts stop tokens value rest (Parser.orRetry_eq_clean success)

end Clean

/-! ## Heads of statements -/

/-- What the tokens before the group of a statement say. -/
inductive Head where
  | app (name : String)
  | model (name : String)
  | screen (name : String)
  | navigation
  | api
  | mockData
  deriving DecidableEq, Repr

namespace Head

def keyword : Head → Keyword
  | .app _ => .app
  | .model _ => .model
  | .screen _ => .screen
  | .navigation => .navigation
  | .api => .api
  | .mockData => .mockData

def name? : Head → Option String
  | .app name | .model name | .screen name => some name
  | .navigation | .api | .mockData => none

def app? : Head → Option String
  | .app name => some name
  | _ => none

def model? : Head → Option String
  | .model name => some name
  | _ => none

def screen? : Head → Option String
  | .screen name => some name
  | _ => none

end Head

/-- How a head is written: a keyword and a name, or a keyword and a colon or none. -/
inductive IsHead (head : Head) : List Token → Prop where
  | named {keyword name : Token} (isKeyword : keyword.kind = .keyword head.keyword)
    (isName : name.kind.isName = true) (named : head.name? = some name.value) :
    IsHead head [keyword, name]
  | plain {keyword : Token} (isKeyword : keyword.kind = .keyword head.keyword)
    (unnamed : head.name? = none) : IsHead head [keyword]
  | colon {keyword colon : Token} (isKeyword : keyword.kind = .keyword head.keyword)
    (isColon : colon.kind = .symbol .colon) (unnamed : head.name? = none) :
    IsHead head [keyword, colon]

/-- A statement: its head, and a nested row in braces. -/
inductive IsStatement (head : Head) : List Token → Prop where
  | group {front inside : List Token} {first last : Token} (isHead : IsHead head front)
    (opens : first.kind = .symbol .leftBrace) (content : Nested inside)
    (closes : last.kind = .symbol .rightBrace) :
    IsStatement head (front ++ first :: (inside ++ [last]))

/-- A statement of which the row in braces has a property: its head and its group. -/
inductive Grouped (content : List Token → Prop) (head : Head) : List Token → Prop where
  | group {front inside : List Token} {first last : Token} (isHead : IsHead head front)
    (opens : first.kind = .symbol .leftBrace) (holds : content inside)
    (closes : last.kind = .symbol .rightBrace) :
    Grouped content head (front ++ first :: (inside ++ [last]))

/-- A row of tokens that splits, in order, into the parts that belong to heads. -/
inductive Splits (part : Head → List Token → Prop) : List Head → List Token → Prop where
  | nil : Splits part [] []
  | cons {head : Head} {row : List Token} {heads : List Head} {rest : List Token}
    (first : part head row) (tail : Splits part heads rest) :
    Splits part (head :: heads) (row ++ rest)

/-- The tokens outside of all braces, where `depth` braces are open; the braces are left out too. -/
def outside : Nat → List Token → List Token
  | _, [] => []
  | depth, token :: rest =>
    if token.kind == .symbol .leftBrace then outside (depth + 1) rest
    else if token.kind == .symbol .rightBrace then outside (depth - 1) rest
    else if depth == 0 then token :: outside depth rest
    else outside depth rest

theorem outside_opening {token : Token} (opens : token.kind = .symbol .leftBrace) (depth : Nat)
    (rest : List Token) : outside depth (token :: rest) = outside (depth + 1) rest := by
  rw [outside, if_pos (by rw [opens]; rfl)]

theorem outside_closing {token : Token} (closes : token.kind = .symbol .rightBrace) (depth : Nat)
    (rest : List Token) : outside depth (token :: rest) = outside (depth - 1) rest := by
  rw [outside, if_neg (by rw [closes]; decide), if_pos (by rw [closes]; rfl)]

theorem outside_inner {token : Token} (notOpening : token.kind ≠ .symbol .leftBrace)
    (notClosing : token.kind ≠ .symbol .rightBrace) (depth : Nat) (rest : List Token) :
    outside (depth + 1) (token :: rest) = outside (depth + 1) rest := by
  rw [outside, if_neg (by simpa using notOpening), if_neg (by simpa using notClosing),
    if_neg (by simp)]

theorem outside_outer {token : Token} (isLevel : token.kind.isLevel = true) (rest : List Token) :
    outside 0 (token :: rest) = token :: outside 0 rest := by
  rw [outside, if_neg, if_neg]
  · rfl
  all_goals
    intro isBrace
    rw [beq_iff_eq.mp isBrace] at isLevel
    contradiction

/-- Inside of braces nothing of a nested row is outside. -/
theorem outside_nested {row : List Token} (nested : Nested row) (depth : Nat) (rest : List Token) :
    outside (depth + 1) (row ++ rest) = outside (depth + 1) rest := by
  induction nested generalizing depth rest with
  | nil => rfl
  | @level token row isLevel _ ih =>
    rw [List.cons_append, outside_inner, ih]
    all_goals
      intro isBrace
      rw [isBrace] at isLevel
      contradiction
  | @group first last opening closing inside row pair opens closes _ _ ih ih' =>
    rw [List.cons_append, List.append_assoc, List.cons_append]
    cases pair with
    | braces =>
      rw [outside_opening opens, ih, outside_closing closes, Nat.add_sub_cancel, ih']
    | brackets =>
      rw [outside_inner (by simp [opens]) (by simp [opens]), ih,
        outside_inner (by simp [closes]) (by simp [closes]), ih']

theorem IsHead.levels {head : Head} {front : List Token} (isHead : IsHead head front) :
    ∀ token ∈ front, token.kind.isLevel = true := by
  cases isHead with
  | named isKeyword isName =>
    have isLevel := isLevel_of_isName isName
    simp [isKeyword, isLevel, TokenKind.isLevel.eq_def (.keyword _)]
  | plain isKeyword => simp [isKeyword, TokenKind.isLevel]
  | colon isKeyword isColon => simp [isKeyword, isColon, TokenKind.isLevel]

theorem IsStatement.nested {head : Head} {row : List Token} (isStatement : IsStatement head row) :
    Nested row := by
  obtain ⟨isHead, opens, content, closes⟩ := isStatement
  exact (Nested.ofLevel isHead.levels).append (.group .braces opens closes content .nil)

/-- Of a statement only the head is outside. -/
theorem IsStatement.outside_append {head : Head} {row : List Token}
    (isStatement : IsStatement head row) : ∃ front, IsHead head front ∧
      ∀ rest, outside 0 (row ++ rest) = front ++ outside 0 rest := by
  cases isStatement with
  | @group front inside first last isHead opens content closes =>
    refine ⟨front, isHead, fun rest => ?_⟩
    have levels := isHead.levels
    clear isHead
    induction front with
    | nil =>
      rw [List.nil_append, List.nil_append, List.cons_append, List.append_assoc,
        outside_opening opens, outside_nested content, List.singleton_append,
        outside_closing closes]
    | cons token front ih =>
      rw [List.cons_append, List.cons_append, outside_outer (levels token List.mem_cons_self),
        ih fun other later => levels other (List.mem_cons_of_mem token later), List.cons_append]

theorem Grouped.isStatement {head : Head} {row : List Token} (grouped : Grouped Nested head row) :
    IsStatement head row := by
  obtain ⟨isHead, opens, nested, closes⟩ := grouped
  exact .group isHead opens nested closes

namespace Splits

variable {heads : List Head} {tokens : List Token}

theorem mono {part other : Head → List Token → Prop} (splits : Splits part heads tokens)
    (parts : ∀ head row, part head row → other head row) : Splits other heads tokens := by
  induction splits with
  | nil => exact .nil
  | cons first _ ih => exact .cons (parts _ _ first) ih

theorem nested (splits : Splits IsStatement heads tokens) : Nested tokens := by
  induction splits with
  | nil => exact .nil
  | cons first _ ih => exact first.nested.append ih

theorem outside (splits : Splits IsStatement heads tokens) :
    Splits IsHead heads (outside 0 tokens) := by
  induction splits with
  | nil => exact .nil
  | cons first _ ih =>
    obtain ⟨front, isHead, same⟩ := first.outside_append
    rw [same]
    exact .cons isHead ih

end Splits

/-! ## Statements that are read without a report -/

/-- The routines for the insides of statements take rows with a property only. -/
structure Bodies (content : List Token → Prop) : Prop where
  header (body : OpenHeader) : Keeps (TakesRow content)
    (Parser.loop (fun _ tokens => !endsHeader tokens) headerEntry body)
  model : Keeps (TakesRow content) (Parser.itemsUntil .rightBrace property)
  screen : Keeps (TakesRow content) (Parser.untilClosed .rightBrace screenEntry {})
  navigation : Keeps (TakesRow content) (Parser.untilClosed .rightBrace navigationEntry {})
  api : Keeps (TakesRow content) (Parser.untilClosed .rightBrace apiEntry {})
  mockData : Keeps (TakesRow content) (Parser.untilClosed .rightBrace (fun sections =>
    Parser.expectKey >>= fun key => objectList >>= fun records => Parser.skipCommas >>= fun _ =>
      pure (Fields.insert key.value records sections)) [])

section Statements

variable {α β : Type} {stop : Position} {tokens rest : List Token} {content : List Token → Prop}

/-- A statement with a name. -/
theorem named_eq_clean {keyword : Keyword} {inner : Parser α} {next : Token → Token → α → Parser β}
    {value : β} (head : β → Head) (inners : Keeps (TakesRow content) inner)
    (nexts : ∀ word name found, Settles (next word name found))
    (heads : ∀ word name found, Parser.Yields
      (fun result => (head result).keyword = keyword ∧ (head result).name? = some name.value)
      (next word name found))
    (success : (Parser.expect (.keyword keyword) >>= fun word => Parser.expectName >>= fun name =>
      Parser.expectSymbol .leftBrace >>= fun _ => inner >>= fun found =>
        Parser.expectSymbol .rightBrace >>= fun _ => next word name found) stop tokens =
          .ok value rest []) :
    ∃ row, tokens = row ++ rest ∧ Grouped content (head value) row := by
  obtain ⟨word, others, begun, afterWord⟩ := Parser.bind_eq_clean success
  obtain ⟨rfl, isKeyword⟩ := expect_eq_ok (by simp) begun
  obtain ⟨name, others', called, afterName⟩ := Parser.bind_eq_clean afterWord
  obtain ⟨rfl, isName⟩ := Parser.accept_eq_ok rfl called
  obtain ⟨first, inside, last, between, found, rfl, opens, closes, holds, afterGroup⟩ :=
    group_eq_clean (fun _ => inners) afterName
  obtain ⟨rfl, _⟩ := nexts word name found stop between rest value afterGroup
  obtain ⟨rfl, named⟩ := heads word name found stop rest rest value afterGroup
  exact ⟨[word, name] ++ first :: (inside ++ [last]), by simp,
    .group (.named isKeyword isName named) opens holds closes⟩

/-- A section. -/
theorem section_eq_clean (head : Head) (unnamed : head.name? = none) {inner : Parser α}
    {next : Token → α → Parser β} {value : β} (inners : Keeps (TakesRow content) inner)
    (nexts : ∀ keyword found, Settles (next keyword found))
    (success : (openSection head.keyword >>= fun keyword => inner >>= fun found =>
      Parser.expectSymbol .rightBrace >>= fun _ => next keyword found) stop tokens =
        .ok value rest []) :
    ∃ row, tokens = row ++ rest ∧ Grouped content head row := by
  unfold openSection at success
  simp only [bind_assoc, pure_bind] at success
  obtain ⟨word, others, begun, afterWord⟩ := Parser.bind_eq_clean success
  obtain ⟨rfl, isKeyword⟩ := expect_eq_ok (by simp) begun
  obtain ⟨marked, others', looked, afterColon⟩ := Parser.bind_eq_clean afterWord
  obtain ⟨first, inside, last, between, found, rfl, opens, closes, holds, afterGroup⟩ :=
    group_eq_clean (fun _ => inners) afterColon
  obtain ⟨rfl, _⟩ := nexts word found stop between rest value afterGroup
  rw [Parser.option, Parser.takeIf_run] at looked
  split at looked
  · next atColon =>
    cases others with
    | nil => contradiction
    | cons colon others =>
      simp only [List.drop_succ_cons, List.drop_zero, Outcome.ok.injEq, and_true] at looked
      obtain ⟨_, rfl⟩ := looked
      exact ⟨[word, colon] ++ first :: (inside ++ [last]), by simp,
        .group (.colon isKeyword (beq_iff_eq.mp atColon) unnamed) opens holds closes⟩
  · simp only [Outcome.ok.injEq, and_true] at looked
    obtain ⟨_, rfl⟩ := looked
    exact ⟨[word] ++ first :: (inside ++ [last]), by simp,
      .group (.plain isKeyword unnamed) opens holds closes⟩

section Bodies

variable (bodies : Bodies content)
include bodies

theorem model_eq_clean {model : Model} (success : Grammar.model stop tokens = .ok model rest []) :
    ∃ row, tokens = row ++ rest ∧ Grouped content (.model model.name) row := by
  unfold Grammar.model at success
  refine named_eq_clean (fun model => .model model.name) bodies.model
    (fun word name found => ?_) (fun word name found => ?_) success
  · exact .pure _
  · exact .pure ⟨rfl, rfl⟩

theorem screen_eq_clean {screen : Screen}
    (success : Grammar.screen stop tokens = .ok screen rest []) :
    ∃ row, tokens = row ++ rest ∧ Grouped content (.screen screen.name) row := by
  unfold Grammar.screen at success
  refine named_eq_clean (fun screen => .screen screen.name) bodies.screen
    (fun word name found => ?_) (fun word name found => ?_) success
  · split
    · exact (Settles.report _ _).bind fun _ => .pure _
    · exact .pure _
  · split
    · exact .bind fun _ => .pure ⟨rfl, rfl⟩
    · exact .pure ⟨rfl, rfl⟩

theorem navigation_eq_clean {navigation : Navigation}
    (success : Grammar.navigation stop tokens = .ok navigation rest []) :
    ∃ row, tokens = row ++ rest ∧ Grouped content .navigation row := by
  refine section_eq_clean .navigation rfl bodies.navigation (fun keyword found => ?_) success
  split
  · exact .pure _
  · exact .fail _ _

theorem api_eq_clean {api : Api} (success : Grammar.api stop tokens = .ok api rest []) :
    ∃ row, tokens = row ++ rest ∧ Grouped content .api row := by
  refine section_eq_clean .api rfl bodies.api (fun keyword found => ?_) success
  split
  · exact .pure _
  · exact .fail _ _

theorem mockData_eq_clean {mockData : MockData}
    (success : Grammar.mockData stop tokens = .ok mockData rest []) :
    ∃ row, tokens = row ++ rest ∧ Grouped content .mockData row :=
  section_eq_clean .mockData rfl bodies.mockData (fun _ _ => .pure _) success

end Bodies

theorem headerEntry_takesNested (body : OpenHeader) :
    Keeps TakesNested (Grammar.headerEntry body) := by
  refine composable_takesNested.bind (.orRetry (composable_takesNested.bind
    composable_takesNested.expectKey fun _ => composable_takesNested.pure _)) fun found => ?_
  match found with
  | none =>
    exact composable_takesNested.bind composable_takesNested.skipCommas fun _ =>
      composable_takesNested.pure _
  | some key =>
    exact composable_takesNested.bind
      (.orRetry (inherited_takesNested.headerAttribute key body.header)) fun _ =>
        composable_takesNested.bind composable_takesNested.skipCommas fun _ =>
          composable_takesNested.pure _

/-- No attribute changes the name that a header was opened with. -/
theorem headerAttribute_name (key : Token) (header : Header) :
    Parser.Yields (fun next => next.name = header.name) (headerAttribute key header) := by
  unfold headerAttribute
  split
  · exact .bind fun _ => .pure rfl
  · exact .bind fun _ => .pure rfl
  · exact .bind fun _ => .pure rfl
  · exact .bind fun _ => .pure rfl
  · exact .bind fun _ => .pure rfl
  · intro stop tokens rest value success
    contradiction

/-- Whether a header is still the one that was opened with a name. -/
def Opened (name : String) (body : OpenHeader) : Prop := body.header.name = name

theorem headerEntry_opened {body next : OpenHeader} {name : String}
    (success : headerEntry body stop tokens = .ok next rest []) (named : Opened name body) :
    Opened name next := by
  obtain ⟨found, between, _, afterKey⟩ := Parser.bind_eq_clean success
  cases found with
  | none =>
    obtain ⟨_, _, _, kept⟩ := Parser.bind_eq_clean afterKey
    simp only [Parser.pure_run, Outcome.ok.injEq, and_true] at kept
    rw [← kept.1]
    exact named
  | some key =>
    obtain ⟨header, between', read, afterContent⟩ := Parser.bind_eq_clean afterKey
    obtain ⟨_, _, _, set⟩ := Parser.bind_eq_clean afterContent
    simp only [Parser.pure_run, Outcome.ok.injEq, and_true] at set
    have same := headerAttribute_name key body.header stop between between' header
      (Parser.orRetry_eq_clean read)
    rw [← set.1]
    exact same.trans named

theorem closeHeader_eq_clean {app : String}
    (success : closeHeader app stop tokens = .ok () rest []) :
    ∃ last, tokens = last :: rest ∧ last.kind = .symbol .rightBrace := by
  obtain ⟨closed, between, looked, reported⟩ := Parser.bind_eq_clean success
  rw [Parser.option, Parser.takeIf_run] at looked
  split at looked
  · next atBrace =>
    simp only [Outcome.ok.injEq, and_true] at looked
    obtain ⟨rfl, rfl⟩ := looked
    cases tokens with
    | nil => contradiction
    | cons last tokens =>
      simp only [Bool.not_true, Bool.false_eq_true, if_false, Parser.pure_run, List.drop_succ_cons,
        List.drop_zero, Outcome.ok.injEq, and_true, true_and] at reported
      exact ⟨last, by rw [reported], beq_iff_eq.mp atBrace⟩
  · simp only [Outcome.ok.injEq, and_true] at looked
    obtain ⟨rfl, rfl⟩ := looked
    simp only [Bool.not_false, if_true] at reported
    obtain ⟨token, _, _, report⟩ := Parser.bind_eq_clean reported
    simp [Parser.report] at report

theorem header_eq_clean (bodies : Bodies content) {header : Header}
    (success : Grammar.header stop tokens = .ok header rest []) :
    ∃ row, tokens = row ++ rest ∧ Grouped content (.app header.name) row := by
  obtain ⟨word, others, begun, afterWord⟩ := Parser.bind_eq_clean success
  obtain ⟨rfl, isKeyword⟩ := expect_eq_ok (by simp) begun
  obtain ⟨name, others', called, afterName⟩ := Parser.bind_eq_clean afterWord
  obtain ⟨rfl, isName⟩ := Parser.accept_eq_ok rfl called
  obtain ⟨first, others'', opened, afterMark⟩ := Parser.bind_eq_clean afterName
  obtain ⟨rfl, opens⟩ := expect_eq_ok (by simp) opened
  obtain ⟨body, ending, filled, afterBody⟩ := Parser.bind_eq_clean afterMark
  obtain ⟨inside, rfl, holds⟩ := bodies.header _ stop others'' body ending filled
  have named : Opened name.value body := Parser.loop_preserves headerEntry_opened filled rfl
  obtain ⟨_, between, closed, afterGroup⟩ := Parser.bind_eq_clean afterBody
  obtain ⟨last, rfl, closes⟩ := closeHeader_eq_clean closed
  obtain ⟨_, between', checked, delivered⟩ := Parser.bind_eq_clean afterGroup
  obtain ⟨rfl, _⟩ := Settles.reportMissing _ _ _ stop between between' _ checked
  simp only [Parser.pure_run, Outcome.ok.injEq, and_true] at delivered
  obtain ⟨rfl, rfl⟩ := delivered
  exact ⟨[word, name] ++ first :: (inside ++ [last]), by simp,
    .group (.named isKeyword isName (congrArg some named)) opens holds closes⟩

end Statements

theorem bodies_nested : Bodies Nested where
  header := composable_takesNested.loop headerEntry_takesNested
  model := inherited_takesNested.itemsUntil .rightBrace inherited_takesNested.property
  screen := inherited_takesNested.untilClosed .rightBrace inherited_takesNested.screenEntry _
  navigation := inherited_takesNested.untilClosed .rightBrace inherited_takesNested.navigationEntry _
  api := inherited_takesNested.untilClosed .rightBrace inherited_takesNested.apiEntry _
  mockData := inherited_takesNested.untilClosed .rightBrace inherited_takesNested.mockEntry _

/-! ## Documents -/

/-- The heads of statements say what a document is made of. -/
structure Described (heads : List Head) (document : Document) : Prop where
  apps : heads.filterMap Head.app? = (document.header.map Header.name).toList
  models : heads.filterMap Head.model? = document.models.map Model.name
  screens : heads.filterMap Head.screen? = document.screens.map Screen.name
  navigation : heads.count .navigation = if document.navigation.isSome then 1 else 0
  api : heads.count .api = if document.api.isSome then 1 else 0
  mockData : heads.count .mockData = if document.mockData.isSome then 1 else 0

/-- Setting a part without a report: there was none before. -/
theorem setOnce_eq_clean {α : Type} {old : Option α} {duplicate : SyntaxProblem} {place : Position}
    {set : α → Document} {document next : Document} {part : α} {stop : Position}
    {tokens rest : List Token}
    (success : setOnce old duplicate place set document part stop tokens = .ok next rest []) :
    old = none ∧ next = set part ∧ rest = tokens := by
  cases old with
  | none =>
    simp only [setOnce, Parser.pure_run, Outcome.ok.injEq, and_true] at success
    exact ⟨rfl, success.1.symm, success.2.symm⟩
  | some _ =>
    obtain ⟨_, _, reported, _⟩ := Parser.bind_eq_clean success
    simp [Parser.report] at reported

/-- What reading a statement does to a document. -/
inductive Adds (document : Document) : Head → Document → Prop where
  | header (header : Header) (first : document.header = none) :
    Adds document (.app header.name) { document with header := some header }
  | model (model : Model) :
    Adds document (.model model.name) { document with models := document.models ++ [model] }
  | screen (screen : Screen) :
    Adds document (.screen screen.name) { document with screens := document.screens ++ [screen] }
  | navigation (navigation : Navigation) (first : document.navigation = none) :
    Adds document .navigation { document with navigation := some navigation }
  | api (api : Api) (first : document.api = none) :
    Adds document .api { document with api := some api }
  | mockData (mockData : MockData) (first : document.mockData = none) :
    Adds document .mockData { document with mockData := some mockData }

theorem Described.empty : Described [] {} := by
  constructor <;> rfl

theorem Described.append {heads : List Head} {head : Head} {document next : Document}
    (described : Described heads document) (adds : Adds document head next) :
    Described (heads ++ [head]) next := by
  obtain ⟨apps, models, screens, navigation, api, mockData⟩ := described
  cases adds <;> constructor <;> simp_all [Head.app?, Head.model?, Head.screen?]

section Reading

variable {stop : Position} {tokens rest : List Token}

/-- Whether all that a parser delivers without a report is a document with one more statement. -/
def AddsStatement (content : List Token → Prop) (document : Document) (parser : Parser Document) :
    Prop :=
  ∀ (stop : Position) (tokens rest : List Token) (next : Document),
    parser stop tokens = .ok next rest [] →
      ∃ head row, tokens = row ++ rest ∧ Grouped content head row ∧ Adds document head next

/-- A part that a document may have several of. -/
theorem AddsStatement.several {α : Type} {content : List Token → Prop} {document : Document}
    {parser : Parser α} {head : α → Head} {add : α → Document}
    (parts : ∀ {stop tokens rest part}, parser stop tokens = .ok part rest [] →
      ∃ row, tokens = row ++ rest ∧ Grouped content (head part) row)
    (adds : ∀ part, Adds document (head part) (add part)) :
    AddsStatement content document (parser >>= fun part => pure (add part)) := by
  intro stop tokens rest next success
  obtain ⟨part, between, read, added⟩ := Parser.bind_eq_clean success
  simp only [Parser.pure_run, Outcome.ok.injEq, and_true] at added
  obtain ⟨rfl, rfl⟩ := added
  obtain ⟨row, whole, isStatement⟩ := parts read
  exact ⟨_, row, whole, isStatement, adds part⟩

/-- A part that a document has at most one of. -/
theorem AddsStatement.once {α : Type} {content : List Token → Prop} {document : Document}
    {parser : Parser α} {head : α → Head} {old : Option α} {duplicate : SyntaxProblem}
    {place : Position} {set : α → Document}
    (parts : ∀ {stop tokens rest part}, parser stop tokens = .ok part rest [] →
      ∃ row, tokens = row ++ rest ∧ Grouped content (head part) row)
    (adds : ∀ part, old = none → Adds document (head part) (set part)) :
    AddsStatement content document (parser >>= setOnce old duplicate place set document) := by
  intro stop tokens rest next success
  obtain ⟨part, between, read, added⟩ := Parser.bind_eq_clean success
  obtain ⟨first, rfl, rfl⟩ := setOnce_eq_clean added
  obtain ⟨row, whole, isStatement⟩ := parts read
  exact ⟨_, row, whole, isStatement, adds part first⟩

/-- An entry of a document that is read without a report is a statement that is read so. -/
theorem statement_of_documentEntry {state next : OpenDocument}
    (success : documentEntry state stop tokens = .ok next rest []) :
    statement state.document stop tokens = .ok next.document rest [] :=
  Parser.orResume_eq_clean (documentEntry_eq_ok success).1

theorem addsStatement {content : List Token → Prop} (bodies : Bodies content)
    (document : Document) : AddsStatement content document (statement document) := by
  intro stop tokens rest next success
  obtain ⟨token, between, looked, afterLook⟩ := Parser.bind_eq_clean success
  obtain rfl : tokens = between := by
    simp only [Parser.current, Outcome.ok.injEq] at looked
    exact looked.2.1
  refine (?_ : AddsStatement content document _) stop tokens rest next afterLook
  split
  · exact .once (header_eq_clean bodies) .header
  · exact .several (model_eq_clean bodies) .model
  · exact .several (screen_eq_clean bodies) .screen
  · exact .once (navigation_eq_clean bodies) .navigation
  · exact .once (api_eq_clean bodies) .api
  · exact .once (mockData_eq_clean bodies) .mockData
  · intro stop tokens rest value success
    contradiction

/-- Statements that are read without a report take all tokens, and their heads describe what was
added to the document. -/
theorem statements_grouped {content : List Token → Prop} (bodies : Bodies content)
    {heads : List Head} {state final : OpenDocument} (described : Described heads state.document)
    (success : Parser.loop moreStatements documentEntry state stop tokens = .ok final rest []) :
    ∃ later, Splits (Grouped content) later tokens ∧ Described (heads ++ later) final.document := by
  refine statements_induct (motive := fun state tokens => ∀ heads, Described heads state.document →
    ∃ later, Splits (Grouped content) later tokens ∧ Described (heads ++ later) final.document)
    (fun heads described => ⟨[], .nil, by rwa [List.append_nil]⟩) ?_ success heads described
  intro state next tokens rest run goesOn heads described
  obtain ⟨head, row, rfl, grouped, adds⟩ := addsStatement bodies state.document stop tokens rest
    next.document (statement_of_documentEntry run)
  obtain ⟨later, splits, described'⟩ := goesOn _ (described.append adds)
  rw [List.append_assoc] at described'
  exact ⟨head :: later, .cons grouped splits, described'⟩

theorem statements_eq_clean {heads : List Head} {state final : OpenDocument}
    (described : Described heads state.document)
    (success : Parser.loop moreStatements documentEntry state stop tokens = .ok final rest []) :
    ∃ later, Splits IsStatement later tokens ∧ Described (heads ++ later) final.document := by
  obtain ⟨later, splits, described'⟩ := statements_grouped bodies_nested described success
  exact ⟨later, splits.mono fun _ _ => Grouped.isStatement, described'⟩

end Reading

/-- What is known and no parenthesis. -/
theorem Nested.known {tokens : List Token} (nested : Nested tokens) :
    ∀ token ∈ tokens, token.kind ≠ .unknown ∧ token.kind ≠ .symbol .leftParen ∧
      token.kind ≠ .symbol .rightParen := by
  induction nested with
  | nil => exact fun _ member => absurd member List.not_mem_nil
  | level isLevel _ ih =>
    refine List.forall_mem_cons.mpr ⟨?_, ih⟩
    refine ⟨?_, ?_, ?_⟩ <;>
    · intro same
      rw [same] at isLevel
      contradiction
  | group pair opens closes _ _ ih ih' =>
    refine List.forall_mem_cons.mpr ⟨?_, List.forall_mem_append.mpr ⟨ih,
      List.forall_mem_cons.mpr ⟨?_, ih'⟩⟩⟩
    · rw [opens]
      cases pair <;> simp
    · rw [closes]
      cases pair <;> simp

/-- What is read from a source are its tokens and its end. -/
theorem tokenize_eq (source : String) :
    ∃ stop, tokenize source = tokensOf source ++ [⟨.eof, "", stop⟩] := by
  obtain ⟨tiles, last, whole, tiled⟩ := exists_tiled source.toList
  rw [tokensOf_tiled whole tiled, tokenize, Cursor.ofSource, whole, tokens_tiled tiled]
  exact ⟨_, tokensAt_placed .start tiles last⟩

/-- A source that is read without a diagnostic holds, up to its end, known tokens and no parenthesis,
with braces and brackets properly nested; and the tokens outside of all braces are, in order, the
heads of statements that the document is made of: one for the header, one for every model and every
screen, and one for each section that the document has. -/
theorem clean_splits {source : String} {result : ParseResult}
    (parsed : Document.parse source = .ok result) (clean : result.isClean = true) :
    ∃ tokens stop document header heads,
      tokenize source = tokens ++ [⟨.eof, "", stop⟩] ∧
      result.document = some document ∧ document.header = some header ∧
      (∀ token ∈ tokens, token.kind ≠ .unknown ∧ token.kind ≠ .symbol .leftParen ∧
        token.kind ≠ .symbol .rightParen) ∧
      Nested tokens ∧ Splits IsHead heads (outside 0 tokens) ∧
      heads.filterMap Head.app? = [header.name] ∧ Described heads document := by
  obtain ⟨stop, run⟩ := parse_eq source
  rw [run] at parsed
  obtain ⟨state, rest, statements, isDocument, hasHeader⟩ := statements_of_clean parsed clean
  obtain ⟨heads, splits, described⟩ := statements_eq_clean .empty statements
  rw [List.nil_append] at described
  obtain ⟨header, isHeader⟩ := Option.isSome_iff_exists.mp hasHeader
  obtain ⟨stop', ended⟩ := tokenize_eq source
  refine ⟨tokensOf source, stop', state.document, header, heads, ended, isDocument, isHeader,
    splits.nested.known, splits.nested, splits.outside, ?_, described⟩
  rw [described.apps, isHeader]
  rfl

/-- A header, a model, a screen and two sections, one of them with a colon. -/
def outlined : String :=
  "app A \x7bname: 'a' id: 'b' version: '1'\x7d model M \x7bx: T[]\x7d screen S \x7btitle: 's'\x7d " ++
    "api: \x7bbaseUrl: 'u'\x7d mockData \x7b\x7d"

set_option maxRecDepth 2000 in
theorem clean_splits_outlined : ∃ result tokens stop document header heads,
    Document.parse outlined = .ok result ∧ result.isClean = true ∧
      tokenize outlined = tokens ++ [⟨.eof, "", stop⟩] ∧
      result.document = some document ∧ document.header = some header ∧
      Splits IsHead heads (outside 0 tokens) ∧ heads.filterMap Head.app? = [header.name] ∧
      Described heads document := by
  have parsed : Document.parse outlined = .ok ⟨some {
      header := some { name := "A", displayName := "a", appId := "b", version := "1" }
      models := [⟨"M", [{ name := "x", type := ⟨"T", true⟩ }]⟩]
      screens := [{ name := "S", title := "s" }]
      api := some { baseUrl := "u" }
      mockData := some {} }, []⟩ := by cbv
  obtain ⟨tokens, stop, document, header, heads, whole, isDocument, isHeader, _, _, splits, app,
    described⟩ := clean_splits parsed rfl
  exact ⟨_, tokens, stop, document, header, heads, parsed, rfl, whole, isDocument, isHeader, splits,
    app, described⟩

end Blueprint
