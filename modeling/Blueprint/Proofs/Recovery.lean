import Blueprint.Proofs.OpenGroups
import Blueprint.Proofs.Unclosed

/-!
Reading that goes astray inside of a statement. After a failure it may go on at the head of a
section that stands in braces somewhere in the statement, but braces and brackets keep it there: it
never runs past the end of the statement, and so it finds the next one. All that it can leave in the
document is a section whose head it met.
-/
set_option autoImplicit false

namespace Blueprint

open Grammar

/-! ## Astray inside of a statement -/

/-- A head, with an opening brace behind it, stands in a row behind its first token. -/
def HoldsHead (head : Head) (row : List Token) : Prop :=
  ∃ outer front first more, outer ≠ [] ∧ row = outer ++ (front ++ first :: more) ∧
    IsHead head front ∧ first.kind = .symbol .leftBrace

/-- The tokens at the end of a row, without the first one at least. -/
def Within (row tokens : List Token) : Prop :=
  ∃ outer, outer ≠ [] ∧ row = outer ++ tokens

theorem Within.suffix {row tokens left : List Token} (within : Within row tokens)
    (isLeft : left <:+ tokens) : Within row left := by
  obtain ⟨outer, some, rfl⟩ := within
  obtain ⟨passed, rfl⟩ := isLeft
  exact ⟨outer ++ passed, by simp [some], (List.append_assoc ..).symm⟩

/-- Documents that differ at most in sections whose heads stand in a row. -/
structure SameBut (row : List Token) (first second : Document) : Prop where
  header : first.header = second.header
  models : first.models = second.models
  screens : first.screens = second.screens
  navigation : ¬ HoldsHead .navigation row → first.navigation = second.navigation
  api : ¬ HoldsHead .api row → first.api = second.api
  mockData : ¬ HoldsHead .mockData row → first.mockData = second.mockData

theorem SameBut.refl (row : List Token) (document : Document) : SameBut row document document :=
  ⟨rfl, rfl, rfl, fun _ => rfl, fun _ => rfl, fun _ => rfl⟩

theorem SameBut.trans {row : List Token} {first second third : Document}
    (before : SameBut row first second) (after : SameBut row second third) :
    SameBut row first third where
  header := before.header.trans after.header
  models := before.models.trans after.models
  screens := before.screens.trans after.screens
  navigation none := (before.navigation none).trans (after.navigation none)
  api none := (before.api none).trans (after.api none)
  mockData none := (before.mockData none).trans (after.mockData none)

section Stray

variable {next : Head} {row : List Token} (grouped : Grouped Inside next row)
include grouped

/-- Inside of a statement the head of no statement with a name stands before a brace. -/
theorem Grouped.unnamed {head : Head} {front more : List Token} {first : Token}
    (within : Within row (front ++ first :: more)) (isHead : IsHead head front)
    (opens : first.kind = .symbol .leftBrace) : head.name? = none := by
  obtain ⟨outer, some, whole⟩ := within
  cases isHead with
  | plain _ unnamed => exact unnamed
  | colon _ _ unnamed => exact unnamed
  | @named keyword name isKeyword isName =>
    have whole' : row ++ [] = outer ++ keyword :: name :: first :: more := by
      rw [List.append_nil, whole]
      rfl
    have shorter : outer.length < row.length := by
      rw [whole]
      simp
    obtain ⟨none, _⟩ := grouped.head_of_brace whole' shorter (by rw [isKeyword]; rfl)
      (by rw [isKeyword]; cases head <;> simp [Head.keyword]) (isWordy_of_isName isName) opens
    exact absurd none some

theorem Grouped.last {tokens : List Token} (within : Within row tokens) (some : tokens ≠ []) :
    ∃ front last, tokens = front ++ [last] ∧ last.kind = .symbol .rightBrace := by
  obtain ⟨outer, _, whole⟩ := within
  obtain @⟨words, inside, first, last, _, _, _, closes⟩ := grouped
  rcases List.eq_nil_or_concat' tokens with rfl | ⟨front, other, rfl⟩
  · contradiction
  · have whole' : words ++ first :: inside ++ [last] = outer ++ front ++ [other] := by
      simpa using whole
    obtain ⟨_, same⟩ := List.append_inj' whole' rfl
    obtain ⟨rfl, _⟩ := List.cons.inj same
    exact ⟨front, last, rfl, closes⟩

/-- What stands behind an opening brace inside of a statement closes all that it opens. -/
theorem Grouped.brace_closes {front more : List Token} {first : Token}
    (within : Within row (front ++ first :: more)) (opens : first.kind = .symbol .leftBrace) :
    ∃ inside last, more = inside ++ [last] ∧ excess inside ≤ 0 ∧
      last.kind = .symbol .rightBrace := by
  obtain ⟨outer, _, whole⟩ := within
  obtain @⟨words, inside, brace, last, isHead, _, ⟨nested, _⟩, closes⟩ := grouped
  have low : excess inside ≤ 0 := le_of_eq nested.excess_eq
  rw [← List.append_assoc] at whole
  rcases List.append_eq_append_iff.mp whole with ⟨later, _, behind⟩ | ⟨later, rfl, behind⟩
  · cases later with
    | nil =>
      obtain ⟨_, rfl⟩ := List.cons.inj behind
      exact ⟨inside, last, rfl, low, closes⟩
    | cons mark later =>
      obtain ⟨rfl, tails⟩ := List.cons.inj behind
      rcases List.eq_nil_or_concat' more with rfl | ⟨others, other, rfl⟩
      · obtain ⟨_, same⟩ := List.append_inj' tails rfl
        obtain ⟨rfl, _⟩ := List.cons.inj same
        rw [closes] at opens
        contradiction
      · have tails' : inside ++ [last] = later ++ first :: others ++ [other] := by
          simpa using tails
        obtain ⟨rfl, same⟩ := List.append_inj' tails' rfl
        obtain ⟨rfl, _⟩ := List.cons.inj same
        rw [List.append_cons] at nested
        exact ⟨others, last, rfl, nested.excess_right, closes⟩
  · cases later with
    | nil =>
      obtain ⟨_, rfl⟩ := List.cons.inj behind
      exact ⟨inside, last, rfl, low, closes⟩
    | cons mark later =>
      obtain ⟨rfl, _⟩ := List.cons.inj behind
      have level := isHead.levels first (by simp)
      rw [opens] at level
      contradiction

end Stray

/-! ## Statements that are begun astray -/

/-- An outcome that leaves an end of some tokens, and all that follows them. -/
inductive Outcome.Stays (tokens back : List Token) : {α : Type} → Outcome α → Prop where
  | ok {α : Type} {value : α} {rest : List Token} {reports : List SyntaxDiagnostic}
    (left : List Token) (isLeft : left <:+ tokens) (whole : rest = left ++ back) :
    Stays tokens back (.ok value rest reports)
  | failed {α : Type} {diagnostic : SyntaxDiagnostic} {rest : List Token}
    {reports : List SyntaxDiagnostic} (left : List Token) (isLeft : left <:+ tokens)
    (whole : rest = left ++ back) :
    Stays tokens back (.failed (.syntaxError diagnostic) rest reports : Outcome α)

/-- A parser that takes no token, and may fail on the grammar. -/
def Idle {α : Type} (parser : Parser α) : Prop :=
  ∀ stop tokens, (∃ value, parser stop tokens = .ok value tokens []) ∨
    ∃ diagnostic, parser stop tokens = .failed (.syntaxError diagnostic) tokens []

theorem Idle.pure {α : Type} (value : α) : Idle (Pure.pure value) :=
  fun _ _ => .inl ⟨value, rfl⟩

theorem Idle.fail {α : Type} (problem : SyntaxProblem) (place : Position) :
    Idle (Parser.fail problem place : Parser α) :=
  fun _ _ => .inr ⟨_, rfl⟩

section Stray

variable {next : Head} {row others back : List Token} {word : Token}
  (grouped : Grouped Inside next row) (within : Within row (word :: others))
include grouped within

theorem Grouped.goesOn (notLast : word.kind ≠ .symbol .rightBrace) :
    ∃ token more, others = token :: more := by
  cases others with
  | cons token more => exact ⟨token, more, rfl⟩
  | nil =>
    obtain ⟨front, last, whole, closes⟩ := grouped.last within (List.cons_ne_nil _ _)
    obtain ⟨_, same⟩ := @List.append_inj' _ [] [word] front [last] whole rfl
    obtain ⟨rfl, _⟩ := List.cons.inj same
    exact absurd closes notLast

omit grouped within in
/-- Behind its keyword a section takes a colon, if there is one, and a brace. -/
theorem openSection_run {keyword : Keyword} (isKeyword : word.kind = .keyword keyword)
    (stop : Position) (rest : List Token) : openSection keyword stop (word :: rest) =
      (Parser.expectSymbol .leftBrace >>= fun _ => Pure.pure word) stop
        (if Parser.startsWith (.symbol .colon) rest then rest.drop 1 else rest) := by
  have begun : Parser.expect (.keyword keyword) stop (word :: rest) = .ok word rest [] :=
    Parser.accept_run (by simp [isKeyword]) _ stop rest
  unfold openSection
  rw [Parser.bind_run_clean begun, Parser.bind_run, Parser.option, Parser.takeIf_run]
  cases Parser.startsWith (.symbol .colon) rest <;> exact Outcome.after_nil _

/-- In front of the brace that a section asks for stands its head, and the row goes on with a token. -/
theorem head_of_section {head : Head} (unnamed : head.name? = none)
    (isKeyword : word.kind = .keyword head.keyword) (back : List Token) :
    ∃ front first more, word :: others = front ++ first :: more ∧ IsHead head front ∧
      first :: more <:+ others ∧
      (if Parser.startsWith (.symbol .colon) (others ++ back) then (others ++ back).drop 1
        else others ++ back) = first :: (more ++ back) := by
  obtain ⟨second, more, rfl⟩ := grouped.goesOn within (by simp [isKeyword])
  by_cases isColon : second.kind = .symbol .colon
  · have within' : Within row (second :: more) := within.suffix (List.suffix_cons _ _)
    obtain ⟨third, rest, rfl⟩ := grouped.goesOn within' (by simp [isColon])
    exact ⟨[word, second], third, rest, rfl, .colon isKeyword isColon unnamed,
      List.suffix_cons _ _, by simp [Parser.startsWith, isColon]⟩
  · exact ⟨[word], second, more, rfl, .plain isKeyword unnamed, List.suffix_rfl,
      by simp [Parser.startsWith, isColon]⟩

/-- The keyword of a section is its head, with a brace behind it, or the section fails at once. -/
theorem openSection_stray {head : Head} (unnamed : head.name? = none)
    (isKeyword : word.kind = .keyword head.keyword) (stop : Position) (back : List Token) :
    (∃ front first more, word :: others = front ++ first :: more ∧ IsHead head front ∧
      first.kind = .symbol .leftBrace ∧ more <:+ others ∧
      openSection head.keyword stop (word :: others ++ back) = .ok word (more ++ back) []) ∨
    ∃ diagnostic left, left <:+ others ∧ openSection head.keyword stop (word :: others ++ back) =
      .failed (.syntaxError diagnostic) (left ++ back) [] := by
  obtain ⟨front, first, more, whole, isHead, isMore, passed⟩ :=
    head_of_section grouped within unnamed isKeyword back
  rw [List.cons_append, openSection_run isKeyword, passed]
  rcases expectSymbol_outcome .leftBrace stop (first :: (more ++ back)) with
    ⟨brace, rest, same, opens, run⟩ | ⟨diagnostic, run⟩
  · obtain ⟨rfl, rfl⟩ := List.cons.inj same
    exact .inl ⟨front, first, more, whole, isHead, opens, (List.suffix_cons _ _).trans isMore,
      Parser.bind_run_clean run _⟩
  · exact .inr ⟨diagnostic, first :: more, isMore, Parser.bind_run_failed run _⟩

end Stray

/-- The body of a section that is begun astray ends before the statement does. -/
theorem section_body_stays {α β : Type} {inner : Parser α} {rest : α → Parser β}
    (inners : Keeps Nests inner) (idles : ∀ found, Idle (rest found)) {inside : List Token}
    {last : Token} (low : excess inside ≤ 0) (closes : last.kind = .symbol .rightBrace)
    (legible : ∀ token ∈ inside, ¬ Oversized token) (stop : Position) (back : List Token) :
    Outcome.Stays (inside ++ [last]) back
      ((inner >>= fun found => Parser.expectSymbol .rightBrace >>= fun _ => rest found) stop
        (inside ++ [last] ++ back)) := by
  have filled := inners stop (inside ++ [last] ++ back)
  cases content : inner stop (inside ++ [last] ++ back) with
  | failed failure left reports =>
    rw [Parser.bind_run_failed content]
    rw [content] at filled
    cases filled with
    | failed row whole begun overflow =>
      obtain ⟨left', rfl, rfl⟩ := begun.confined low closes (by simpa using whole)
      cases failure with
      | syntaxError diagnostic => exact .failed (left' ++ [last]) ⟨row, by simp⟩ (by simp)
      | oversizedInteger =>
        obtain ⟨token, member, oversized⟩ := overflow rfl
        exact absurd oversized (legible token (List.mem_append_left _ member))
  | ok found left reports =>
    rw [Parser.bind_run_ok content]
    rw [content] at filled
    cases filled with
    | ok row whole nested =>
      obtain ⟨left', rfl, rfl⟩ := nested.begun.confined low closes (by simpa using whole)
      rcases expectSymbol_outcome .rightBrace stop (left' ++ last :: back) with
        ⟨mark, others, same, _, run⟩ | ⟨diagnostic, run⟩
      · obtain ⟨left'', isLeft, rfl⟩ : ∃ left'', left'' <:+ left' ++ [last] ∧
            others = left'' ++ back := by
          cases left' with
          | nil =>
            obtain ⟨_, rfl⟩ := List.cons.inj same
            exact ⟨[], List.nil_suffix, rfl⟩
          | cons first left' =>
            obtain ⟨_, rfl⟩ := List.cons.inj same
            exact ⟨left' ++ [last], List.suffix_cons first _, by simp⟩
        have within : left'' <:+ row ++ left' ++ [last] :=
          isLeft.trans ⟨row, (List.append_assoc ..).symm⟩
        rw [Parser.bind_run_clean run]
        rcases idles found stop (left'' ++ back) with ⟨value, run'⟩ | ⟨diagnostic, run'⟩
        · rw [run']
          exact .ok left'' within rfl
        · rw [run']
          exact .failed left'' within rfl
      · rw [Parser.bind_run_failed run]
        exact .failed (left' ++ [last]) ⟨row, by simp⟩ (by simp)

/-- What a statement that is begun astray comes to: it fails, or it adds a section whose head stands
in the row. In both cases it ends before the row does. -/
inductive Strays (row : List Token) (word : Token) (others back : List Token)
    (document : Document) : Outcome Document → Prop where
  | ok {next : Document} {rest : List Token} {reports : List SyntaxDiagnostic}
    (left : List Token) (isLeft : left <:+ others) (whole : rest = left ++ back)
    (same : SameBut row document next) :
    Strays row word others back document (.ok next rest reports)
  | failed {diagnostic : SyntaxDiagnostic} {rest : List Token} {reports : List SyntaxDiagnostic}
    (left : List Token) (isLeft : left <:+ word :: others) (whole : rest = left ++ back) :
    Strays row word others back document (.failed (.syntaxError diagnostic) rest reports)

/-- Whether that is what a parser for statements comes to, where it is begun. -/
def GoesAstray (row : List Token) (word : Token) (others back : List Token) (document : Document)
    (parser : Parser Document) : Prop :=
  ∀ stop, Strays row word others back document (parser stop (word :: others ++ back))

theorem idle_navigation (keyword : Token) (body : OpenNavigation) : Idle (match body.kind with
    | some kind => Pure.pure ({ kind := kind, items := body.items } : Navigation)
    | none => Parser.fail .untypedNavigation keyword.place) := by
  split
  · exact .pure _
  · exact .fail _ _

theorem idle_api (keyword : Token) (body : OpenApi) : Idle (match body.baseUrl with
    | some baseUrl =>
      Pure.pure ({ baseUrl := baseUrl, mock := body.mock, endpoints := body.endpoints } : Api)
    | none => Parser.fail .apiWithoutBaseUrl keyword.place) := by
  split
  · exact .pure _
  · exact .fail _ _

section Stray

variable {next : Head} {row others : List Token} {word : Token}
  (grouped : Grouped Inside next row) (within : Within row (word :: others)) (back : List Token)
  (document : Document)
include grouped within

theorem section_strays {α β : Type} (head : Head) (unnamed : head.name? = none)
    (isKeyword : word.kind = .keyword head.keyword) {inner : Parser α}
    {rest : Token → α → Parser β} (inners : Keeps Nests inner)
    (idles : ∀ keyword found, Idle (rest keyword found)) {old : Option β}
    {duplicate : SyntaxProblem} {place : Position} {set : β → Document}
    (sets : HoldsHead head row → ∀ part, SameBut row document (set part))
    (legible : ∀ token ∈ row, ¬ Oversized token) :
    GoesAstray row word others back document ((openSection head.keyword >>= fun keyword =>
      inner >>= fun found => Parser.expectSymbol .rightBrace >>= fun _ => rest keyword found) >>=
        setOnce old duplicate place set document) := by
  intro stop
  rcases openSection_stray grouped within unnamed isKeyword stop back with
    ⟨front, first, more, whole, isHead, opens, isMore, run⟩ | ⟨diagnostic, left, isLeft, run⟩
  · have held : HoldsHead head row := by
      obtain ⟨outer, some, rfl⟩ := within
      exact ⟨outer, front, first, more, some, by rw [whole], isHead, opens⟩
    obtain ⟨inside, last, rfl, low, closes⟩ := grouped.brace_closes (whole ▸ within) opens
    have legible' : ∀ token ∈ inside, ¬ Oversized token := by
      obtain ⟨outer, _, rfl⟩ := within
      intro token member
      refine legible token (List.mem_append_right outer ?_)
      rw [whole]
      simp [member]
    have stays := section_body_stays inners (idles word) low closes legible' stop back
    rw [← Parser.bind_run_clean run (fun keyword => inner >>= fun found =>
      Parser.expectSymbol .rightBrace >>= fun _ => rest keyword found)] at stays
    cases body : (openSection head.keyword >>= fun keyword => inner >>= fun found =>
        Parser.expectSymbol .rightBrace >>= fun _ => rest keyword found) stop
          (word :: others ++ back) with
    | failed failure rest' reports =>
      rw [Parser.bind_run_failed body]
      rw [body] at stays
      cases stays with
      | failed left isLeft whole =>
        exact .failed left ((isLeft.trans isMore).trans (List.suffix_cons _ _)) whole
    | ok part rest' reports =>
      rw [Parser.bind_run_ok body]
      rw [body] at stays
      cases stays with
      | ok left isLeft whole =>
        cases old with
        | none => exact .ok left (isLeft.trans isMore) whole (sets held part)
        | some _ => exact .ok left (isLeft.trans isMore) whole (.refl row document)
  · rw [Parser.bind_run_failed (Parser.bind_run_failed run _)]
    exact .failed left (isLeft.trans (List.suffix_cons _ _)) rfl

/-- A statement with a name does not get past its head. -/
theorem named_strays {α : Type} (head : Head) (named : ∀ name, ∃ other : Head,
      other.keyword = head.keyword ∧ other.name? = some name)
    (isKeyword : word.kind = .keyword head.keyword) {inner : Token → Token → Token → Parser α}
    {rest : α → Parser Document} :
    GoesAstray row word others back document ((Parser.expect (.keyword head.keyword) >>=
      fun keyword => Parser.expectName >>= fun name =>
        Parser.expectSymbol .leftBrace >>= inner keyword name) >>= rest) := by
  intro stop
  obtain ⟨second, more, rfl⟩ := grouped.goesOn within (by simp [isKeyword])
  have begun : Parser.expect (.keyword head.keyword) stop (word :: (second :: more ++ back)) =
      .ok word (second :: more ++ back) [] := Parser.accept_run (by simp [isKeyword]) _ stop _
  rw [List.cons_append, bind_assoc, Parser.bind_run_clean begun]
  rcases expectName_outcome stop (second :: more ++ back) with
    ⟨name, rest', whole, isName, run⟩ | ⟨diagnostic, run⟩
  · rw [List.cons_append, List.cons.injEq] at whole
    obtain ⟨rfl, rfl⟩ := whole
    have within' : Within row (second :: more) := within.suffix (List.suffix_cons _ _)
    obtain ⟨third, more', rfl⟩ := grouped.goesOn within' (by
      intro closes
      rw [closes] at isName
      contradiction)
    rcases expectSymbol_outcome .leftBrace stop (third :: more' ++ back) with
      ⟨first, rest', whole, opens, _⟩ | ⟨diagnostic, run'⟩
    · obtain ⟨rfl, _⟩ := List.cons.inj whole
      obtain ⟨other, same, isNamed⟩ := named second.value
      have isHead : IsHead other [word, second] := .named (same ▸ isKeyword) isName isNamed
      rw [grouped.unnamed within isHead opens] at isNamed
      contradiction
    · rw [bind_assoc, Parser.bind_run_clean run, bind_assoc, Parser.bind_run_failed run']
      exact .failed (third :: more') ⟨[word, second], rfl⟩ rfl
  · rw [bind_assoc, Parser.bind_run_failed run]
    exact .failed (second :: more) (List.suffix_cons _ _) rfl

/-- Whatever statement is begun inside of another one. -/
theorem statement_strays (legible : ∀ token ∈ row, ¬ Oversized token) :
    GoesAstray row word others back document (statement document) := by
  intro stop
  unfold statement
  rw [Parser.bind_run_clean rfl]
  simp only [List.cons_append, List.head?_cons, Option.getD_some]
  refine (?_ : GoesAstray row word others back document _) stop
  split
  · next isKeyword =>
    exact named_strays grouped within back document (.app "") (fun name => ⟨.app name, rfl, rfl⟩)
      isKeyword
  · next isKeyword =>
    exact named_strays grouped within back document (.model "")
      (fun name => ⟨.model name, rfl, rfl⟩) isKeyword
  · next isKeyword =>
    exact named_strays grouped within back document (.screen "")
      (fun name => ⟨.screen name, rfl, rfl⟩) isKeyword
  · next isKeyword =>
    exact section_strays grouped within back document .navigation rfl isKeyword
      (inherited_nests.untilClosed .rightBrace inherited_nests.navigationEntry _) idle_navigation
      (fun held _ => ⟨rfl, rfl, rfl, fun none => absurd held none, fun _ => rfl, fun _ => rfl⟩)
      legible
  · next isKeyword =>
    exact section_strays grouped within back document .api rfl isKeyword
      (inherited_nests.untilClosed .rightBrace inherited_nests.apiEntry _) idle_api
      (fun held _ => ⟨rfl, rfl, rfl, fun _ => rfl, fun none => absurd held none, fun _ => rfl⟩)
      legible
  · next isKeyword =>
    exact section_strays grouped within back document .mockData rfl isKeyword
      (inherited_nests.untilClosed .rightBrace inherited_nests.mockEntry _) (fun _ _ => .pure _)
      (fun held _ => ⟨rfl, rfl, rfl, fun _ => rfl, fun _ => rfl, fun none => absurd held none⟩)
      legible
  · exact fun stop => .failed (word :: others) List.suffix_rfl rfl

end Stray

/-! ## Going on -/

/-- A statement that fails is reported, and reading goes on where recovery comes to. -/
theorem nextStatement_failed_run {document : Document} {stop : Position}
    {tokens rest left : List Token} {diagnostic : SyntaxDiagnostic}
    {reports : List SyntaxDiagnostic}
    (run : statement document stop tokens = .failed (.syntaxError diagnostic) rest reports)
    (resumed : resynchronize tokens stop rest = .ok () left []) :
    nextStatement document stop tokens = .ok document left (reports ++ [diagnostic]) := by
  rw [nextStatement, Parser.orResume, run]
  simp only
  rw [Parser.bind_run_clean resumed, Parser.pure_run, Outcome.after_ok, List.append_nil]

/-- Tokens at which reading goes on after a failure: a statement starts there, or there are none. -/
def Resumes (back : List Token) : Prop := back = [] ∨ startsStatement back = true

theorem Resumes.toStatement {back : List Token} (resumes : Resumes back) (tokens : List Token) :
    ∃ left, left <:+ tokens ∧ toStatement (tokens ++ back) = left ++ back := by
  induction tokens with
  | nil =>
    refine ⟨[], List.nil_suffix, ?_⟩
    rcases resumes with rfl | starts
    · rfl
    · cases back with
      | nil => rfl
      | cons token back => rw [List.nil_append, Grammar.toStatement, if_pos starts]
  | cons token tokens ih =>
    rw [List.cons_append, Grammar.toStatement]
    split
    · exact ⟨token :: tokens, List.suffix_rfl, rfl⟩
    · obtain ⟨left, isLeft, same⟩ := ih
      exact ⟨left, isLeft.trans (List.suffix_cons token tokens), same⟩

/-- Recovery takes a token at least, and nothing of what it can resume at. -/
theorem Resumes.resynchronize {back left others : List Token} {word : Token}
    (resumes : Resumes back) (isLeft : left <:+ word :: others) (stop : Position) :
    ∃ left', left' <:+ others ∧
      resynchronize (word :: others ++ back) stop (left ++ back) = .ok () (left' ++ back) [] := by
  rcases List.suffix_cons_iff.mp isLeft with rfl | within
  · obtain ⟨left', isLeft', same⟩ := resumes.toStatement others
    refine ⟨left', isLeft', ?_⟩
    rw [Grammar.resynchronize, Parser.skip, if_pos (by simp), List.cons_append, List.drop_succ_cons,
      List.drop_zero, same]
  · obtain ⟨left', isLeft', same⟩ := resumes.toStatement left
    have shorter := within.length_le
    refine ⟨left', isLeft'.trans within, ?_⟩
    rw [Grammar.resynchronize, Parser.skip, if_neg (by simp; omega), same]

section Astray

variable {next : Head} {row : List Token} (grouped : Grouped Inside next row)
  (legible : ∀ token ∈ row, ¬ Oversized token) {back : List Token} (resumes : Resumes back)
include grouped legible resumes

theorem documentEntry_strays {word : Token} {others : List Token}
    (within : Within row (word :: others)) (state : OpenDocument) (stop : Position) :
    ∃ after left reports, left <:+ others ∧
      documentEntry state stop (word :: others ++ back) = .ok after (left ++ back) reports ∧
      SameBut row state.document after.document := by
  have strays := statement_strays grouped within back state.document legible stop
  cases run : statement state.document stop (word :: others ++ back) with
  | ok document rest reports =>
    rw [run] at strays
    cases strays with
    | ok left isLeft whole same =>
      subst whole
      exact ⟨_, left, _, isLeft, documentEntry_of_next stop (Parser.orResume_run_ok run _), same⟩
  | failed failure rest reports =>
    rw [run] at strays
    cases strays with
    | @failed diagnostic _ _ left isLeft whole =>
      subst whole
      obtain ⟨left', isLeft', resumed⟩ := resumes.resynchronize isLeft stop
      have read := nextStatement_failed_run run resumed
      exact ⟨_, left', _, isLeft', documentEntry_of_next stop read, .refl row _⟩

/-- Reading that is astray inside of a statement comes to the end of the statement. -/
theorem statements_stray {tokens : List Token} (within : Within row tokens) (state : OpenDocument)
    (stop : Position) : ∃ after reports, SameBut row state.document after.document ∧
      Parser.loop moreStatements documentEntry state stop (tokens ++ back) =
        (Parser.loop moreStatements documentEntry after stop back).after reports := by
  -- Every entry takes its first token at least.
  induction length : tokens.length using Nat.strongRecOn generalizing tokens state with
  | ind size ih =>
    subst length
    cases tokens with
    | nil => exact ⟨state, [], .refl row _, by rw [List.nil_append, Outcome.after_nil]⟩
    | cons word others =>
      obtain ⟨between, left, reports, isLeft, run, same⟩ :=
        documentEntry_strays grouped legible resumes within state stop
      have bound := isLeft.length_le
      obtain ⟨after, reports', same', goesOn⟩ := ih left.length (by simp; omega)
        (within.suffix (isLeft.trans (List.suffix_cons word others))) between rfl
      refine ⟨after, reports ++ reports', same.trans same', ?_⟩
      have shorter : (left ++ back).length < (word :: others ++ back).length := by
        simp
        omega
      rw [Parser.loop_step rfl run shorter, goesOn, Outcome.after_after]

end Astray

/-! ## The statements behind -/

section Behind

variable {row stray : List Token} {document document' : Document} {part : Part}

theorem setOnce_taken {α : Type} {old : Option α} (taken : old ≠ none) (duplicate : SyntaxProblem)
    (place : Position) (set : α → Document) (document : Document) (part : α) (stop : Position)
    (tokens : List Token) : ∃ reports,
      setOnce old duplicate place set document part stop tokens = .ok document tokens reports := by
  cases old with
  | none => contradiction
  | some _ => exact ⟨_, rfl⟩

/-- A part that there is already is reported and left out. -/
theorem Contributes.statement_duplicate (contributes : Contributes part row)
    (taken : ¬ document.Lacks part) (stop : Position) (rest : List Token) :
    ∃ reports, statement document stop (row ++ rest) = .ok document rest reports := by
  have read := contributes.read stop rest
  obtain ⟨keyword, others, rfl, isKeyword⟩ := contributes.grouped.starts
  unfold statement
  rw [Parser.bind_run_clean rfl]
  simp only [List.cons_append, List.head?_cons, Option.getD_some, isKeyword]
  cases part with
  | model | screen => exact absurd trivial taken
  | header | navigation | api | mockData =>
    exact (setOnce_taken taken _ _ _ _ _ _ _).imp fun _ set =>
      (Parser.bind_run_clean read _).trans set

theorem SameBut.add (same : SameBut stray document document') :
    SameBut stray (document.add part) (document'.add part) := by
  obtain ⟨header, models, screens, navigation, api, mockData⟩ := same
  cases part <;> constructor <;> simp_all [Document.add]

/-- Only a section that was met astray can stand in the way of a part. -/
theorem SameBut.add_left (same : SameBut stray document document') (lacks : document.Lacks part)
    (taken : ¬ document'.Lacks part) : SameBut stray (document.add part) document' := by
  obtain ⟨header, models, screens, navigation, api, mockData⟩ := same
  cases part with
  | header => exact absurd (header.symm.trans lacks) taken
  | model | screen => exact absurd trivial taken
  | navigation =>
    exact ⟨header, models, screens, fun none => absurd ((navigation none).symm.trans lacks) taken,
      api, mockData⟩
  | api =>
    exact ⟨header, models, screens, navigation,
      fun none => absurd ((api none).symm.trans lacks) taken, mockData⟩
  | mockData =>
    exact ⟨header, models, screens, navigation, api,
      fun none => absurd ((mockData none).symm.trans lacks) taken⟩

theorem Contributes.entry_behind (contributes : Contributes part row) {state : OpenDocument}
    (same : SameBut stray document state.document) (lacks : document.Lacks part)
    (stop : Position) (rest : List Token) : ∃ after reports,
      documentEntry state stop (row ++ rest) = .ok after rest reports ∧
        SameBut stray (document.add part) after.document := by
  by_cases free : state.document.Lacks part
  · obtain ⟨after, added, run⟩ := contributes.entry free
    exact ⟨after, [], run stop rest, added ▸ same.add⟩
  · obtain ⟨reports, duplicate⟩ := contributes.statement_duplicate free stop rest
    exact ⟨_, reports, documentEntry_of_next stop (Parser.orResume_run_ok duplicate _),
      same.add_left lacks free⟩

/-- Statements behind are read with their parts, other than sections that were met astray. -/
theorem Composed.statements_behind {parts earlier : List Part} {tokens : List Token}
    (composed : Composed parts tokens) (coexist : Coexist (earlier ++ parts))
    {state : OpenDocument} (same : SameBut stray (.ofParts earlier) state.document)
    (stop : Position) : ∃ final reports,
      Parser.loop moreStatements documentEntry state stop tokens = .ok final [] reports ∧
        SameBut stray (.ofParts (earlier ++ parts)) final.document := by
  induction composed generalizing earlier state with
  | nil => exact ⟨state, [], Parser.loop_stop rfl, by rwa [List.append_nil]⟩
  | @cons part first parts others contributes _ ih =>
    have lacks := coexist.lacks
    obtain ⟨between, reports, run, same'⟩ := contributes.entry_behind same lacks stop others
    rw [← Document.ofParts_concat lacks] at same'
    obtain ⟨final, reports', goesOn, same''⟩ := ih (by rwa [List.append_assoc]) same'
    rw [List.append_assoc] at same''
    refine ⟨final, reports ++ reports', ?_, same''⟩
    rw [contributes.loop_step run, goesOn]
    rfl

end Behind

end Blueprint
