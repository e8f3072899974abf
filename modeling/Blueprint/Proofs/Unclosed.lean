import Blueprint.Proofs.Parts

/-!
A model or a screen whose closing brace is missing, with another statement behind it. Up to there it
is read as if the brace were about to come; then the keyword of the next statement is taken for the
name of one more entry, and the routine fails within the head of that statement.
-/
set_option autoImplicit false

namespace Blueprint

open Grammar

/-- Whether a token is the keyword that a head begins with. -/
def BeginsHead (head : Head) (token : Token) : Prop :=
  token.kind = .keyword head.keyword ∧ token.value = head.keyword.spelling

/-- Token lists that are the same up to where one goes on with a right brace and the other one with
the keyword of a statement. -/
inductive SameToStop : List Token → List Token → Prop where
  | stop {brace keyword : Token} {rest rest' : List Token} {head : Head}
    (closes : brace.kind = .symbol .rightBrace) (begins : BeginsHead head keyword) :
    SameToStop (brace :: rest) (keyword :: rest')
  | token {token : Token} {rest rest' : List Token} (tail : SameToStop rest rest') :
    SameToStop (token :: rest) (token :: rest')

theorem SameToStop.append {rest rest' : List Token} (same : SameToStop rest rest')
    (taken : List Token) : SameToStop (taken ++ rest) (taken ++ rest') := by
  induction taken with
  | nil => exact same
  | cons token taken ih => exact .token ih

/-- Where the parser succeeds without a report, it does the same if the keyword of a statement
stands in place of a right brace that it has not taken. -/
def Steady {α : Type} (parser : Parser α) : Prop :=
  ∀ (stop : Position) (tokens rest : List Token) (value : α),
    parser stop tokens = .ok value rest [] →
      ∃ taken, tokens = taken ++ rest ∧ ∀ (stop' : Position) (rest' : List Token),
        SameToStop rest rest' → parser stop' (taken ++ rest') = .ok value rest' []

/-! ## What does not see the difference -/

namespace SameToStop

variable {tokens tokens' : List Token}

theorem startsWith (mark : Symbol) (notBrace : mark ≠ .rightBrace)
    (same : SameToStop tokens tokens') :
    Parser.startsWith (.symbol mark) tokens = Parser.startsWith (.symbol mark) tokens' := by
  cases same with
  | stop closes begins => simp [Parser.startsWith, closes, begins.1, notBrace.symm]
  | token => rfl

theorem stillOpen (mark : Symbol) (notBrace : mark ≠ .rightBrace)
    (same : SameToStop tokens tokens') :
    Parser.stillOpen mark tokens = Parser.stillOpen mark tokens' := by
  have firsts := same.startsWith mark notBrace
  cases same <;> exact congrArg Bool.not firsts

theorem startsWithBrackets (same : SameToStop tokens tokens') :
    Grammar.startsWithBrackets tokens = Grammar.startsWithBrackets tokens' := by
  cases same with
  | @stop brace keyword rest rest' _ closes begins =>
    cases rest <;> cases rest' <;>
      simp only [Grammar.startsWithBrackets, closes, begins.1] <;> rfl
  | token tail =>
    cases tail with
    | stop closes begins =>
      simp only [Grammar.startsWithBrackets, closes, begins.1]
      rfl
    | token => rfl

theorem startsWithFlag {word : String} (free : ∀ head : Head, head.keyword.spelling ≠ word)
    (same : SameToStop tokens tokens') :
    Parser.startsWithFlag word tokens = Parser.startsWithFlag word tokens' := by
  cases same with
  | @stop _ _ _ _ head closes begins =>
    have other := free head
    simp [Parser.startsWithFlag, closes, begins.2, TokenKind.isName, other]
  | token tail => simp only [Parser.startsWithFlag, tail.startsWith .colon (by decide)]

theorem featureAt? (same : SameToStop tokens tokens') :
    Grammar.featureAt? tokens = Grammar.featureAt? tokens' := by
  cases same with
  | @stop _ _ _ _ head closes begins =>
    cases head <;>
      simp [Grammar.featureAt?, closes, begins.2, TokenKind.isName, Head.keyword, Keyword.spelling]
  | token tail => simp only [Grammar.featureAt?, tail.startsWith .colon (by decide)]

end SameToStop

namespace Steady

variable {α β : Type}

theorem ofCloses {parser : Parser α} (closes : Closes parser) : Steady parser := by
  intro stop tokens rest value success
  obtain ⟨taken, whole, _, _, again⟩ := closes stop tokens rest value success
  exact ⟨taken, whole, fun stop' rest' _ => again stop' rest'⟩

/-- Such a parser repeats what it has read, however many tokens that took. -/
theorem repeats {parser : Parser α} (steady : Steady parser) (bound : Nat) :
    Repeats SameToStop (fun _ => True) bound parser parser := by
  intro stop tokens rest value success
  obtain ⟨taken, whole, again⟩ := steady stop tokens rest value success
  exact ⟨taken, whole, fun _ _ => trivial, fun _ => again⟩

theorem ofRepeats {parser : Parser α}
    (repeats : ∀ bound, Repeats SameToStop (fun _ => True) bound parser parser) : Steady parser := by
  intro stop tokens rest value success
  obtain ⟨taken, rfl, _, again⟩ := repeats (tokens.length + 1) stop tokens rest value success
  exact ⟨taken, rfl, again (by rw [List.length_append]; omega)⟩

theorem pure (value : α) : Steady (Pure.pure value) :=
  ofRepeats fun _ => .pure value

theorem fail (problem : SyntaxProblem) (place : Position) :
    Steady (Parser.fail problem place : Parser α) := by
  intro stop tokens rest value success
  contradiction

theorem bind {first : Parser α} {next : α → Parser β} (firsts : Steady first)
    (nexts : ∀ value, Steady (next value)) : Steady (first >>= next) :=
  ofRepeats fun bound => .bind SameToStop.append (firsts.repeats bound) fun value =>
    (nexts value).repeats bound

theorem accept {allowed : TokenKind → Bool} (notAtEnd : allowed .eof = false)
    (expected : Expectation) : Steady (Parser.accept allowed expected) :=
  ofRepeats fun _ => .accept notAtEnd (fun _ => trivial) expected

theorem expectSymbol (mark : Symbol) : Steady (Parser.expectSymbol mark) :=
  accept (by simp) _

theorem expectName : Steady Parser.expectName :=
  accept rfl _

theorem expectText : Steady Parser.expectText :=
  (accept rfl _).bind fun _ => pure _

theorem expectKey : Steady Parser.expectKey :=
  expectName.bind fun _ => (expectSymbol .colon).bind fun _ => pure _

theorem takeFound {find : List Token → Option α} {length : α → Nat}
    (finds : ∀ {tokens tokens'}, SameToStop tokens tokens' → find tokens = find tokens')
    (takes : ∀ {tokens found}, find tokens = some found → ∃ taken rest, tokens = taken ++ rest ∧
      taken.length = length found) : Steady (Parser.takeFound find length) := by
  refine ofRepeats fun _ => .takeFound SameToStop.append finds fun call => ?_
  obtain ⟨taken, rest, whole, size⟩ := takes call
  exact ⟨taken, rest, whole, size, fun _ _ => trivial⟩

theorem takeIf {length : Nat} {test : List Token → Bool}
    (tests : ∀ {tokens tokens'}, SameToStop tokens tokens' → test tokens = test tokens')
    (takes : ∀ {tokens}, test tokens = true → length ≤ tokens.length) :
    Steady (Parser.takeIf length test) := by
  refine (takeFound ?_ ?_).bind fun _ => pure _
  · intro tokens tokens' same
    rw [tests same]
  · intro tokens found call
    split at call
    · next holds =>
      exact ⟨tokens.take length, tokens.drop length, (List.take_append_drop _ _).symm,
        List.length_take_of_le (takes holds)⟩
    · contradiction

theorem flag {word : String} (free : ∀ head : Head, head.keyword.spelling ≠ word) :
    Steady (Parser.flag word) := by
  refine takeIf (fun same => same.startsWithFlag free) fun {tokens} holds => ?_
  cases tokens with
  | nil => contradiction
  | cons => simp

theorem option {mark : Symbol} (notBrace : mark ≠ .rightBrace) :
    Steady (Parser.option (.symbol mark)) := by
  refine takeIf (fun same => same.startsWith mark notBrace) fun {tokens} holds => ?_
  cases tokens with
  | nil => contradiction
  | cons => simp

theorem skipCommas : Steady Parser.skipCommas :=
  ofRepeats fun _ => .skipCommas (fun _ => trivial) fun same => same.startsWith .comma (by decide)

theorem loop {more : α → List Token → Bool} {step : α → Parser α}
    (mores : ∀ {state tokens tokens'}, SameToStop tokens tokens' →
      more state tokens = more state tokens')
    (steps : ∀ state, Steady (step state)) (state : α) : Steady (Parser.loop more step state) :=
  ofRepeats fun bound => .loop SameToStop.append @mores (fun state => (steps state).repeats bound) state

/-! ## The entries of models and screens -/

theorem typeRef : Steady Grammar.typeRef := by
  refine expectName.bind fun _ => (takeIf (fun same => same.startsWithBrackets) ?_).bind fun _ =>
    pure _
  intro tokens holds
  obtain ⟨_, _, _, rfl, _⟩ := Inherited.brackets_of_starts holds
  simp

theorem scalarText : Steady Grammar.scalarText :=
  (accept rfl _).bind fun _ => pure _

theorem enumValues : Steady Grammar.enumValues := by
  refine (expectSymbol .leftBracket).bind fun _ =>
    ((loop ?_ ?_ _).bind fun _ => pure _).bind fun _ =>
      (expectSymbol .rightBracket).bind fun _ => pure _
  · intro state tokens tokens' same
    rw [same.stillOpen .rightBracket (by decide)]
  · exact fun _ => scalarText.bind fun _ => (option (by decide)).bind fun _ => pure _

theorem property : Steady Grammar.property := by
  refine expectKey.bind fun _ => typeRef.bind fun _ => loop (fun same => by rw [same.featureAt?])
    (fun property => ?_) _
  refine (?_ : Steady (Grammar.feature property)).bind fun _ => skipCommas.bind fun _ => pure _
  refine (takeFound (fun same => same.featureAt?) fun isFeature => ?_).bind fun found => ?_
  · obtain ⟨taken, rest, whole, size, _⟩ := Local.featureAt?_taken isFeature
    exact ⟨taken, rest, whole, size⟩
  match found with
  | none => exact pure _
  | some .required => exact pure _
  | some .default => exact scalarText.bind fun _ => pure _
  | some .enumeration => exact enumValues.bind fun _ => pure _

end Steady

theorem Closes.screenParameters : Closes Grammar.screenParameters :=
  bind (fun _ => .expectSymbol .leftBrace) fun _ => bind (fun _ => .itemsUntil .rightBrace
    (Local.expectKey.bind fun _ => Local.typeRef.bind fun _ =>
      (Local.flag _).bind fun _ => .pure _))
      fun _ => brace fun _ => .pure _

theorem Closes.layout : Closes Grammar.layout := by
  refine bind (fun _ => .expectSymbol .leftBrace) fun _ =>
    bind (fun _ => .untilClosed .rightBrace (fun state => ?_) _) fun state => brace fun _ => ?_
  · exact Local.expectKey.bind fun key => (Local.layoutAttribute key _).bind fun _ =>
      Local.skipCommas.bind fun _ => .pure _
  · split
    · exact .pure _
    · exact .fail _ _

theorem Steady.screenEntry (screen : OpenScreen) : Steady (Grammar.screenEntry screen) := by
  have notFlag (head : Head) : head.keyword.spelling ≠ "initial" := by
    cases head <;> simp [Head.keyword, Keyword.spelling]
  refine (flag notFlag).bind fun isInitial => ?_
  split
  · exact pure _
  refine expectKey.bind fun key => (?_ : Steady (Grammar.screenAttribute key screen)).bind fun _ =>
    skipCommas.bind fun _ => pure _
  unfold Grammar.screenAttribute
  split
  · exact expectText.bind fun _ => pure _
  · exact (ofCloses .screenParameters).bind fun _ => pure _
  · exact (ofCloses .layout).bind fun _ => pure _
  · exact fail _ _

/-! ## The missing brace -/

/-- Entries up to a right brace are read as before if the keyword of a statement stands in its
place; then the next entry is begun with that keyword. -/
theorem untilClosed_stopped {σ : Type} {step : σ → Parser σ} (steps : ∀ state, Steady (step state))
    {state final : σ} {stop : Position} {tokens rest : List Token} {brace : Token}
    (closes : brace.kind = .symbol .rightBrace)
    (read : Parser.untilClosed .rightBrace step state stop tokens = .ok final (brace :: rest) []) :
    ∃ inside, tokens = inside ++ brace :: rest ∧
      ∀ {head : Head} {keyword : Token}, BeginsHead head keyword → ∀ stop' rest',
        Parser.untilClosed .rightBrace step state stop' (inside ++ keyword :: rest') =
          Parser.untilClosed .rightBrace step final stop' (keyword :: rest') := by
  refine Parser.loop_induct_clean (motive := fun state tokens => ∃ inside,
    tokens = inside ++ brace :: rest ∧ ∀ {head keyword}, BeginsHead head keyword → ∀ stop' rest',
      Parser.untilClosed .rightBrace step state stop' (inside ++ keyword :: rest') =
        Parser.untilClosed .rightBrace step final stop' (keyword :: rest')) ?_ ?_ ?_ read
  · exact fun _ => ⟨[], rfl, fun _ _ _ => rfl⟩
  · intro state tokens goesOn run notShorter
    obtain ⟨taken, rfl, _⟩ := steps state stop tokens _ final run
    obtain rfl : taken = [] := by
      cases taken with
      | nil => rfl
      | cons =>
        simp only [List.length_append, List.length_cons] at notShorter
        omega
    simp [Parser.stillOpen, closes] at goesOn
  · intro state next tokens between goesOn run shorter later
    obtain ⟨inside, isInside, again'⟩ := later
    obtain ⟨taken, rfl, again⟩ := steps state stop tokens between next run
    subst isInside
    refine ⟨taken ++ inside, (List.append_assoc ..).symm, ?_⟩
    intro head keyword begins stop' rest'
    obtain ⟨token, others, rfl⟩ : ∃ token others, taken = token :: others := by
      cases taken with
      | nil => simp at shorter
      | cons token others => exact ⟨token, others, rfl⟩
    have same : SameToStop (inside ++ brace :: rest) (inside ++ keyword :: rest') :=
      (SameToStop.stop closes begins).append inside
    have shorter' : (inside ++ keyword :: rest').length <
        (token :: others ++ (inside ++ keyword :: rest')).length := by simp
    have goesOn' : Parser.stillOpen .rightBrace
        (token :: others ++ (inside ++ keyword :: rest')) = true := goesOn
    rw [List.append_assoc]
    have step' := @Parser.loop_step σ (fun _ tokens => Parser.stillOpen .rightBrace tokens) step
      state next stop' _ _ [] goesOn' (again stop' _ same) shorter'
    rw [Outcome.after_nil] at step'
    exact step'.trans (again' begins stop' rest')

theorem accept_misfit {allowed : TokenKind → Bool} {token : Token}
    (misfit : allowed token.kind = false) (expected : Expectation) (stop : Position)
    (rest : List Token) : Parser.accept allowed expected stop (token :: rest) =
      .failed (.syntaxError (.unexpected expected token)) (token :: rest) [] := by
  unfold Parser.accept
  rw [Parser.bind_run_clean rfl]
  simp only [List.head?_cons, Option.getD_some, misfit]
  rfl

section Heads

variable {head : Head} {word first : Token} {others : List Token}

/-- A parser that takes the keyword of a statement and fails, on the grammar, before the brace that
opens the statement. -/
def Balks {α : Type} (parser : Parser α) : Prop :=
  ∀ {head : Head} {word first : Token} {others : List Token}, IsHead head (word :: others) →
    BeginsHead head word → first.kind = .symbol .leftBrace → ∀ stop more, ∃ diagnostic kept,
      kept <:+ others ∧ parser stop (word :: (others ++ first :: more)) =
        .failed (.syntaxError diagnostic) (kept ++ first :: more) []

/-- Without a colon the keyword of a statement is no key of an entry. -/
theorem expectKey_atHead (isHead : IsHead head (word :: others))
    (opens : first.kind = .symbol .leftBrace) (stop : Position) (more : List Token) :
    (∃ diagnostic kept, kept <:+ others ∧
      Parser.expectKey stop (word :: (others ++ first :: more)) =
        .failed (.syntaxError diagnostic) (kept ++ first :: more) []) ∨
    Parser.expectKey stop (word :: (others ++ first :: more)) = .ok word (first :: more) [] := by
  obtain ⟨_, _, same, isKeyword⟩ := isHead.starts
  obtain ⟨rfl, rfl⟩ := List.cons.inj same
  have isName : word.kind.isName = true := by
    rw [isKeyword]
    cases head <;> rfl
  have taken (rest : List Token) : Parser.expectName stop (word :: rest) = .ok word rest [] :=
    Parser.accept_run isName _ stop rest
  unfold Parser.expectKey
  rw [Parser.bind_run_clean (taken _)]
  cases isHead with
  | @named _ name _ isName' =>
    refine .inl ⟨_, [name], List.suffix_rfl, Parser.bind_run_failed (accept_misfit ?_ _ _ _) _⟩
    cases isColon : [TokenKind.symbol .colon].contains name.kind with
    | false => rfl
    | true =>
      obtain same : name.kind = .symbol .colon := by simpa using isColon
      rw [same] at isName'
      contradiction
  | plain =>
    refine .inl ⟨_, [], List.nil_suffix, Parser.bind_run_failed (accept_misfit ?_ _ _ _) _⟩
    simp [opens]
  | @colon _ colon _ isColon =>
    refine .inr ?_
    have taken' : Parser.expectSymbol .colon stop ([colon] ++ first :: more) =
        .ok colon (first :: more) [] := Parser.accept_run (by simp [isColon]) _ stop _
    rw [Parser.bind_run_clean taken']
    rfl

theorem property_balks : Balks Grammar.property := by
  intro head word first others isHead begins opens stop more
  unfold Grammar.property
  rcases expectKey_atHead isHead opens stop more with ⟨diagnostic, kept, isKept, run⟩ | run
  · exact ⟨diagnostic, kept, isKept, Parser.bind_run_failed run _⟩
  · have misfit : Grammar.typeRef stop (first :: more) =
        .failed (.syntaxError (.unexpected .name first)) (first :: more) [] :=
      Parser.bind_run_failed (accept_misfit (by rw [opens]; rfl) _ _ _) _
    exact ⟨_, [], List.nil_suffix,
      (Parser.bind_run_clean run _).trans (Parser.bind_run_failed misfit _)⟩

theorem screenEntry_balks (screen : OpenScreen) : Balks (Grammar.screenEntry screen) := by
  intro head word first others isHead begins opens stop more
  have noFlag : Parser.flag "initial" stop (word :: (others ++ first :: more)) =
      .ok false (word :: (others ++ first :: more)) [] := by
    have other : head.keyword.spelling ≠ "initial" := by
      cases head <;> simp [Head.keyword, Keyword.spelling]
    rw [Parser.flag, Parser.takeIf_run, if_neg]
    simp [Parser.startsWithFlag, begins.2, other]
  unfold Grammar.screenEntry
  rw [Parser.bind_run_clean noFlag]
  simp only [Bool.false_eq_true, if_false]
  rcases expectKey_atHead isHead opens stop more with ⟨diagnostic, kept, isKept, run⟩ | run
  · exact ⟨diagnostic, kept, isKept, Parser.bind_run_failed run _⟩
  · have unknown : Grammar.screenAttribute word screen =
        Parser.fail (.unknownAttribute .screen word.value) word.place := by
      unfold Grammar.screenAttribute
      rw [begins.2]
      cases head <;> rfl
    refine ⟨⟨.unknownAttribute .screen word.value, word.place⟩, [], List.nil_suffix,
      (Parser.bind_run_clean run _).trans ?_⟩
    rw [unknown]
    exact Parser.bind_run_failed rfl _

end Heads

/-- A keyword, a name, and entries in braces. -/
def blockOf {σ β : Type} (keyword : Keyword) (step : σ → Parser σ) (empty : σ)
    (next : Token → Token → σ → Parser β) : Parser β := do
  let word ← Parser.expect (.keyword keyword)
  let name ← Parser.expectName
  let _ ← Parser.expectSymbol .leftBrace
  let found ← Parser.untilClosed .rightBrace step empty
  let _ ← Parser.expectSymbol .rightBrace
  next word name found

/-- A parser for statements with a keyword that fails within the head of the next statement, if the
brace that it takes last is missing. -/
def Unclosed {α : Type} (keyword : Keyword) (parser : Parser α) : Prop :=
  ∀ {stop : Position} {tokens rest : List Token} {value : α},
    parser stop tokens = .ok value rest [] →
      ∃ begin front closing, tokens = begin :: (front ++ closing :: rest) ∧
        begin.kind = .keyword keyword ∧
        ∀ {head : Head} {word first : Token} {others : List Token}, IsHead head (word :: others) →
          BeginsHead head word → first.kind = .symbol .leftBrace → ∀ stop' more, ∃ diagnostic kept,
            kept <:+ others ∧ parser stop' (begin :: (front ++ word :: (others ++ first :: more))) =
              .failed (.syntaxError diagnostic) (kept ++ first :: more) []

theorem unclosed_blockOf {σ β : Type} (keyword : Keyword) {step : σ → Parser σ} {empty : σ}
    {next : Token → Token → σ → Parser β} (steps : ∀ state, Steady (step state))
    (balks : ∀ state, Balks (step state))
    (nexts : ∀ word name found, Settles (next word name found)) :
    Unclosed keyword (blockOf keyword step empty next) := by
  intro stop tokens rest value read
  obtain ⟨word, others, begun, afterWord⟩ := Parser.bind_eq_clean read
  obtain ⟨rfl, isKeyword⟩ := Parser.accept_eq_ok (by simp) begun
  obtain ⟨name, others', called, afterName⟩ := Parser.bind_eq_clean afterWord
  obtain ⟨rfl, isName⟩ := Parser.accept_eq_ok rfl called
  obtain ⟨first, others'', opened, afterMark⟩ := Parser.bind_eq_clean afterName
  obtain ⟨rfl, opens⟩ := Parser.accept_eq_ok (by simp) opened
  obtain ⟨found, ending, filled, afterEntries⟩ := Parser.bind_eq_clean afterMark
  obtain ⟨closing, between, closed, afterGroup⟩ := Parser.bind_eq_clean afterEntries
  obtain ⟨rfl, closes⟩ := expect_eq_ok (by simp) closed
  obtain ⟨rfl, _⟩ := nexts word name found stop between rest value afterGroup
  obtain ⟨inside, rfl, stopped⟩ := untilClosed_stopped steps closes filled
  refine ⟨word, name :: first :: inside, closing, rfl, by simpa using isKeyword, ?_⟩
  intro head word' first' others isHead begins opens' stop' more
  obtain ⟨diagnostic, kept, isKept, fails⟩ := balks found isHead begins opens' stop' more
  refine ⟨diagnostic, kept, isKept, ?_⟩
  have notClosed : Parser.stillOpen .rightBrace (word' :: (others ++ first' :: more)) = true := by
    simp [Parser.stillOpen, begins.1]
  have entries : Parser.untilClosed .rightBrace step empty stop'
      (inside ++ word' :: (others ++ first' :: more)) =
        .failed (.syntaxError diagnostic) (kept ++ first' :: more) [] := by
    rw [stopped begins, Parser.untilClosed, Parser.loop, if_pos notClosed, fails]
  refine (Parser.bind_run_clean (Parser.accept_run isKeyword _ stop' _) _).trans ?_
  refine (Parser.bind_run_clean (Parser.accept_run isName _ stop' _) _).trans ?_
  refine (Parser.bind_run_clean (Parser.accept_run opens _ stop' _) _).trans ?_
  exact Parser.bind_run_failed entries _

theorem Balks.bind {α β : Type} {first : Parser α} (balks : Balks first) (next : α → Parser β) :
    Balks (first >>= next) := by
  intro head word opening others isHead begins opens stop more
  obtain ⟨diagnostic, kept, isKept, fails⟩ := balks isHead begins opens stop more
  exact ⟨diagnostic, kept, isKept, Parser.bind_run_failed fails next⟩

theorem unclosed_model : Unclosed .model Grammar.model :=
  unclosed_blockOf .model
    (fun _ => Steady.property.bind fun _ => Steady.skipCommas.bind fun _ => .pure _)
    (fun _ => Balks.bind property_balks _) fun _ _ _ => .pure _

theorem unclosed_screen : Unclosed .screen Grammar.screen := by
  refine unclosed_blockOf .screen Steady.screenEntry screenEntry_balks fun word name body => ?_
  split
  · exact (Settles.report _ _).bind fun _ => .pure _
  · exact .pure _

/-- A model or a screen without its closing brace fails within the head of the statement behind it.
-/
theorem Contributes.unclosed {part : Part} {front : List Token} {closing : Token}
    (contributes : Contributes part (front ++ [closing]))
    (isBlock : part.head.keyword = .model ∨ part.head.keyword = .screen) {head : Head}
    {word first : Token} {others : List Token} (isHead : IsHead head (word :: others))
    (begins : BeginsHead head word) (opens : first.kind = .symbol .leftBrace) (document : Document)
    (stop : Position) (more : List Token) : ∃ diagnostic kept, kept <:+ others ∧
      statement document stop (front ++ word :: (others ++ first :: more)) =
        .failed (.syntaxError diagnostic) (kept ++ first :: more) [] := by
  have read := contributes.read .start []
  -- The row of the routine is this one.
  have row_eq {begin mark : Token} {row : List Token}
      (whole : front ++ [closing] ++ [] = begin :: (row ++ [mark])) : front = begin :: row := by
    rw [List.append_nil] at whole
    exact (@List.append_inj' _ front [closing] (begin :: row) [mark] whole rfl).1
  unfold statement
  rw [Parser.bind_run_clean rfl]
  cases part with
  | header | navigation | api | mockData => simp [Part.head, Head.keyword] at isBlock
  | model =>
    obtain ⟨begin, row, mark, whole, isKeyword, fails⟩ := unclosed_model read
    obtain rfl := row_eq whole
    obtain ⟨diagnostic, kept, isKept, run⟩ := fails isHead begins opens stop more
    simp only [List.cons_append, List.head?_cons, Option.getD_some, isKeyword]
    exact ⟨diagnostic, kept, isKept, Parser.bind_run_failed run _⟩
  | screen =>
    obtain ⟨begin, row, mark, whole, isKeyword, fails⟩ := unclosed_screen read
    obtain rfl := row_eq whole
    obtain ⟨diagnostic, kept, isKept, run⟩ := fails isHead begins opens stop more
    simp only [List.cons_append, List.head?_cons, Option.getD_some, isKeyword]
    exact ⟨diagnostic, kept, isKept, Parser.bind_run_failed run _⟩

end Blueprint
