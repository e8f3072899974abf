import Blueprint.Proofs.ParserLaws
import Mathlib.Data.List.Forall2

/-!
What a parser reads does not depend on where its tokens stand: on tokens that differ in their places
only, it takes as many of them, delivers the same and reports the same problems.
-/
set_option autoImplicit false

namespace Blueprint

/-- Tokens that differ at most in their places. -/
def Token.Same (token token' : Token) : Prop :=
  token.kind = token'.kind ∧ token.value = token'.value

/-- Token lists that differ at most in the places of their tokens. -/
abbrev SameTokens : List Token → List Token → Prop := List.Forall₂ Token.Same

/-- Diagnostics of the same problems, at places of their own. -/
def SameProblems (reports reports' : List SyntaxDiagnostic) : Prop :=
  reports.map SyntaxDiagnostic.problem = reports'.map SyntaxDiagnostic.problem

theorem SameProblems.append {first first' second second' : List SyntaxDiagnostic}
    (firsts : SameProblems first first') (seconds : SameProblems second second') :
    SameProblems (first ++ second) (first' ++ second') := by
  unfold SameProblems at *
  rw [List.map_append, List.map_append, firsts, seconds]

inductive Failure.Same : Failure → Failure → Prop where
  | syntaxError {diagnostic diagnostic' : SyntaxDiagnostic}
    (problems : diagnostic.problem = diagnostic'.problem) :
    Same (.syntaxError diagnostic) (.syntaxError diagnostic')
  | oversizedInteger : Same .oversizedInteger .oversizedInteger

/-- Outcomes that differ at most in places, given when two values do. -/
inductive Outcome.Alike {α β : Type} (same : α → β → Prop) : Outcome α → Outcome β → Prop where
  | ok {value : α} {value' : β} {rest rest' : List Token}
    {reports reports' : List SyntaxDiagnostic} (values : same value value')
    (rests : SameTokens rest rest') (problems : SameProblems reports reports') :
    Alike same (.ok value rest reports) (.ok value' rest' reports')
  | failed {failure failure' : Failure} {rest rest' : List Token}
    {reports reports' : List SyntaxDiagnostic} (failures : failure.Same failure')
    (rests : SameTokens rest rest') (problems : SameProblems reports reports') :
    Alike same (.failed failure rest reports) (.failed failure' rest' reports')

variable {α α' β β' : Type}

theorem Outcome.Alike.after {same : α → β → Prop} {earlier earlier' : List SyntaxDiagnostic}
    {outcome : Outcome α} {outcome' : Outcome β} (alike : Alike same outcome outcome')
    (problems : SameProblems earlier earlier') :
    Alike same (outcome.after earlier) (outcome'.after earlier') := by
  cases alike with
  | ok values rests later => exact .ok values rests (problems.append later)
  | failed failures rests later => exact .failed failures rests (problems.append later)

/-- Two parsers of which neither sees places: on tokens that differ in places only, their outcomes
do. What they deliver may hold places itself, so it is compared by a relation. -/
def Blind (same : α → β → Prop) (first : Parser α) (second : Parser β) : Prop :=
  ∀ (stop stop' : Position) (tokens tokens' : List Token), SameTokens tokens tokens' →
    Outcome.Alike same (first stop tokens) (second stop' tokens')

namespace Blind

open Blueprint.Parser

variable {same : α → β → Prop} {same' : α' → β' → Prop}

/-! ## Parsers that take no token or one -/

theorem pure {value : α} {value' : β} (values : same value value') :
    Blind same (Pure.pure value) (Pure.pure value') := by
  intro _ _ _ _ alike
  exact .ok values alike rfl

theorem bind {first : Parser α} {first' : Parser β} {next : α → Parser α'}
    {next' : β → Parser β'} (firsts : Blind same first first')
    (nexts : ∀ {value value'}, same value value' → Blind same' (next value) (next' value')) :
    Blind same' (first >>= next) (first' >>= next') := by
  intro stop stop' tokens tokens' alike
  have outcomes := firsts stop stop' tokens tokens' alike
  rw [bind_run, bind_run]
  generalize first stop tokens = outcome at outcomes ⊢
  generalize first' stop' tokens' = outcome' at outcomes ⊢
  cases outcomes with
  | ok values rests problems => exact (nexts values stop stop' _ _ rests).after problems
  | failed failures rests problems => exact .failed failures rests problems

theorem current : Blind Token.Same Parser.current Parser.current := by
  intro stop stop' tokens tokens' alike
  cases alike with
  | nil => exact .ok ⟨rfl, rfl⟩ .nil rfl
  | cons head tail => exact .ok head (.cons head tail) rfl

theorem advance : Blind Token.Same Parser.advance Parser.advance := by
  intro stop stop' tokens tokens' alike
  cases alike with
  | nil => exact .ok ⟨rfl, rfl⟩ .nil rfl
  | cons head tail => exact .ok head tail rfl

theorem fail (problem : SyntaxProblem) (place place' : Position) :
    Blind same (Parser.fail problem place) (Parser.fail problem place') := by
  intro _ _ _ _ alike
  exact .failed (.syntaxError rfl) alike rfl

theorem failOversized : Blind same Parser.failOversized Parser.failOversized := by
  intro _ _ _ _ alike
  exact .failed .oversizedInteger alike rfl

theorem report (problem : SyntaxProblem) (place place' : Position) :
    Blind Eq (Parser.report problem place) (Parser.report problem place') := by
  intro _ _ _ _ alike
  exact .ok rfl alike rfl

theorem unexpected (expected : Expectation) :
    Blind same (Parser.unexpected expected) (Parser.unexpected expected) := by
  refine current.bind ?_
  intro token token' tokens _ _ _ _ alike
  refine .failed (.syntaxError ?_) alike rfl
  simp only [SyntaxDiagnostic.unexpected, tokens.1, tokens.2]

theorem skip {keep : List Token → List Token}
    (keeps : ∀ {tokens tokens'}, SameTokens tokens tokens' → SameTokens (keep tokens) (keep tokens')) :
    Blind Eq (Parser.skip keep) (Parser.skip keep) := by
  intro _ _ _ _ alike
  exact .ok rfl (keeps alike) rfl

theorem isAt (kind : TokenKind) : Blind Eq (Parser.isAt kind) (Parser.isAt kind) := by
  refine current.bind ?_
  intro token token' tokens
  exact pure (by rw [tokens.1])

theorem takeFound {find : List Token → Option α}
    (finds : ∀ {tokens tokens'}, SameTokens tokens tokens' → find tokens = find tokens')
    (length : α → Nat) : Blind Eq (Parser.takeFound find length) (Parser.takeFound find length) := by
  intro stop stop' tokens tokens' alike
  unfold Parser.takeFound
  rw [finds alike]
  cases find tokens' with
  | none => exact .ok rfl alike rfl
  | some found => exact .ok rfl (List.forall₂_drop _ alike) rfl

theorem takeIf (length : Nat) {test : List Token → Bool}
    (tests : ∀ {tokens tokens'}, SameTokens tokens tokens' → test tokens = test tokens') :
    Blind Eq (Parser.takeIf length test) (Parser.takeIf length test) := by
  refine (takeFound ?_ _).bind ?_
  · intro tokens tokens' alike
    rw [tests alike]
  · rintro found _ rfl
    exact pure rfl

theorem accept (allowed : TokenKind → Bool) (expected : Expectation) :
    Blind Token.Same (Parser.accept allowed expected) (Parser.accept allowed expected) := by
  refine current.bind ?_
  intro token token' tokens
  rw [tokens.1]
  cases allowed token'.kind with
  | true => exact advance
  | false => exact unexpected expected

theorem expectOneOf (allowed : List TokenKind) :
    Blind Token.Same (Parser.expectOneOf allowed) (Parser.expectOneOf allowed) :=
  accept _ _

theorem expect (kind : TokenKind) : Blind Token.Same (Parser.expect kind) (Parser.expect kind) :=
  accept _ _

theorem expectSymbol (mark : Symbol) :
    Blind Token.Same (Parser.expectSymbol mark) (Parser.expectSymbol mark) :=
  accept _ _

theorem expectName : Blind Token.Same Parser.expectName Parser.expectName :=
  accept _ _

theorem expectText : Blind Eq Parser.expectText Parser.expectText :=
  (expect .string).bind fun tokens => pure tokens.2

theorem expectFlag : Blind Eq Parser.expectFlag Parser.expectFlag :=
  (expectOneOf _).bind fun tokens => pure (by rw [tokens.1])

theorem expectKey : Blind Token.Same Parser.expectKey Parser.expectKey :=
  expectName.bind fun tokens => (expectSymbol .colon).bind fun _ => pure tokens

/-! ## Looking ahead -/

theorem startsWith_same {kind : TokenKind} {tokens tokens' : List Token}
    (alike : SameTokens tokens tokens') :
    Parser.startsWith kind tokens = Parser.startsWith kind tokens' := by
  cases alike with
  | nil => rfl
  | cons head _ => simp only [Parser.startsWith, head.1]

theorem option (kind : TokenKind) : Blind Eq (Parser.option kind) (Parser.option kind) :=
  takeIf 1 startsWith_same

theorem flag (word : String) : Blind Eq (Parser.flag word) (Parser.flag word) := by
  refine takeIf 1 ?_
  intro tokens tokens' alike
  cases alike with
  | nil => rfl
  | cons head tail => simp only [Parser.startsWithFlag, head.1, head.2, startsWith_same tail]

theorem stillOpen_same {close : Symbol} {tokens tokens' : List Token}
    (alike : SameTokens tokens tokens') :
    Parser.stillOpen close tokens = Parser.stillOpen close tokens' := by
  cases alike with
  | nil => rfl
  | cons head _ => simp only [Parser.stillOpen, head.1]

theorem skipCommas : Blind Eq Parser.skipCommas Parser.skipCommas := by
  refine skip ?_
  intro tokens tokens' alike
  induction alike with
  | nil => exact .nil
  | @cons token token' _ _ head tail ih =>
    simp only [Parser.afterCommas, List.dropWhile_cons, head.1] at ih ⊢
    split
    · exact ih
    · exact .cons head tail

/-! ## Repetition and recovery -/

theorem loop (same : α → β → Prop) {more : α → List Token → Bool} {more' : β → List Token → Bool}
    {step : α → Parser α} {step' : β → Parser β} {state : α} {state' : β}
    (mores : ∀ {state state' tokens tokens'}, same state state' → SameTokens tokens tokens' →
      more state tokens = more' state' tokens')
    (steps : ∀ {state state'}, same state state' → Blind same (step state) (step' state'))
    (states : same state state') :
    Blind same (Parser.loop more step state) (Parser.loop more' step' state') := by
  intro stop stop' tokens tokens' alike
  -- The tokens left shrink with every step that is not the last.
  induction length : tokens.length using Nat.strongRecOn generalizing tokens tokens' state state' with
  | ind size ih =>
    subst length
    rw [Parser.loop, Parser.loop, mores states alike]
    split
    · generalize run : step state stop tokens = outcome
      generalize run' : step' state' stop' tokens' = outcome'
      have outcomes := steps states stop stop' tokens tokens' alike
      rw [run, run'] at outcomes
      cases outcomes with
      | failed failures rests problems => exact .failed failures rests problems
      | ok values rests problems =>
        simp only [rests.length_eq, alike.length_eq]
        split
        · next shorter =>
          rw [← rests.length_eq, ← alike.length_eq] at shorter
          exact (ih _ shorter values _ _ rests rfl).after problems
        · exact .ok values rests problems
    · exact .ok states alike rfl

theorem untilClosed (close : Symbol) {step : α → Parser α} {step' : β → Parser β} {state : α}
    {state' : β}
    (steps : ∀ {state state'}, same state state' → Blind same (step state) (step' state'))
    (states : same state state') :
    Blind same (Parser.untilClosed close step state) (Parser.untilClosed close step' state') :=
  loop same (fun _ alike => stillOpen_same alike) steps states

theorem itemsUntil (close : Symbol) {item : Parser α} (items : Blind Eq item item) :
    Blind Eq (Parser.itemsUntil close item) (Parser.itemsUntil close item) := by
  refine untilClosed close ?_ rfl
  rintro state _ rfl
  refine items.bind ?_
  rintro next _ rfl
  exact skipCommas.bind fun _ => pure rfl

theorem commaSeparated {item : Parser α} (items : Blind Eq item item) :
    Blind Eq (Parser.commaSeparated item) (Parser.commaSeparated item) := by
  refine (loop Eq ?_ ?_ rfl).bind ?_
  · rintro state _ tokens tokens' rfl alike
    rw [stillOpen_same alike]
  · rintro state _ rfl
    refine items.bind ?_
    rintro next _ rfl
    refine (option _).bind ?_
    rintro more _ rfl
    exact pure rfl
  · rintro state _ rfl
    exact pure rfl

theorem mapM {γ : Type} {f f' : γ → Parser α} (items : ∀ item, Blind Eq (f item) (f' item))
    (list : List γ) : Blind Eq (list.mapM f) (list.mapM f') := by
  induction list with
  | nil => exact pure rfl
  | cons item list ih =>
    rw [List.mapM_cons, List.mapM_cons]
    refine (items item).bind ?_
    rintro value _ rfl
    refine ih.bind ?_
    rintro values _ rfl
    exact pure rfl

theorem forM {γ : Type} {f f' : γ → Parser PUnit} (items : ∀ item, Blind Eq (f item) (f' item))
    (list : List γ) : Blind Eq (list.forM f) (list.forM f') := by
  induction list with
  | nil => exact pure rfl
  | cons item list ih => exact (items item).bind fun _ => ih

theorem orResume {first : Parser α} {first' : Parser β} {recover : List Token → Parser α}
    {recover' : List Token → Parser β} (firsts : Blind same first first')
    (recovers : ∀ {tokens tokens'}, SameTokens tokens tokens' →
      Blind same (recover tokens) (recover' tokens')) :
    Blind same (Parser.orResume first recover) (Parser.orResume first' recover') := by
  intro stop stop' tokens tokens' alike
  unfold Parser.orResume
  have outcomes := firsts stop stop' tokens tokens' alike
  generalize first stop tokens = outcome at outcomes ⊢
  generalize first' stop' tokens' = outcome' at outcomes ⊢
  cases outcomes with
  | ok values rests problems => exact .ok values rests problems
  | failed failures rests problems =>
    cases failures with
    | oversizedInteger => exact .failed .oversizedInteger rests problems
    | syntaxError same =>
      exact (recovers alike stop stop' _ _ rests).after (problems.append (by simp [SameProblems, same]))

theorem orRetry {first second : Parser α} {first' second' : Parser β}
    (firsts : Blind same first first') (seconds : Blind same second second') :
    Blind same (Parser.orRetry first second) (Parser.orRetry first' second') := by
  rw [orRetry_eq_orResume, orRetry_eq_orResume]
  exact orResume firsts fun alike stop stop' _ _ _ => seconds stop stop' _ _ alike

end Blind

end Blueprint
