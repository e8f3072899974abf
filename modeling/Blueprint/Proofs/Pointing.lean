import Blueprint.Proofs.ParserLaws

/-!
What a diagnostic points at. A routine below a statement reports nothing while it succeeds; where it
fails, its one diagnostic points at the token in front of which it stopped, at one that it had taken,
or at one that it was told of. The property passes on along sequences of parsers, as long as each
token that a later part may blame is one that the earlier part has taken.
-/
set_option autoImplicit false

namespace Blueprint

/-- The token that a parser sees first: the end, where no token is left. -/
def currentToken (stop : Position) (tokens : List Token) : Token :=
  tokens.head?.getD (Parser.endToken stop)

/-- Whether a diagnostic is about a token: it gives the place of the token, and if it says what was
found in place of something else, then that is the token, or the end if the token is the end. -/
structure SyntaxDiagnostic.PointsAt (diagnostic : SyntaxDiagnostic) (token : Token) : Prop where
  place : diagnostic.place = token.place
  found : ∀ expected found, diagnostic.problem = .unexpected expected found →
    found = if token.kind = .eof then none else some token.value

theorem SyntaxDiagnostic.unexpected_pointsAt (expected : Expectation) (token : Token) :
    (SyntaxDiagnostic.unexpected expected token).PointsAt token where
  place := rfl
  found := by
    rintro expected found ⟨⟩
    simp

/-- Whether a problem is another one than a token in place of an expected one. -/
def SyntaxProblem.IsOwn (problem : SyntaxProblem) : Prop :=
  ∀ expected found, problem ≠ .unexpected expected found

/-- What is reported at the place of a token without telling what was found points at the token. -/
theorem SyntaxProblem.IsOwn.pointsAt {problem : SyntaxProblem} (own : problem.IsOwn) (token : Token) :
    SyntaxDiagnostic.PointsAt ⟨problem, token.place⟩ token where
  place := rfl
  found expected found same := absurd same (own expected found)

/-- A diagnostic points at one of some tokens. -/
def PointsInto (tokens : List Token) (diagnostic : SyntaxDiagnostic) : Prop :=
  ∃ token ∈ tokens, diagnostic.PointsAt token

theorem PointsInto.mono {tokens more : List Token} {diagnostic : SyntaxDiagnostic}
    (points : PointsInto tokens diagnostic) (subset : tokens ⊆ more) : PointsInto more diagnostic := by
  obtain ⟨token, member, pointsAt⟩ := points
  exact ⟨token, subset member, pointsAt⟩

/-- An outcome without a report; if it is a failure over the grammar, then its diagnostic points at
a known token, at a token taken, or at the one in front of which the failure left off. -/
inductive Outcome.Points (known : List Token) (stop : Position) (tokens : List Token) :
    {α : Type} → Outcome α → Prop where
  | ok {α : Type} {value : α} (row : List Token) {rest : List Token} (whole : tokens = row ++ rest) :
    Points known stop tokens (.ok value rest [])
  | failed {α : Type} {diagnostic : SyntaxDiagnostic} (row : List Token) {rest : List Token}
    (whole : tokens = row ++ rest)
    (points : PointsInto (known ++ row ++ [currentToken stop rest]) diagnostic) :
    Points known stop tokens (.failed (.syntaxError diagnostic) rest [] : Outcome α)
  | oversized {α : Type} (row : List Token) {rest : List Token} (whole : tokens = row ++ rest) :
    Points known stop tokens (.failed .oversizedInteger rest [] : Outcome α)

namespace Outcome.Points

variable {α β : Type} {known tokens : List Token} {stop : Position}

theorem misfit {diagnostic : SyntaxDiagnostic}
    (points : PointsInto (known ++ [currentToken stop tokens]) diagnostic) :
    Outcome.Points known stop tokens (.failed (.syntaxError diagnostic) tokens [] : Outcome α) :=
  .failed [] rfl (by rwa [List.append_nil])

/-- What was told, with a row taken, is as good as told with the row. -/
theorem behind {row : List Token} {outcome : Outcome α}
    (points : outcome.Points (known ++ row) stop tokens) : outcome.Points known stop (row ++ tokens) := by
  cases points with
  | ok row' whole => exact .ok (row ++ row') (by rw [whole, List.append_assoc])
  | failed row' whole points =>
    exact .failed (row ++ row') (by rw [whole, List.append_assoc])
      (by rwa [← List.append_assoc known])
  | oversized row' whole => exact .oversized (row ++ row') (by rw [whole, List.append_assoc])

theorem mono {more : List Token} {outcome : Outcome α} (points : outcome.Points known stop tokens)
    (subset : known ⊆ more) : outcome.Points more stop tokens := by
  cases points with
  | ok row whole => exact .ok row whole
  | failed row whole points =>
    refine .failed row whole (points.mono fun token member => ?_)
    simp only [List.append_assoc, List.mem_append] at member ⊢
    exact member.imp_left fun isKnown => subset isKnown
  | oversized row whole => exact .oversized row whole

end Outcome.Points

/-- Whether a parser points, wherever it begins, given the tokens that it is told of. -/
def Points (known : List Token) {α : Type} (parser : Parser α) : Prop :=
  ∀ (stop : Position) (tokens : List Token), (parser stop tokens).Points known stop tokens

namespace Points

variable {α β σ γ : Type} {known : List Token}

theorem mono {more : List Token} {parser : Parser α} (points : Points known parser)
    (subset : known ⊆ more) : Points more parser :=
  fun stop tokens => (points stop tokens).mono subset

theorem pure (value : α) : Points known (Pure.pure value) :=
  fun _ _ => .ok [] rfl

theorem fail {problem : SyntaxProblem} (own : problem.IsOwn) {token : Token} (isKnown : token ∈ known) :
    Points known (Parser.fail problem token.place : Parser α) :=
  fun _ _ => .misfit ⟨token, List.mem_append_left _ isKnown, own.pointsAt token⟩

theorem unexpected (expected : Expectation) :
    Points known (Parser.unexpected expected : Parser α) :=
  fun stop tokens => .misfit ⟨currentToken stop tokens, by simp,
    SyntaxDiagnostic.unexpected_pointsAt expected _⟩

theorem failOversized : Points known (Parser.failOversized : Parser α) :=
  fun _ _ => .oversized [] rfl

theorem current : Points known Parser.current :=
  fun _ _ => .ok [] rfl

theorem bind {first : Parser α} {next : α → Parser β} (firsts : Points known first)
    (nexts : ∀ value, Points known (next value)) : Points known (first >>= next) := by
  intro stop tokens
  have begun := firsts stop tokens
  rw [Parser.bind_run]
  cases run : first stop tokens with
  | ok value rest reports =>
    rw [run] at begun
    cases begun with
    | ok row whole =>
      rw [whole]
      simp only [Outcome.after_nil]
      exact ((nexts value stop rest).mono (List.subset_append_left known row)).behind
  | failed failure rest reports =>
    rw [run] at begun
    cases begun with
    | failed row whole points => exact .failed row whole points
    | oversized row whole => exact .oversized row whole

theorem isAt (kind : TokenKind) : Points known (Parser.isAt kind) :=
  current.bind fun _ => pure _

/-! ### Taking a token -/

section Accept

variable {allowed : TokenKind → Bool} (notAtEnd : allowed .eof = false) (expected : Expectation)
include notAtEnd

/-- A later part may blame the token that was taken. -/
theorem accept_bind {next : Token → Parser β} (nexts : ∀ token, Points (known ++ [token]) (next token)) :
    Points known (Parser.accept allowed expected >>= next) := by
  intro stop tokens
  rw [Parser.accept, Parser.bind_assoc, Parser.bind_run_clean rfl]
  change ((if allowed (currentToken stop tokens).kind then Parser.advance
    else Parser.unexpected expected) >>= next) stop tokens |>.Points known stop tokens
  split
  · next isAllowed =>
    cases tokens with
    | nil => exact absurd isAllowed (by simp [currentToken, Parser.endToken, notAtEnd])
    | cons token rest =>
      rw [Parser.bind_run_clean rfl]
      exact (nexts token stop rest).behind
  · exact (unexpected expected : Points known (Parser.unexpected expected : Parser β)) stop tokens

theorem accept : Points known (Parser.accept allowed expected) := by
  have taken : Points known (Parser.accept allowed expected >>= fun token => Pure.pure token) :=
    accept_bind notAtEnd expected fun _ => pure _
  rwa [bind_pure] at taken

end Accept

section Expect

variable {next : Token → Parser β} (nexts : ∀ token, Points (known ++ [token]) (next token))
include nexts

theorem expectName_bind : Points known (Parser.expectName >>= next) :=
  accept_bind rfl _ nexts

theorem expect_bind {kind : TokenKind} (notEnd : kind ≠ .eof) :
    Points known (Parser.expect kind >>= next) :=
  accept_bind (by simpa using notEnd.symm) _ nexts

theorem expectSymbol_bind {mark : Symbol} : Points known (Parser.expectSymbol mark >>= next) :=
  expect_bind nexts nofun

theorem expectKey_bind : Points known (Parser.expectKey >>= next) := by
  rw [Parser.expectKey, Parser.bind_assoc]
  refine expectName_bind fun key => ?_
  rw [Parser.bind_assoc]
  refine expect_bind (fun colon => ?_) nofun
  rw [Parser.pure_bind]
  exact (nexts key).mono (List.subset_append_left ..)

end Expect

theorem expectName : Points known Parser.expectName :=
  accept rfl _

theorem expect {kind : TokenKind} (notEnd : kind ≠ .eof) : Points known (Parser.expect kind) :=
  accept (by simpa using notEnd.symm) _

theorem expectSymbol {mark : Symbol} : Points known (Parser.expectSymbol mark) :=
  expect nofun

theorem expectText : Points known Parser.expectText :=
  (expect (by simp)).bind fun _ => pure _

theorem expectFlag : Points known Parser.expectFlag :=
  (accept rfl _).bind fun _ => pure _

theorem takeFound {find : List Token → Option α} {length : α → Nat} :
    Points known (Parser.takeFound find length) := by
  intro stop tokens
  unfold Parser.takeFound
  split
  · next found _ => exact .ok (tokens.take (length found)) (List.take_append_drop _ _).symm
  · exact .ok [] rfl

theorem takeIf {length : Nat} {test : List Token → Bool} :
    Points known (Parser.takeIf length test) :=
  takeFound.bind fun _ => pure _

theorem option (kind : TokenKind) : Points known (Parser.option kind) :=
  takeIf

theorem flag (word : String) : Points known (Parser.flag word) :=
  takeIf

theorem skipCommas : Points known Parser.skipCommas :=
  fun _ _ => .ok (List.takeWhile _ _) List.takeWhile_append_dropWhile.symm

/-! ### Repetition -/

theorem loop {more : σ → List Token → Bool} {step : σ → Parser σ}
    (steps : ∀ state, Points known (step state)) (state : σ) :
    Points known (Parser.loop more step state) := by
  intro stop tokens
  refine Parser.loop_induct (motive := fun _ tokens outcome => outcome.Points known stop tokens)
    ?_ ?_ ?_ state tokens
  · exact fun _ _ _ => .ok [] rfl
  · exact fun state tokens _ _ => steps state stop tokens
  · intro state next tokens rest reports outcome _ run later
    have begun := steps state stop tokens
    rw [run] at begun
    cases begun with
    | ok row whole =>
      rw [whole, Outcome.after_nil]
      exact (later.mono (List.subset_append_left known row)).behind

theorem untilClosed (close : Symbol) {step : σ → Parser σ}
    (steps : ∀ state, Points known (step state)) (state : σ) :
    Points known (Parser.untilClosed close step state) :=
  loop steps state

theorem itemsUntil (close : Symbol) {item : Parser α} (items : Points known item) :
    Points known (Parser.itemsUntil close item) :=
  untilClosed close (fun _ => items.bind fun _ => skipCommas.bind fun _ => pure _) []

theorem commaSeparated {item : Parser α} (items : Points known item) :
    Points known (Parser.commaSeparated item) :=
  (loop (fun _ => items.bind fun _ => (option _).bind fun _ => pure _) _).bind fun _ => pure _

theorem mapM {f : γ → Parser α} (items : ∀ item, Points known (f item)) (list : List γ) :
    Points known (list.mapM f) := by
  induction list with
  | nil => exact pure _
  | cons item list ih =>
    rw [List.mapM_cons]
    exact (items item).bind fun _ => ih.bind fun _ => pure _

end Points

end Blueprint
