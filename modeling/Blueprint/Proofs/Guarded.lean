import Blueprint.Proofs.ParserLaws

/-!
Parsers put together from guarded moves. A move leaves an end of the tokens in front of which it
begins, and a round of a repetition that goes on has taken a token. What happens while such a parser
runs, at any depth, happens inside of the tokens that it was given, and every completed round leads
to a later place; so the repetitions end of themselves.
-/
set_option autoImplicit false

namespace Blueprint

/-- The tokens that an outcome leaves. -/
def Outcome.rest {α : Type} : Outcome α → List Token
  | .ok _ rest _ => rest
  | .failed _ rest _ => rest

@[simp] theorem Outcome.rest_after {α : Type} (earlier : List SyntaxDiagnostic)
    (outcome : Outcome α) : (outcome.after earlier).rest = outcome.rest := by
  cases outcome <;> rfl

/-- Whether a step takes a token whenever it is made and succeeds. -/
def TakesWhile {σ : Type} (more : σ → List Token → Bool) (step : σ → Parser σ) : Prop :=
  ∀ stop state tokens next rest reports, more state tokens = true →
    step state stop tokens = .ok next rest reports → rest.length < tokens.length

/-- A repetition whose rounds take tokens is not cut short by the condition that they do. -/
theorem TakesWhile.loop_eq {σ : Type} {more : σ → List Token → Bool} {step : σ → Parser σ}
    (takes : TakesWhile more step) (state : σ) (stop : Position) (tokens : List Token) :
    Parser.loop more step state stop tokens =
      if more state tokens then
        (step state >>= Parser.loop more step : Parser σ) stop tokens
      else .ok state tokens [] := by
  rw [Parser.loop]
  split
  · next goesOn =>
    cases run : step state stop tokens with
    | failed failure rest reports => exact (Parser.bind_run_failed run _).symm
    | ok next rest reports =>
      simp only [takes stop state tokens next rest reports goesOn run, if_true]
      exact (Parser.bind_run_ok run _).symm
  · rfl

/-- A parser put together from moves of the cursor: each of them leaves an end of the tokens, and a
round of a repetition takes one of them, if it succeeds. -/
inductive Guarded : {α : Type} → Parser α → Prop where
  | pure {α : Type} (value : α) : Guarded (Pure.pure value : Parser α)
  | current : Guarded Parser.current
  | advance : Guarded Parser.advance
  | fail {α : Type} (problem : SyntaxProblem) (place : Position) :
    Guarded (Parser.fail problem place : Parser α)
  | failOversized {α : Type} : Guarded (Parser.failOversized : Parser α)
  | report (problem : SyntaxProblem) (place : Position) : Guarded (Parser.report problem place)
  | unexpected {α : Type} (expected : Expectation) : Guarded (Parser.unexpected expected : Parser α)
  | takeFound {β : Type} (find : List Token → Option β) (length : β → Nat) :
    Guarded (Parser.takeFound find length)
  | skip {σ : Type} {scan : σ → List Token → List Token} (scans : Scans scan) (state : σ) :
    Guarded (Parser.skip (scan state))
  | bind {α β : Type} {first : Parser α} {next : α → Parser β} (firsts : Guarded first)
    (nexts : ∀ value, Guarded (next value)) : Guarded (first >>= next)
  | loop {σ : Type} {more : σ → List Token → Bool} {step : σ → Parser σ}
    (steps : ∀ state, Guarded (step state)) (takes : TakesWhile more step) (state : σ) :
    Guarded (Parser.loop more step state)
  | orRetry {α : Type} {first second : Parser α} (firsts : Guarded first)
    (seconds : Guarded second) : Guarded (Parser.orRetry first second)
  | orResume {α : Type} {first : Parser α} {recover : List Token → Parser α}
    (firsts : Guarded first) (recovers : ∀ began, Guarded (recover began)) :
    Guarded (Parser.orResume first recover)
  | choose {α : Type} {part : List Token → Parser α} (parts : ∀ tokens, Guarded (part tokens)) :
    Guarded (fun stop tokens => part tokens stop tokens : Parser α)

namespace Guarded

variable {α β σ γ : Type}

/-- What a guarded parser leaves is an end of the tokens, whether it succeeds or fails. -/
theorem suffix {parser : Parser α} (guarded : Guarded parser) (stop : Position)
    (tokens : List Token) : (parser stop tokens).rest <:+ tokens := by
  induction guarded generalizing tokens with
  | pure | current | fail | failOversized | report | unexpected => exact List.suffix_refl tokens
  | advance => exact List.drop_suffix 1 tokens
  | skip scans state => exact scans.suffix state tokens
  | takeFound find length =>
    unfold Parser.takeFound
    split
    · exact List.drop_suffix _ tokens
    · exact List.suffix_refl tokens
  | @bind _ _ first next _ _ ih ih' =>
    have begun := ih tokens
    rw [Parser.bind_run]
    cases run : first stop tokens with
    | failed failure rest reports => rwa [run] at begun
    | ok value rest reports =>
      rw [run] at begun
      simp only [Outcome.rest_after]
      exact (ih' value rest).trans begun
  | @loop _ more step _ _ state ih =>
    refine Parser.loop_induct (motive := fun _ tokens outcome => outcome.rest <:+ tokens)
      ?_ ?_ ?_ state tokens
    · exact fun _ tokens _ => List.suffix_refl tokens
    · exact fun state tokens _ _ => ih state tokens
    · intro state next tokens rest reports outcome _ run later
      have begun := ih state tokens
      rw [run] at begun
      rw [Outcome.rest_after]
      exact later.trans begun
  | @orRetry _ first second _ _ ih ih' =>
    have begun := ih tokens
    unfold Parser.orRetry
    split
    · rw [Outcome.rest_after]
      exact ih' tokens
    · exact begun
  | @orResume _ first recover _ _ ih ih' =>
    have begun := ih tokens
    unfold Parser.orResume
    split
    · next run =>
      rw [run] at begun
      rw [Outcome.rest_after]
      exact (ih' tokens _).trans begun
    · exact begun
  | choose _ ih => exact ih tokens tokens

theorem suffix_of_ok {parser : Parser α} (guarded : Guarded parser) {stop : Position}
    {tokens rest : List Token} {value : α} {reports : List SyntaxDiagnostic}
    (run : parser stop tokens = .ok value rest reports) : rest <:+ tokens := by
  have left := guarded.suffix stop tokens
  rwa [run] at left

end Guarded

/-! ## What happens while a parser runs -/

/-- What happens while a parser runs: a part of it begins at a place, or a round of a repetition has
led from one place to another. Places are given by the tokens that are left there. -/
inductive Occurrence where
  | begins (place : List Token)
  | round (began ended : List Token)

/-- Whether something happens while a parser runs from a place, in it or in any part of it. A
repetition goes on as long as there is more, whether or not its rounds take any token. Each token
that is passed over is a round of that passage. -/
inductive Occurs (stop : Position) :
    {α : Type} → {parser : Parser α} → Guarded parser → List Token → Occurrence → Prop where
  | here {α : Type} {parser : Parser α} (guarded : Guarded parser) (tokens : List Token) :
    Occurs stop guarded tokens (.begins tokens)
  | passed {σ : Type} {scan : σ → List Token → List Token} {scans state token rest}
    (leaves : scan state (token :: rest) ≠ token :: rest) :
    Occurs stop (@Guarded.skip σ scan scans state) (token :: rest) (.round (token :: rest) rest)
  | passing {σ : Type} {scan : σ → List Token → List Token} {scans state token rest event}
    {next : σ} (goesOn : scan state (token :: rest) = scan next rest)
    (occurs : Occurs stop (@Guarded.skip σ scan scans next) rest event) :
    Occurs stop (@Guarded.skip σ scan scans state) (token :: rest) event
  | first {α β : Type} {first : Parser α} {next : α → Parser β} {firsts nexts tokens event}
    (occurs : Occurs stop firsts tokens event) :
    Occurs stop (@Guarded.bind α β first next firsts nexts) tokens event
  | next {α β : Type} {first : Parser α} {next : α → Parser β} {firsts nexts tokens event}
    {value : α} {rest : List Token} {reports : List SyntaxDiagnostic}
    (run : first stop tokens = .ok value rest reports)
    (occurs : Occurs stop (nexts value) rest event) :
    Occurs stop (@Guarded.bind α β first next firsts nexts) tokens event
  | step {σ : Type} {more : σ → List Token → Bool} {step : σ → Parser σ}
    {steps takes state tokens event} (goesOn : more state tokens = true)
    (occurs : Occurs stop (steps state) tokens event) :
    Occurs stop (@Guarded.loop σ more step steps takes state) tokens event
  | round {σ : Type} {more : σ → List Token → Bool} {step : σ → Parser σ}
    {steps takes state tokens} {next : σ} {rest : List Token} {reports : List SyntaxDiagnostic}
    (goesOn : more state tokens = true) (run : step state stop tokens = .ok next rest reports) :
    Occurs stop (@Guarded.loop σ more step steps takes state) tokens (.round tokens rest)
  | again {σ : Type} {more : σ → List Token → Bool} {step : σ → Parser σ}
    {steps takes state tokens event} {next : σ} {rest : List Token}
    {reports : List SyntaxDiagnostic} (goesOn : more state tokens = true)
    (run : step state stop tokens = .ok next rest reports)
    (occurs : Occurs stop (@Guarded.loop σ more step steps takes next) rest event) :
    Occurs stop (@Guarded.loop σ more step steps takes state) tokens event
  | attempt {α : Type} {first second : Parser α} {firsts seconds tokens event}
    (occurs : Occurs stop firsts tokens event) :
    Occurs stop (@Guarded.orRetry α first second firsts seconds) tokens event
  | retry {α : Type} {first second : Parser α} {firsts seconds tokens event}
    {diagnostic : SyntaxDiagnostic} {rest : List Token} {reports : List SyntaxDiagnostic}
    (run : first stop tokens = .failed (.syntaxError diagnostic) rest reports)
    (occurs : Occurs stop seconds tokens event) :
    Occurs stop (@Guarded.orRetry α first second firsts seconds) tokens event
  | begun {α : Type} {first : Parser α} {recover : List Token → Parser α}
    {firsts recovers tokens event} (occurs : Occurs stop firsts tokens event) :
    Occurs stop (@Guarded.orResume α first recover firsts recovers) tokens event
  | resume {α : Type} {first : Parser α} {recover : List Token → Parser α}
    {firsts recovers tokens event} {diagnostic : SyntaxDiagnostic} {rest : List Token}
    {reports : List SyntaxDiagnostic}
    (run : first stop tokens = .failed (.syntaxError diagnostic) rest reports)
    (occurs : Occurs stop (recovers tokens) rest event) :
    Occurs stop (@Guarded.orResume α first recover firsts recovers) tokens event
  | chosen {α : Type} {part : List Token → Parser α} {parts tokens event}
    (occurs : Occurs stop (parts tokens) tokens event) :
    Occurs stop (@Guarded.choose α part parts) tokens event

/-- Whether an event is one inside of some tokens, and if it is a round, leads on. -/
inductive Occurrence.Within (tokens : List Token) : Occurrence → Prop where
  | begins {place : List Token} (inside : place <:+ tokens) : Within tokens (.begins place)
  | round {began ended : List Token} (inside : began <:+ tokens) (onward : ended <:+ began)
    (taken : ended.length < began.length) : Within tokens (.round began ended)

theorem Occurrence.Within.behind {tokens rest : List Token} {event : Occurrence}
    (within : event.Within rest) (left : rest <:+ tokens) : event.Within tokens := by
  cases within with
  | begins inside => exact .begins (inside.trans left)
  | round inside onward taken => exact .round (inside.trans left) onward taken

/-- Whatever happens while a guarded parser runs happens inside of the tokens that it was given, and
every round takes a token. -/
theorem Occurs.within {stop : Position} {α : Type} {parser : Parser α} {guarded : Guarded parser}
    {tokens : List Token} {event : Occurrence} (occurs : Occurs stop guarded tokens event) :
    event.Within tokens := by
  induction occurs with
  | here => exact .begins (List.suffix_refl _)
  | passed => exact .round (List.suffix_refl _) (List.suffix_cons _ _) (Nat.lt_succ_self _)
  | passing _ _ ih => exact ih.behind (List.suffix_cons _ _)
  | first _ ih => exact ih
  | @next _ _ _ _ firsts _ _ _ _ _ _ run _ ih => exact ih.behind (firsts.suffix_of_ok run)
  | step _ _ ih => exact ih
  | @round _ _ _ steps takes state _ _ _ _ goesOn run =>
    exact .round (List.suffix_refl _) ((steps state).suffix_of_ok run) (takes _ _ _ _ _ _ goesOn run)
  | @again _ _ _ steps _ state _ _ _ _ _ _ run _ ih => exact ih.behind ((steps state).suffix_of_ok run)
  | attempt _ ih => exact ih
  | retry _ _ ih => exact ih
  | begun _ ih => exact ih
  | @resume _ _ _ firsts _ tokens _ _ _ _ run _ ih =>
    have left := firsts.suffix stop tokens
    rw [run] at left
    exact ih.behind left
  | chosen _ ih => exact ih

/-! ## Parsers that take a token -/

/-- A guarded parser that takes a token whenever it succeeds. -/
structure Advancing {α : Type} (parser : Parser α) : Prop where
  guarded : Guarded parser
  takes {stop : Position} {tokens rest : List Token} {value : α} {reports : List SyntaxDiagnostic}
    (run : parser stop tokens = .ok value rest reports) : rest.length < tokens.length

namespace Advancing

variable {α β : Type}

theorem fail (problem : SyntaxProblem) (place : Position) :
    Advancing (Parser.fail problem place : Parser α) :=
  ⟨.fail problem place, nofun⟩

theorem unexpected (expected : Expectation) : Advancing (Parser.unexpected expected : Parser α) :=
  ⟨.unexpected expected, nofun⟩

/-- A token is taken first. -/
theorem bind {first : Parser α} {next : α → Parser β} (firsts : Advancing first)
    (nexts : ∀ value, Guarded (next value)) : Advancing (first >>= next) where
  guarded := .bind firsts.guarded nexts
  takes run := by
    obtain ⟨value, between, _, _, run', run'', _⟩ := Parser.bind_eq_ok run
    have taken := firsts.takes run'
    have left := ((nexts value).suffix_of_ok run'').length_le
    omega

/-- A token is taken later. -/
theorem behind {first : Parser α} {next : α → Parser β} (firsts : Guarded first)
    (nexts : ∀ value, Advancing (next value)) : Advancing (first >>= next) where
  guarded := .bind firsts fun value => (nexts value).guarded
  takes run := by
    obtain ⟨value, between, _, _, run', run'', _⟩ := Parser.bind_eq_ok run
    have left := (firsts.suffix_of_ok run').length_le
    have taken := (nexts value).takes run''
    omega

theorem accept {allowed : TokenKind → Bool} (notAtEnd : allowed .eof = false)
    (expected : Expectation) : Advancing (Parser.accept allowed expected) where
  guarded := by
    refine .bind .current fun token => ?_
    split
    · exact .advance
    · exact .unexpected expected
  takes run := by
    obtain ⟨rfl, _⟩ := Parser.accept_eq_ok notAtEnd run
    simp

theorem expectName : Advancing Parser.expectName :=
  accept rfl _

theorem expect {kind : TokenKind} (notEnd : kind ≠ .eof) : Advancing (Parser.expect kind) :=
  accept (by simpa using notEnd.symm) _

theorem expectSymbol {mark : Symbol} : Advancing (Parser.expectSymbol mark) :=
  expect nofun

theorem expectText : Advancing Parser.expectText :=
  (expect (by simp)).bind fun _ => .pure _

theorem expectFlag : Advancing Parser.expectFlag :=
  (accept rfl _).bind fun _ => .pure _

theorem expectKey : Advancing Parser.expectKey :=
  expectName.bind fun _ => .bind expectSymbol.guarded fun _ => .pure _

end Advancing

namespace Guarded

variable {α β σ γ : Type}

theorem isAt (kind : TokenKind) : Guarded (Parser.isAt kind) :=
  .bind .current fun _ => .pure _

theorem expectName : Guarded Parser.expectName :=
  Advancing.expectName.guarded

theorem expectSymbol {mark : Symbol} : Guarded (Parser.expectSymbol mark) :=
  Advancing.expectSymbol.guarded

theorem expectText : Guarded Parser.expectText :=
  Advancing.expectText.guarded

theorem expectFlag : Guarded Parser.expectFlag :=
  Advancing.expectFlag.guarded

theorem takeIf {length : Nat} {test : List Token → Bool} : Guarded (Parser.takeIf length test) :=
  .bind (.takeFound _ _) fun _ => .pure _

theorem option (kind : TokenKind) : Guarded (Parser.option kind) :=
  takeIf

theorem flag (word : String) : Guarded (Parser.flag word) :=
  takeIf

theorem skipCommas : Guarded Parser.skipCommas := by
  refine @Guarded.skip Unit (fun _ => Parser.afterCommas) ⟨fun _ => rfl, fun _ token rest => ?_⟩ ()
  rw [Parser.afterCommas, List.dropWhile_cons]
  split
  · exact .inr (.inr ⟨(), rfl⟩)
  · exact .inl rfl

/-- A repetition of which every step takes a token. -/
theorem rounds {more : σ → List Token → Bool} {step : σ → Parser σ}
    (steps : ∀ state, Advancing (step state)) (state : σ) :
    Guarded (Parser.loop more step state) :=
  .loop (fun state => (steps state).guarded) (fun _ state _ _ _ _ _ run => (steps state).takes run)
    state

theorem untilClosed {close : Symbol} {step : σ → Parser σ} (steps : ∀ state, Advancing (step state))
    (state : σ) : Guarded (Parser.untilClosed close step state) :=
  rounds steps state

theorem itemsUntil {close : Symbol} {item : Parser α} (items : Advancing item) :
    Guarded (Parser.itemsUntil close item) :=
  untilClosed (fun _ => items.bind fun _ => .bind skipCommas fun _ => .pure _) []

theorem commaSeparated {item : Parser α} (items : Advancing item) :
    Guarded (Parser.commaSeparated item) :=
  .bind (rounds (fun _ => items.bind fun _ => .bind (option _) fun _ => .pure _) _) fun _ => .pure _

theorem mapM {f : γ → Parser α} (items : ∀ item, Guarded (f item)) (list : List γ) :
    Guarded (list.mapM f) := by
  induction list with
  | nil => exact .pure _
  | cons item list ih =>
    rw [List.mapM_cons]
    exact .bind (items item) fun _ => .bind ih fun _ => .pure _

end Guarded

namespace Advancing

variable {α β : Type}

/-- Some tokens are taken where a test holds, and otherwise later. -/
theorem takeIf_bind {length : Nat} {test : List Token → Bool} {next : Bool → Parser β}
    (some : 0 < length) (notEmpty : test [] = false) (found : Guarded (next true))
    (missing : Advancing (next false)) : Advancing (Parser.takeIf length test >>= next) where
  guarded := .bind .takeIf fun taken => by cases taken with
    | true => exact found
    | false => exact missing.guarded
  takes {_ tokens _ _ _} run := by
    rw [Parser.bind_run, Parser.takeIf_run] at run
    cases holds : test tokens with
    | false =>
      simp only [holds, Bool.false_eq_true, if_false, Outcome.after_nil] at run
      exact missing.takes run
    | true =>
      simp only [holds, if_true, Outcome.after_nil] at run
      have left := (found.suffix_of_ok run).length_le
      cases tokens with
      | nil =>
        rw [notEmpty] at holds
        contradiction
      | cons token tokens =>
        simp only [List.length_drop, List.length_cons] at left ⊢
        omega

theorem flag_bind {word : String} {next : Bool → Parser β} (found : Guarded (next true))
    (missing : Advancing (next false)) : Advancing (Parser.flag word >>= next) :=
  takeIf_bind Nat.one_pos rfl found missing

theorem option_bind {kind : TokenKind} {next : Bool → Parser β} (found : Guarded (next true))
    (missing : Advancing (next false)) : Advancing (Parser.option kind >>= next) :=
  takeIf_bind Nat.one_pos rfl found missing

/-- An entry begins with its key. -/
theorem entry {content : Token → Parser α} {next : Token → α → β}
    (contents : ∀ key, Guarded (content key)) :
    Advancing (Parser.expectKey >>= fun key => content key >>= fun found =>
      Parser.skipCommas >>= fun _ => Pure.pure (next key found)) :=
  expectKey.bind fun key => .bind (contents key) fun _ => .bind .skipCommas fun _ => .pure _

/-- A group begins with its opening mark. -/
theorem group {opening closing : Symbol} {content : Parser α} {next : Token → α → Parser β}
    (contents : Guarded content) (nexts : ∀ token found, Guarded (next token found)) :
    Advancing (Parser.expectSymbol opening >>= fun token => content >>= fun found =>
      Parser.expectSymbol closing >>= fun _ => next token found) :=
  expectSymbol.bind fun token => .bind contents fun found => .bind .expectSymbol fun _ =>
    nexts token found

end Advancing

/-- What is found where a parser begins is taken, whatever is read behind it. -/
theorem Guarded.takes_found {α β : Type} {find : List Token → Option α} {length : α → Nat}
    {next : Option α → Parser β} (nexts : ∀ found, Guarded (next found))
    (notEmpty : find [] = none) (long : ∀ found, 0 < length found) {stop : Position}
    {tokens rest : List Token} {value : β} {reports : List SyntaxDiagnostic}
    (isFound : (find tokens).isSome = true)
    (run : (Parser.takeFound find length >>= next) stop tokens = .ok value rest reports) :
    rest.length < tokens.length := by
  obtain ⟨found, isFound⟩ := Option.isSome_iff_exists.mp isFound
  have taken : Parser.takeFound find length stop tokens =
      .ok (some found) (tokens.drop (length found)) [] := by
    rw [Parser.takeFound, isFound]
  rw [Parser.bind_run_clean taken] at run
  have left := ((nexts _).suffix_of_ok run).length_le
  cases tokens with
  | nil =>
    rw [notEmpty] at isFound
    contradiction
  | cons token tokens =>
    have positive := long found
    simp only [List.length_drop, List.length_cons] at left ⊢
    omega

end Blueprint
