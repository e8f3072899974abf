import Blueprint.Document.Parser

/-!
Parsers as a lawful monad, what a success of a composed parser says about its parts, the induction
along a repetition, and passages over tokens.
-/
set_option autoImplicit false

namespace Blueprint

variable {α β : Type}

namespace Outcome

@[simp] theorem after_nil (outcome : Outcome α) : outcome.after [] = outcome := by
  cases outcome <;> rfl

@[simp] theorem after_ok (earlier : List SyntaxDiagnostic) (value : α) (rest : List Token)
    (reports : List SyntaxDiagnostic) :
    (ok value rest reports).after earlier = ok value rest (earlier ++ reports) := rfl

@[simp] theorem after_failed (earlier : List SyntaxDiagnostic) (failure : Failure)
    (rest : List Token) (reports : List SyntaxDiagnostic) :
    (failed failure rest reports : Outcome α).after earlier =
      failed failure rest (earlier ++ reports) := rfl

theorem after_after (first second : List SyntaxDiagnostic) (outcome : Outcome α) :
    (outcome.after second).after first = outcome.after (first ++ second) := by
  cases outcome <;> simp

theorem after_eq_ok {earlier reports : List SyntaxDiagnostic} {outcome : Outcome α} {value : α}
    {rest : List Token} (success : outcome.after earlier = .ok value rest reports) :
    ∃ later, outcome = .ok value rest later ∧ reports = earlier ++ later := by
  cases outcome with
  | ok value' rest' later =>
    simp only [after_ok, ok.injEq] at success
    obtain ⟨rfl, rfl, rfl⟩ := success
    exact ⟨later, rfl, rfl⟩
  | failed failure rest' later => simp at success

end Outcome

namespace Parser

@[simp] theorem pure_run (value : α) (stop : Position) (tokens : List Token) :
    (pure value : Parser α) stop tokens = .ok value tokens [] := rfl

theorem bind_run (first : Parser α) (next : α → Parser β) (stop : Position)
    (tokens : List Token) : (first >>= next) stop tokens =
      match first stop tokens with
      | .ok value rest reports => (next value stop rest).after reports
      | .failed failure rest reports => .failed failure rest reports := rfl

theorem bind_run_ok {first : Parser α} {stop : Position} {tokens rest : List Token} {value : α}
    {reports : List SyntaxDiagnostic} (run : first stop tokens = .ok value rest reports)
    (next : α → Parser β) :
    (first >>= next) stop tokens = (next value stop rest).after reports := by
  rw [bind_run, run]

theorem bind_run_clean {first : Parser α} {stop : Position} {tokens rest : List Token} {value : α}
    (run : first stop tokens = .ok value rest []) (next : α → Parser β) :
    (first >>= next) stop tokens = next value stop rest := by
  rw [bind_run_ok run, Outcome.after_nil]

theorem bind_run_failed {first : Parser α} {stop : Position} {tokens rest : List Token}
    {failure : Failure} {reports : List SyntaxDiagnostic}
    (run : first stop tokens = .failed failure rest reports) (next : α → Parser β) :
    (first >>= next) stop tokens = .failed failure rest reports := by
  rw [bind_run, run]

theorem bind_run_congr {first first' : Parser α} {stop : Position} {tokens tokens' : List Token}
    (same : first stop tokens = first' stop tokens') (next : α → Parser β) :
    (first >>= next) stop tokens = (first' >>= next) stop tokens' := by
  rw [bind_run, bind_run, same]

protected theorem bind_pure (first : Parser α) : first >>= pure = first := by
  funext stop tokens
  rw [bind_run]
  cases first stop tokens <;> simp

protected theorem pure_bind (value : α) (next : α → Parser β) :
    pure value >>= next = next value := by
  funext stop tokens
  exact bind_run_clean rfl next

protected theorem bind_assoc {γ : Type} (first : Parser α) (second : α → Parser β)
    (third : β → Parser γ) :
    first >>= second >>= third = first >>= fun value => second value >>= third := by
  funext stop tokens
  simp only [bind_run]
  cases first stop tokens with
  | failed failure rest reports => rfl
  | ok value rest reports =>
    simp only
    cases second value stop rest with
    | failed failure rest' reports' => rfl
    | ok value' rest' reports' => simp [Outcome.after_after]

instance : LawfulMonad Parser :=
  LawfulMonad.mk' Parser Parser.bind_pure Parser.pure_bind Parser.bind_assoc

/-- A composed parser that succeeds does so in both parts. -/
theorem bind_eq_ok {first : Parser α} {next : α → Parser β} {stop : Position}
    {tokens rest : List Token} {value : β} {reports : List SyntaxDiagnostic}
    (success : (first >>= next) stop tokens = .ok value rest reports) :
    ∃ middle between earlier later, first stop tokens = .ok middle between earlier ∧
      next middle stop between = .ok value rest later ∧ reports = earlier ++ later := by
  cases run : first stop tokens with
  | failed failure rest' reports' =>
    rw [bind_run_failed run] at success
    contradiction
  | ok middle between earlier =>
    rw [bind_run_ok run] at success
    obtain ⟨later, second, whole⟩ := Outcome.after_eq_ok success
    exact ⟨middle, between, earlier, later, rfl, second, whole⟩

/-- A composed parser that succeeds without a report does so in both parts. -/
theorem bind_eq_clean {first : Parser α} {next : α → Parser β} {stop : Position}
    {tokens rest : List Token} {value : β}
    (success : (first >>= next) stop tokens = .ok value rest []) :
    ∃ middle between, first stop tokens = .ok middle between [] ∧
      next middle stop between = .ok value rest [] := by
  obtain ⟨middle, between, earlier, later, run, second, whole⟩ := bind_eq_ok success
  obtain ⟨rfl, rfl⟩ := List.append_eq_nil_iff.mp whole.symm
  exact ⟨middle, between, run, second⟩

/-- Whether all that a parser delivers without a report has a property. -/
def Yields (property : α → Prop) (parser : Parser α) : Prop :=
  ∀ (stop : Position) (tokens rest : List Token) (value : α),
    parser stop tokens = .ok value rest [] → property value

theorem Yields.pure {property : α → Prop} {value : α} (holds : property value) :
    Yields property (Pure.pure value) := by
  intro stop tokens rest value' success
  simp only [pure_run, Outcome.ok.injEq] at success
  exact success.1 ▸ holds

theorem Yields.bind {property : β → Prop} {first : Parser α} {next : α → Parser β}
    (nexts : ∀ value, Yields property (next value)) : Yields property (first >>= next) := by
  intro stop tokens rest value success
  obtain ⟨middle, between, _, run⟩ := bind_eq_clean success
  exact nexts middle stop between rest value run

/-! ## Taking a token of an allowed kind -/

theorem accept_run {allowed : TokenKind → Bool} {token : Token}
    (isAllowed : allowed token.kind = true) (expected : Expectation) (stop : Position)
    (rest : List Token) : accept allowed expected stop (token :: rest) = .ok token rest [] := by
  unfold accept
  rw [bind_run_clean rfl]
  simp only [List.head?_cons, Option.getD_some, isAllowed, if_true]
  rfl

theorem accept_eq_ok {allowed : TokenKind → Bool} {expected : Expectation} {stop : Position}
    {tokens rest : List Token} {token : Token} {reports : List SyntaxDiagnostic}
    (notAtEnd : allowed .eof = false)
    (success : accept allowed expected stop tokens = .ok token rest reports) :
    tokens = token :: rest ∧ allowed token.kind = true := by
  unfold accept at success
  rw [bind_run_clean rfl] at success
  cases tokens with
  | nil =>
    simp only [List.head?_nil, Option.getD_none, endToken, notAtEnd] at success
    contradiction
  | cons first others =>
    cases isAllowed : allowed first.kind with
    | false =>
      simp only [List.head?_cons, Option.getD_some, isAllowed] at success
      contradiction
    | true =>
      simp only [List.head?_cons, Option.getD_some, isAllowed, if_true, advance,
        List.drop_succ_cons, List.drop_zero, Outcome.ok.injEq] at success
      obtain ⟨rfl, rfl, _⟩ := success
      exact ⟨rfl, isAllowed⟩

/-- A parser that takes a token takes the current one if it is allowed, and nothing otherwise. -/
theorem accept_outcome {allowed : TokenKind → Bool} (notAtEnd : allowed .eof = false)
    (expected : Expectation) (stop : Position) (tokens : List Token) :
    (∃ token rest, tokens = token :: rest ∧ allowed token.kind = true ∧
      accept allowed expected stop tokens = .ok token rest []) ∨
    ∃ diagnostic, accept allowed expected stop tokens = .failed (.syntaxError diagnostic) tokens [] := by
  cases tokens with
  | nil =>
    refine .inr ⟨.unexpected expected (endToken stop), ?_⟩
    unfold accept
    rw [bind_run_clean rfl]
    simp only [List.head?_nil, Option.getD_none, endToken, notAtEnd]
    rfl
  | cons token rest =>
    cases isAllowed : allowed token.kind with
    | true => exact .inl ⟨token, rest, rfl, isAllowed, accept_run isAllowed expected stop rest⟩
    | false =>
      refine .inr ⟨.unexpected expected token, ?_⟩
      unfold accept
      rw [bind_run_clean rfl]
      simp only [List.head?_cons, Option.getD_some, isAllowed]
      rfl

/-- Where a kind is asked for, a token of it is taken or nothing is. -/
theorem expect_outcome {kind : TokenKind} (notAtEnd : kind ≠ .eof) (stop : Position)
    (tokens : List Token) :
    (∃ token rest, tokens = token :: rest ∧ token.kind = kind ∧
      expect kind stop tokens = .ok token rest []) ∨
    ∃ diagnostic, expect kind stop tokens = .failed (.syntaxError diagnostic) tokens [] := by
  have notAllowed : [kind].contains .eof = false := by simpa using notAtEnd.symm
  rcases accept_outcome notAllowed (.kinds [kind]) stop tokens with
    ⟨token, rest, whole, isAllowed, run⟩ | ⟨diagnostic, run⟩
  · exact .inl ⟨token, rest, whole, by simpa using isAllowed, run⟩
  · exact .inr ⟨diagnostic, run⟩

/-! ## Taking tokens if a test holds -/

theorem takeIf_run (length : Nat) (test : List Token → Bool) (stop : Position)
    (tokens : List Token) : takeIf length test stop tokens =
      if test tokens then .ok true (tokens.drop length) [] else .ok false tokens [] := by
  unfold takeIf
  rw [bind_run, takeFound]
  cases test tokens <;> rfl

/-! ## Recovery -/

section Recovery

variable {first : Parser α} {stop : Position} {tokens rest : List Token} {value : α}

/-- A second attempt goes on from where the first one began, wherever that one failed. -/
theorem orRetry_eq_orResume (first second : Parser α) :
    orRetry first second = orResume first fun began stop _ => second stop began := rfl

theorem orRetry_run_ok {reports : List SyntaxDiagnostic}
    (run : first stop tokens = .ok value rest reports) (second : Parser α) :
    orRetry first second stop tokens = .ok value rest reports := by
  rw [orRetry, run]

theorem orResume_run_ok {reports : List SyntaxDiagnostic}
    (run : first stop tokens = .ok value rest reports) (recover : List Token → Parser α) :
    orResume first recover stop tokens = .ok value rest reports := by
  rw [orResume, run]

theorem after_reported_ne_clean (outcome : Outcome α) (reports : List SyntaxDiagnostic)
    (diagnostic : SyntaxDiagnostic) :
    outcome.after (reports ++ [diagnostic]) ≠ .ok value rest [] := by
  intro success
  obtain ⟨later, _, whole⟩ := Outcome.after_eq_ok success
  simp at whole

/-- A parser that succeeds without a report has not recovered from anything. -/
theorem orResume_eq_clean {recover : List Token → Parser α}
    (success : orResume first recover stop tokens = .ok value rest []) :
    first stop tokens = .ok value rest [] := by
  unfold orResume at success
  cases run : first stop tokens with
  | ok value' rest' reports => simpa only [run] using success
  | failed failure rest' reports =>
    cases failure with
    | oversizedInteger => simp [run] at success
    | syntaxError diagnostic =>
      simp only [run] at success
      exact absurd success (after_reported_ne_clean _ _ _)

/-- A parser that succeeds without a report has not needed its second attempt. -/
theorem orRetry_eq_clean {second : Parser α}
    (success : orRetry first second stop tokens = .ok value rest []) :
    first stop tokens = .ok value rest [] := by
  rw [orRetry_eq_orResume] at success
  exact orResume_eq_clean success

end Recovery

/-! ## Repetition -/

section Loop

variable {more : α → List Token → Bool} {step : α → Parser α} {state next : α} {stop : Position}
  {tokens rest : List Token} {reports : List SyntaxDiagnostic}

theorem loop_stop (stops : more state tokens = false) :
    loop more step state stop tokens = .ok state tokens [] := by
  rw [loop, stops]
  rfl

theorem loop_step (goesOn : more state tokens = true)
    (run : step state stop tokens = .ok next rest reports) (shorter : rest.length < tokens.length) :
    loop more step state stop tokens = (loop more step next stop rest).after reports := by
  rw [loop, if_pos goesOn, run]
  simp only [if_pos shorter]

/-- What a repetition comes to: nothing, what its last step comes to, which fails or takes no token, or
what it comes to behind a step, after the reports of the step. -/
theorem loop_induct {motive : α → List Token → Outcome α → Prop}
    (stops : ∀ state tokens, more state tokens = false → motive state tokens (.ok state tokens []))
    (last : ∀ state tokens, more state tokens = true →
      (∀ next rest reports, step state stop tokens = .ok next rest reports →
        tokens.length ≤ rest.length) → motive state tokens (step state stop tokens))
    (onward : ∀ {state next tokens rest reports outcome}, more state tokens = true →
      step state stop tokens = .ok next rest reports → motive next rest outcome →
        motive state tokens (outcome.after reports))
    (state : α) (tokens : List Token) :
    motive state tokens (loop more step state stop tokens) := by
  -- The tokens left shrink with every step that is not the last.
  induction length : tokens.length using Nat.strongRecOn generalizing tokens state with
  | ind size ih =>
    subst length
    rw [loop]
    split
    · next goesOn =>
      have here := last state tokens goesOn
      cases run : step state stop tokens with
      | failed failure rest reports =>
        rw [run] at here
        exact here nofun
      | ok next rest reports =>
        rw [run] at here
        simp only
        split
        · next shorter => exact onward goesOn run (ih _ shorter next rest rfl)
        · next notShorter =>
          refine here ?_
          rintro _ _ _ ⟨⟩
          exact Nat.le_of_not_lt notShorter
    · next stopped => exact stops state tokens (Bool.not_eq_true _ ▸ stopped)

/-- A repetition that succeeds without a report has nothing more to do, or has done one step and goes
on with the rest, or its last step has taken no token. -/
theorem loop_eq_clean (success : loop more step state stop tokens = .ok next rest []) :
    (more state tokens = false ∧ next = state ∧ rest = tokens) ∨
      more state tokens = true ∧ ∃ middle between, step state stop tokens = .ok middle between [] ∧
        if between.length < tokens.length then
          loop more step middle stop between = .ok next rest []
        else middle = next ∧ between = rest := by
  rw [loop] at success
  split at success
  · next goesOn =>
    cases run : step state stop tokens with
    | failed failure between reports =>
      rw [run] at success
      contradiction
    | ok middle between reports =>
      simp only [run] at success
      split at success
      · next shorter =>
        obtain ⟨later, run', whole⟩ := Outcome.after_eq_ok success
        obtain ⟨rfl, rfl⟩ := List.append_eq_nil_iff.mp whole.symm
        exact .inr ⟨goesOn, middle, between, rfl, by rw [if_pos shorter]; exact run'⟩
      · next notShorter =>
        simp only [Outcome.ok.injEq] at success
        obtain ⟨rfl, rfl, rfl⟩ := success
        exact .inr ⟨goesOn, middle, between, rfl, by rw [if_neg notShorter]; exact ⟨rfl, rfl⟩⟩
  · next stops =>
    simp only [Outcome.ok.injEq, and_true] at success
    obtain ⟨rfl, rfl⟩ := success
    exact .inl ⟨Bool.not_eq_true _ ▸ stops, rfl, rfl⟩

/-- The rounds of a repetition that succeeds without a report: they end where there is nothing more to
do, or with one that takes no token, and every other one takes some. -/
theorem loop_induct_clean {motive : α → List Token → Prop}
    (stops : more next rest = false → motive next rest)
    (last : ∀ {state tokens}, more state tokens = true → step state stop tokens = .ok next rest [] →
      tokens.length ≤ rest.length → motive state tokens)
    (onward : ∀ {state middle tokens between}, more state tokens = true →
      step state stop tokens = .ok middle between [] → between.length < tokens.length →
        motive middle between → motive state tokens)
    (success : loop more step state stop tokens = .ok next rest []) : motive state tokens := by
  -- The tokens left shrink with every step that is not the last.
  induction length : tokens.length using Nat.strongRecOn generalizing tokens state with
  | ind size ih =>
    subst length
    rcases loop_eq_clean success with ⟨done, rfl, rfl⟩ | ⟨goesOn, middle, between, run, continues⟩
    · exact stops done
    · split at continues
      · next shorter => exact onward goesOn run shorter (ih _ shorter continues rfl)
      · next notShorter =>
        obtain ⟨rfl, rfl⟩ := continues
        exact last goesOn run (Nat.le_of_not_lt notShorter)

/-- What every step preserves, the repetition does. -/
theorem loop_preserves {invariant : α → Prop}
    (steps : ∀ {state next : α} {tokens rest : List Token},
      step state stop tokens = .ok next rest [] → invariant state → invariant next)
    (success : loop more step state stop tokens = .ok next rest []) (holds : invariant state) :
    invariant next := by
  refine loop_induct_clean (motive := fun state _ => invariant state → invariant next)
    ?_ ?_ ?_ success holds
  · exact fun _ holds => holds
  · exact fun _ run _ holds => steps run holds
  · exact fun _ run _ later holds => later (steps run holds)

end Loop

end Parser

/-! ## Commas -/

def Commas (row : List Token) : Prop := ∀ token ∈ row, token.kind = .symbol .comma

theorem afterCommas_append {commas rest : List Token} (areCommas : Commas commas)
    (ends : Parser.startsWith (.symbol .comma) rest = false) :
    Parser.afterCommas (commas ++ rest) = rest := by
  induction commas with
  | nil =>
    cases rest with
    | nil => rfl
    | cons token rest => exact List.dropWhile_cons_of_neg (by simpa [Parser.startsWith] using ends)
  | cons comma commas ih =>
    rw [List.cons_append, Parser.afterCommas, List.dropWhile_cons_of_pos
      (by simp [areCommas comma List.mem_cons_self])]
    exact ih fun token member => areCommas token (List.mem_cons_of_mem comma member)

theorem exists_commas (tokens : List Token) :
    ∃ commas, Commas commas ∧ tokens = commas ++ Parser.afterCommas tokens :=
  ⟨_, fun token member => by
    simpa using List.all_eq_true.mp List.all_takeWhile token member,
    List.takeWhile_append_dropWhile.symm⟩

theorem afterCommas_ends (tokens : List Token) :
    Parser.startsWith (.symbol .comma) (Parser.afterCommas tokens) = false := by
  induction tokens with
  | nil => rfl
  | cons token tokens ih =>
    cases isComma : token.kind == .symbol .comma with
    | true => rwa [Parser.afterCommas, List.dropWhile_cons_of_pos (by simpa using isComma)]
    | false => rwa [Parser.afterCommas, List.dropWhile_cons_of_neg (by simp [isComma])]

/-! ## Passing over tokens -/

/-- A passage over tokens takes them one by one: at a token it ends, in front of it or behind it, or
goes on behind it. -/
structure Scans {σ : Type} (scan : σ → List Token → List Token) : Prop where
  nil (state : σ) : scan state [] = []
  cons (state : σ) (token : Token) (rest : List Token) :
    scan state (token :: rest) = token :: rest ∨ scan state (token :: rest) = rest ∨
      ∃ next, scan state (token :: rest) = scan next rest

theorem Scans.suffix {σ : Type} {scan : σ → List Token → List Token} (scans : Scans scan)
    (state : σ) (tokens : List Token) : scan state tokens <:+ tokens := by
  induction tokens generalizing state with
  | nil => simp [scans.nil]
  | cons token rest ih =>
    rcases scans.cons state token rest with stays | ends | ⟨next, goesOn⟩
    · simp [stays]
    · rw [ends]
      exact List.suffix_cons token rest
    · rw [goesOn]
      exact (ih next).trans (List.suffix_cons token rest)

end Blueprint
