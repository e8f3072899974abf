import Blueprint.Proofs.GrammarPointing
import Blueprint.Proofs.OpenGroups

/-!
What the parts of a header come to: a key with its colon, the value of an attribute, the value that is
passed over, and the reports of attributes that are missing. Where the value of an attribute fails
inside of a group, passing over the value leads behind the place of the failure.
-/
set_option autoImplicit false

namespace Blueprint

open Grammar

/-! ## Keys -/

theorem accept_refused {allowed : TokenKind → Bool} {stop : Position} {tokens : List Token}
    (misfit : allowed (currentToken stop tokens).kind = false) (expected : Expectation) :
    Parser.accept allowed expected stop tokens =
      .failed (.syntaxError (.unexpected expected (currentToken stop tokens))) tokens [] := by
  unfold Parser.accept
  rw [Parser.bind_run_clean rfl]
  change (if allowed (currentToken stop tokens).kind then Parser.advance
    else Parser.unexpected expected) stop tokens = _
  rw [misfit]
  rfl

/-- A token of an allowed kind is taken, or the current one is reported as unexpected. -/
theorem accept_cases {allowed : TokenKind → Bool} (notAtEnd : allowed .eof = false)
    (expected : Expectation) (stop : Position) (tokens : List Token) :
    (∃ token rest, tokens = token :: rest ∧ allowed token.kind = true ∧
      Parser.accept allowed expected stop tokens = .ok token rest []) ∨
    Parser.accept allowed expected stop tokens =
      .failed (.syntaxError (.unexpected expected (currentToken stop tokens))) tokens [] := by
  cases isAllowed : allowed (currentToken stop tokens).kind with
  | false => exact .inr (accept_refused isAllowed expected)
  | true =>
    cases tokens with
    | nil => exact absurd isAllowed (by simp [currentToken, Parser.endToken, notAtEnd])
    | cons token rest =>
      exact .inl ⟨token, rest, rfl, isAllowed, Parser.accept_run isAllowed expected stop rest⟩

theorem expectSymbol_run {mark : Symbol} {token : Token} (isMark : token.kind = .symbol mark)
    (stop : Position) (rest : List Token) :
    Parser.expectSymbol mark stop (token :: rest) = .ok token rest [] :=
  Parser.accept_run (by simp [isMark]) _ stop rest

theorem expectKey_run {key colon : Token} (isName : key.kind.isName = true)
    (isColon : colon.kind = .symbol .colon) (stop : Position) (rest : List Token) :
    Parser.expectKey stop (key :: colon :: rest) = .ok key rest [] := by
  rw [Parser.expectKey, Parser.expectName, Parser.bind_run_clean (Parser.accept_run isName _ _ _),
    Parser.bind_run_clean (expectSymbol_run isColon _ _)]
  rfl

/-- A key is taken with its colon, or the first token is no name, or the second one is no colon. -/
theorem expectKey_cases (stop : Position) (tokens : List Token) :
    (∃ key colon rest, tokens = key :: colon :: rest ∧ key.kind.isName = true ∧
      colon.kind = .symbol .colon ∧ Parser.expectKey stop tokens = .ok key rest []) ∨
    Parser.expectKey stop tokens =
      .failed (.syntaxError (.unexpected .name (currentToken stop tokens))) tokens [] ∨
    ∃ key rest, tokens = key :: rest ∧ Parser.expectKey stop tokens = .failed (.syntaxError
      (.unexpected (.kinds [.symbol .colon]) (currentToken stop rest))) rest [] := by
  rw [Parser.expectKey]
  have notName : TokenKind.isName .eof = false := rfl
  rcases accept_cases notName .name stop tokens with ⟨key, rest, rfl, isName, named⟩ | unnamed
  · have noEnd : [TokenKind.symbol .colon].contains .eof = false := rfl
    rcases accept_cases noEnd (.kinds [.symbol .colon]) stop rest with
      ⟨colon, rest', rfl, isColon, marked⟩ | unmarked
    · exact .inl ⟨key, colon, rest', rfl, isName, by simpa using isColon,
        expectKey_run isName (by simpa using isColon) stop rest'⟩
    · refine .inr (.inr ⟨key, rest, rfl, ?_⟩)
      exact (Parser.bind_run_clean named _).trans (Parser.bind_run_failed unmarked _)
  · exact .inr (.inl (Parser.bind_run_failed unnamed _))

/-! ## Passing over a value -/

/-- Inside of a group, what closes no more than has been opened is passed over as a whole. -/
theorem afterValue_row {row : List Token} {depth : Nat}
    (inside : ∀ front back, row = front ++ back → -(depth : Int) ≤ excess front)
    (rest : List Token) :
    afterValue (depth + 1) (row ++ rest) = afterValue (excess row + depth + 1).toNat rest := by
  induction row generalizing depth with
  | nil =>
    simp only [List.nil_append, excess]
    congr 1
    omega
  | cons token row ih =>
    have first : -(depth : Int) ≤ weight token := by
      simpa [excess] using inside [token] row rfl
    have later (depth' : Nat) (same : (depth' : Int) = depth + weight token) :
        afterValue (depth' + 1) (row ++ rest) =
          afterValue (excess (token :: row) + depth + 1).toNat rest := by
      rw [ih fun front back whole => ?_]
      · rw [same, excess]
        congr 1
        omega
      · have bound := inside (token :: front) back (by rw [whole]; rfl)
        rw [excess] at bound
        omega
    rw [List.cons_append, afterValue]
    split
    · next opens =>
      refine later (depth + 1) ?_
      rcases Bool.or_eq_true_iff.mp opens with isOpening | isOpening <;>
        simp [weight, beq_iff_eq.mp isOpening]
    · split
      · next closes =>
        have falls : weight token = -1 := by
          rcases Bool.or_eq_true_iff.mp closes with isClosing | isClosing <;>
            simp [weight, beq_iff_eq.mp isClosing]
        obtain ⟨depth, rfl⟩ : ∃ less, depth = less + 1 := ⟨depth - 1, by omega⟩
        rw [if_neg (by simp)]
        exact later depth (by rw [falls]; push_cast; omega)
      · next notOpening notClosing =>
        refine later depth ?_
        have level : weight token = 0 := by
          unfold weight
          split <;> simp_all
        omega

/-- Passing over a group leads behind all that begins its content. -/
theorem afterValue_begun {first : Token} {row : List Token} {opening closing : Symbol}
    (pair : Pair opening closing) (opens : first.kind = .symbol opening) (begun : Begun row)
    (rest : List Token) :
    afterValue 0 (first :: (row ++ rest)) = afterValue (excess row + 1).toNat rest := by
  have inside (front back : List Token) (whole : row = front ++ back) :
      -((0 : Nat) : Int) ≤ excess front := by
    rw [whole] at begun
    simpa using begun.left.excess_nonneg
  have passed := afterValue_row inside rest
  have enters : afterValue 0 (first :: (row ++ rest)) = afterValue 1 (row ++ rest) := by
    cases pair <;> simp [afterValue, opens]
  rw [enters]
  simpa using passed

/-! ## Passing over tokens -/

/-- Whether a parser always comes to an end of the tokens, without a report. -/
def PassesOver {α : Type} (parser : Parser α) : Prop :=
  ∀ stop tokens, ∃ value rest, parser stop tokens = .ok value rest [] ∧ rest <:+ tokens

namespace PassesOver

variable {α β σ : Type}

theorem pure (value : α) : PassesOver (Pure.pure value) :=
  fun _ tokens => ⟨value, tokens, rfl, List.suffix_refl tokens⟩

theorem bind {first : Parser α} {next : α → Parser β} (firsts : PassesOver first)
    (nexts : ∀ value, PassesOver (next value)) : PassesOver (first >>= next) := by
  intro stop tokens
  obtain ⟨middle, between, run, left⟩ := firsts stop tokens
  obtain ⟨value, rest, run', left'⟩ := nexts middle stop between
  exact ⟨value, rest, (Parser.bind_run_clean run _).trans run', left'.trans left⟩

theorem skip {keep : List Token → List Token} (keeps : ∀ tokens, keep tokens <:+ tokens) :
    PassesOver (Parser.skip keep) :=
  fun _ tokens => ⟨(), keep tokens, rfl, keeps tokens⟩

theorem skipCommas : PassesOver Parser.skipCommas :=
  skip fun _ => List.dropWhile_suffix _

theorem skipValue : PassesOver Grammar.skipValue :=
  skip (scans_afterValue.suffix 0)

theorem advance : PassesOver Parser.advance :=
  fun _ tokens => ⟨_, tokens.drop 1, rfl, List.drop_suffix 1 tokens⟩

theorem isAt (kind : TokenKind) : PassesOver (Parser.isAt kind) :=
  fun _ tokens => ⟨_, tokens, rfl, List.suffix_refl tokens⟩

theorem loop {more : σ → List Token → Bool} {step : σ → Parser σ} (steps : ∀ state, PassesOver (step state))
    (state : σ) : PassesOver (Parser.loop more step state) := by
  intro stop tokens
  refine Parser.loop_induct (motive := fun _ tokens outcome =>
    ∃ value rest, outcome = .ok value rest [] ∧ rest <:+ tokens) ?_ ?_ ?_ state tokens
  · exact fun state tokens _ => ⟨state, tokens, rfl, List.suffix_refl tokens⟩
  · exact fun state tokens _ _ => steps state stop tokens
  · rintro state next tokens rest reports _ _ run ⟨value, left, rfl, further⟩
    obtain ⟨next', rest', run', left'⟩ := steps state stop tokens
    rw [run, Outcome.ok.injEq] at run'
    obtain ⟨rfl, rfl, rfl⟩ := run'
    exact ⟨value, left, rfl, further.trans left'⟩

end PassesOver

/-- Recovery inside of a header leaves out one token at least. -/
theorem skipToAttribute_run (stop : Position) (tokens : List Token) :
    ∃ rest, skipToAttribute stop tokens = .ok () rest [] ∧ rest <:+ tokens.drop 1 := by
  have passes : PassesOver (Parser.loop
      (fun _ tokens => !endsHeader tokens && !startsAttribute tokens)
      (fun _ => do
        if ← Parser.isAt (.symbol .rightBracket) then
          let _ ← Parser.advance
        else skipValue) ()) := by
    refine .loop (fun _ => (PassesOver.isAt _).bind fun atBracket => ?_) ()
    split
    · exact PassesOver.advance.bind fun _ => .pure _
    · exact .skipValue
  obtain ⟨_, rest, run, left⟩ := passes stop (tokens.drop 1)
  exact ⟨rest, (Parser.bind_run_clean rfl _).trans run, left⟩

/-- A key of a header is read with its colon; or the first token or the second is reported, and
recovery leaves out one token at least. -/
theorem headerKey_cases (stop : Position) (tokens : List Token) :
    (∃ key colon rest, tokens = key :: colon :: rest ∧ key.kind.isName = true ∧
      colon.kind = .symbol .colon ∧ headerKey stop tokens = .ok (some key) rest []) ∨
    ∃ expected blamed left, (blamed = currentToken stop tokens ∨
        blamed = currentToken stop (tokens.drop 1)) ∧
      headerKey stop tokens = .ok none left [.unexpected expected blamed] ∧
      left <:+ tokens.drop 1 := by
  obtain ⟨left, skips, suffix⟩ := skipToAttribute_run stop tokens
  have recovered {diagnostic : SyntaxDiagnostic} {rest : List Token}
      (fails : Parser.expectKey stop tokens = .failed (.syntaxError diagnostic) rest []) :
      headerKey stop tokens = .ok none left [diagnostic] := by
    unfold headerKey Parser.orRetry
    rw [Parser.bind_run_failed fails]
    simp only [Parser.bind_run_clean skips, Parser.pure_run, Outcome.after_ok, List.nil_append,
      List.append_nil]
  rcases expectKey_cases stop tokens with ⟨key, colon, rest, rfl, isName, isColon, run⟩ | run |
    ⟨key, rest, rfl, run⟩
  · refine .inl ⟨key, colon, rest, rfl, isName, isColon, ?_⟩
    exact Parser.orRetry_run_ok (Parser.bind_run_clean run _) _
  · exact .inr ⟨_, _, left, .inl rfl, recovered run, suffix⟩
  · exact .inr ⟨_, _, left, .inr rfl, recovered run, suffix⟩

/-! ## Values that fail -/

/-- Where a group fails, nothing has been taken, or its opening mark and a beginning of its content. -/
theorem group_failed {α β : Type} {opening closing : Symbol} {inner : Parser α} {use : α → β}
    (inners : Keeps Nests inner) {stop : Position} {tokens rest : List Token} {failure : Failure}
    {reports : List SyntaxDiagnostic}
    (fails : (Parser.expectSymbol opening >>= fun _ => inner >>= fun found =>
      Parser.expectSymbol closing >>= fun _ => pure (use found)) stop tokens =
        .failed failure rest reports) :
    rest = tokens ∨ ∃ first row, tokens = first :: (row ++ rest) ∧
      first.kind = .symbol opening ∧ Begun row := by
  rcases expectSymbol_outcome opening stop tokens with
    ⟨first, others, rfl, opens, run⟩ | ⟨diagnostic, run⟩
  · rw [Parser.bind_run_clean run] at fails
    have filled := inners stop others
    cases content : inner stop others with
    | failed failure' rest' reports' =>
      rw [Parser.bind_run_failed content, Outcome.failed.injEq] at fails
      rw [content, fails.2.1] at filled
      cases filled with
      | failed row whole begun => exact .inr ⟨first, row, by rw [whole], opens, begun⟩
    | ok found rest' reports' =>
      rw [Parser.bind_run_ok content] at fails
      rw [content] at filled
      cases filled with
      | ok row whole nested =>
        rcases expectSymbol_outcome closing stop rest' with
          ⟨last, others', rfl, _, run'⟩ | ⟨diagnostic, run'⟩
        · rw [Parser.bind_run_clean run'] at fails
          contradiction
        · rw [Parser.bind_run_failed run', Outcome.after_failed, Outcome.failed.injEq] at fails
          rw [← fails.2.1]
          exact .inr ⟨first, row, by rw [whole], opens, nested.begun⟩
  · rw [Parser.bind_run_failed run, Outcome.failed.injEq] at fails
    exact .inl fails.2.1.symm

theorem afterValue_of_group {opening closing : Symbol} (pair : Pair opening closing)
    {tokens rest : List Token} (taken : rest = tokens ∨ ∃ first row, tokens = first :: (row ++ rest) ∧
      first.kind = .symbol opening ∧ Begun row) :
    afterValue 0 tokens <:+ rest := by
  rcases taken with rfl | ⟨first, row, rfl, opens, begun⟩
  · exact scans_afterValue.suffix 0 rest
  · rw [afterValue_begun pair opens begun]
    exact scans_afterValue.suffix _ rest

theorem theme_failed {stop : Position} {tokens rest : List Token} {failure : Failure}
    {reports : List SyntaxDiagnostic} (fails : theme stop tokens = .failed failure rest reports) :
    rest = tokens ∨ ∃ first row, tokens = first :: (row ++ rest) ∧
      first.kind = .symbol .leftBrace ∧ Begun row :=
  group_failed (inherited_nests.untilClosed .rightBrace (fun _ =>
    inherited_nests.bind inherited_nests.expectKey fun _ =>
      inherited_nests.bind inherited_nests.expectText fun _ =>
        inherited_nests.bind inherited_nests.skipCommas fun _ => inherited_nests.pure _) _) fails

/-- Whether passing over a value leads to the place where a parser fails in it, or behind it. -/
def Overtaken {α : Type} (parser : Parser α) : Prop :=
  ∀ stop tokens failure rest reports, parser stop tokens = .failed failure rest reports →
    afterValue 0 tokens <:+ rest

namespace Overtaken

theorem map {α β : Type} {first : Parser α} {use : α → β} (overtaken : Overtaken first) :
    Overtaken (first >>= fun found => pure (use found)) := by
  intro stop tokens failure rest reports fails
  cases run : first stop tokens with
  | ok =>
    rw [Parser.bind_run_ok run] at fails
    contradiction
  | failed =>
    rw [Parser.bind_run_failed run, Outcome.failed.injEq] at fails
    obtain ⟨rfl, rfl, rfl⟩ := fails
    exact overtaken _ _ _ _ _ run

theorem fail {α : Type} (problem : SyntaxProblem) (place : Position) :
    Overtaken (Parser.fail problem place : Parser α) := by
  intro stop tokens failure rest reports fails
  rw [Parser.fail, Outcome.failed.injEq] at fails
  rw [← fails.2.1]
  exact scans_afterValue.suffix 0 tokens

theorem expectText : Overtaken Parser.expectText := by
  intro stop tokens failure rest reports fails
  have noEnd : [TokenKind.string].contains .eof = false := rfl
  rcases accept_cases noEnd (.kinds [.string]) stop tokens with ⟨token, others, rfl, _, run⟩ | run
  · have read : Parser.expectText stop (token :: others) = .ok token.value others [] :=
      Parser.bind_run_clean run _
    rw [read] at fails
    contradiction
  · have unread : Parser.expectText stop tokens = .failed _ tokens [] := Parser.bind_run_failed run _
    rw [unread, Outcome.failed.injEq] at fails
    rw [← fails.2.1]
    exact scans_afterValue.suffix 0 tokens

theorem theme : Overtaken Grammar.theme := by
  intro stop tokens failure rest reports fails
  exact afterValue_of_group .braces (theme_failed fails)

theorem platforms : Overtaken Grammar.platforms := by
  intro stop tokens failure rest reports fails
  refine afterValue_of_group .brackets (group_failed (inherited_nests.commaSeparated ?_) fails)
  refine inherited_nests.bind inherited_nests.expectName fun name => ?_
  simp only
  split
  · exact inherited_nests.bind (inherited_nests.report _ _) fun _ => inherited_nests.pure _
  · exact inherited_nests.pure _

theorem headerAttribute (key : Token) (header : Header) :
    Overtaken (Grammar.headerAttribute key header) := by
  unfold Grammar.headerAttribute
  split
  · exact expectText.map
  · exact expectText.map
  · exact expectText.map
  · exact platforms.map
  · exact theme.map
  · exact fail _ _

end Overtaken

/-! ## Failures over the grammar -/

/-- Whether an outcome, if it is a failure, is one over the grammar. -/
def OnGrammar (α : Type) (_tokens : List Token) (outcome : Outcome α) : Prop :=
  ∀ rest reports, outcome ≠ .failed .oversizedInteger rest reports

theorem composable_onGrammar : Composable OnGrammar where
  still _ _ _ := nofun
  misfit _ _ := by simp [OnGrammar]
  taken _ _ _ _ := nofun
  onward {_ _ _ _ _ _ outcome} _ second := by
    intro rest reports
    cases outcome with
    | ok => nofun
    | failed failure left later =>
      intro oversized
      rw [Outcome.after_failed, Outcome.failed.injEq] at oversized
      exact second left later (by rw [oversized.1])
  failed {_ _ _ rest failure reports} first := by
    intro rest' reports' oversized
    rw [Outcome.failed.injEq] at oversized
    exact first rest reports (by rw [oversized.1])

namespace OnGrammar

theorem expectSymbol (mark : Symbol) : Keeps OnGrammar (Parser.expectSymbol mark) := by
  intro stop tokens
  rcases expectSymbol_outcome mark stop tokens with ⟨_, _, _, _, run⟩ | ⟨diagnostic, run⟩
  · rw [run]
    exact nofun
  · rw [run]
    exact composable_onGrammar.misfit diagnostic tokens

theorem theme : Keeps OnGrammar Grammar.theme := by
  refine composable_onGrammar.bind (expectSymbol _) fun _ => composable_onGrammar.bind
    (composable_onGrammar.untilClosed .rightBrace (fun _ => ?_) _) fun _ =>
      composable_onGrammar.bind (expectSymbol _) fun _ => composable_onGrammar.pure _
  exact composable_onGrammar.bind composable_onGrammar.expectKey fun _ =>
    composable_onGrammar.bind composable_onGrammar.expectText fun _ =>
      composable_onGrammar.bind composable_onGrammar.skipCommas fun _ => composable_onGrammar.pure _

theorem platforms : Keeps OnGrammar Grammar.platforms := by
  refine composable_onGrammar.bind (expectSymbol _) fun _ => composable_onGrammar.bind
    (composable_onGrammar.commaSeparated (composable_onGrammar.bind composable_onGrammar.expectName
      fun name => ?_)) fun _ =>
      composable_onGrammar.bind (expectSymbol _) fun _ => composable_onGrammar.pure _
  simp only
  split
  · exact composable_onGrammar.bind (composable_onGrammar.report _ _) fun _ => composable_onGrammar.pure _
  · exact composable_onGrammar.pure _

end OnGrammar

/-- Apart from the platforms, no attribute reports anything before it fails. -/
theorem Points.headerAttribute {known : List Token} {key : Token} (isKnown : key ∈ known)
    (notPlatforms : key.value ≠ "platforms") (header : Header) :
    Points known (Grammar.headerAttribute key header) := by
  unfold Grammar.headerAttribute
  split
  · exact Points.expectText.bind fun _ => .pure _
  · exact Points.expectText.bind fun _ => .pure _
  · exact Points.expectText.bind fun _ => .pure _
  · contradiction
  · exact Points.theme.bind fun _ => .pure _
  · exact .fail (by nofun) isKnown

/-! ## Attributes that are missing -/

/-- The reports of the attributes that a header should have and of which no key has been met. -/
def missingReports (app : String) (place : Position) (seen : List String) : List SyntaxDiagnostic :=
  (requiredAttributes.filter fun required => !seen.contains required).map fun required =>
    ⟨.incompleteApp app required, place⟩

theorem reportMissing_reports (app : String) (place : Position) (seen : List String) (stop : Position)
    (tokens : List Token) :
    reportMissing app place seen stop tokens = .ok () tokens (missingReports app place seen) := by
  rw [reportMissing, List.forM_eq_forM, missingReports]
  generalize requiredAttributes = keys
  induction keys with
  | nil => rfl
  | cons key keys ih =>
    rw [List.forM_cons, List.filter_cons]
    split
    · exact (Parser.bind_run_ok rfl _).trans (congrArg _ ih)
    · rw [pure_bind]
      exact ih

end Blueprint
