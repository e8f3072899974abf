import Blueprint.Proofs.ParserLaws

/-!
A parser that has read something without a complaint reads the same again before any tokens that it
cannot tell from those left: what it reads depends only on the tokens it takes and on those up to the
next right brace. A parser that takes such a brace last depends on nothing after it.
-/
set_option autoImplicit false

namespace Blueprint

variable {α β : Type}

/-! ## Parsers that read the same again -/

/-- Where the first parser succeeds without a report, it takes allowed tokens only; and the second one,
if these are fewer than the bound, does the same before any tokens that look like those left. -/
def Repeats (alike : List Token → List Token → Prop) (allowed : Token → Prop) (bound : Nat)
    (first second : Parser α) : Prop :=
  ∀ (stop : Position) (tokens rest : List Token) (value : α),
    first stop tokens = .ok value rest [] →
      ∃ taken, tokens = taken ++ rest ∧ (∀ token ∈ taken, allowed token) ∧
        (taken.length < bound → ∀ (stop' : Position) (rest' : List Token), alike rest rest' →
          second stop' (taken ++ rest') = .ok value rest' [])

namespace Repeats

variable {alike : List Token → List Token → Prop} {allowed : Token → Prop} {bound : Nat}

theorem pure (value : α) : Repeats alike allowed bound (Pure.pure value) (Pure.pure value) := by
  intro stop tokens rest value' success
  simp only [Parser.pure_run, Outcome.ok.injEq, and_true] at success
  obtain ⟨rfl, rfl⟩ := success
  exact ⟨[], rfl, fun _ member => absurd member List.not_mem_nil, fun _ _ _ _ => rfl⟩

theorem accept {kinds : TokenKind → Bool} (notAtEnd : kinds .eof = false)
    (allows : ∀ {token : Token}, kinds token.kind = true → allowed token) (expected : Expectation) :
    Repeats alike allowed bound (Parser.accept kinds expected) (Parser.accept kinds expected) := by
  intro stop tokens rest token success
  obtain ⟨rfl, isOne⟩ := Parser.accept_eq_ok notAtEnd success
  refine ⟨[token], rfl, ?_, fun _ stop' rest' _ => Parser.accept_run isOne _ _ _⟩
  exact List.forall_mem_singleton.mpr (allows isOne)

theorem skipCommas (allows : ∀ {token : Token}, token.kind = .symbol .comma → allowed token)
    (starts : ∀ {tokens tokens'}, alike tokens tokens' →
      Parser.startsWith (.symbol .comma) tokens = Parser.startsWith (.symbol .comma) tokens') :
    Repeats alike allowed bound Parser.skipCommas Parser.skipCommas := by
  intro stop tokens rest value success
  simp only [Parser.skipCommas, Parser.skip, Outcome.ok.injEq, and_true, true_and] at success
  subst success
  obtain ⟨commas, areCommas, whole⟩ := exists_commas tokens
  refine ⟨commas, whole, fun token member => allows (areCommas token member), ?_⟩
  intro _ stop' rest' same
  have ends := (starts same).symm.trans (afterCommas_ends tokens)
  simp only [Parser.skipCommas, Parser.skip, afterCommas_append areCommas ends]

section Appending

variable (appends : ∀ {rest rest' : List Token}, alike rest rest' → ∀ taken : List Token,
  alike (taken ++ rest) (taken ++ rest'))
include appends

theorem bind {first first' : Parser α} {next next' : α → Parser β}
    (firsts : Repeats alike allowed bound first first')
    (nexts : ∀ value, Repeats alike allowed bound (next value) (next' value)) :
    Repeats alike allowed bound (first >>= next) (first' >>= next') := by
  intro stop tokens rest value success
  obtain ⟨middle, between, run, run'⟩ := Parser.bind_eq_clean success
  obtain ⟨taken, rfl, allow, again⟩ := firsts stop tokens between middle run
  obtain ⟨taken', rfl, allow', again'⟩ := nexts middle stop between rest value run'
  refine ⟨taken ++ taken', (List.append_assoc taken taken' rest).symm, ?_, ?_⟩
  · exact List.forall_mem_append.mpr ⟨allow, allow'⟩
  · intro fewer stop' rest' same
    rw [List.length_append] at fewer
    have run := again (by omega) stop' (taken' ++ rest') (appends same taken')
    rw [List.append_assoc, Parser.bind_run_clean run]
    exact again' (by omega) stop' rest' same

theorem takeFound {find : List Token → Option α} {length : α → Nat}
    (finds : ∀ {tokens tokens'}, alike tokens tokens' → find tokens = find tokens')
    (takes : ∀ {tokens found}, find tokens = some found → ∃ taken rest, tokens = taken ++ rest ∧
      taken.length = length found ∧ ∀ token ∈ taken, allowed token) :
    Repeats alike allowed bound (Parser.takeFound find length) (Parser.takeFound find length) := by
  intro stop tokens rest value success
  unfold Parser.takeFound at success
  cases call : find tokens with
  | none =>
    simp only [call, Outcome.ok.injEq, and_true] at success
    obtain ⟨rfl, rfl⟩ := success
    refine ⟨[], rfl, fun _ member => absurd member List.not_mem_nil, fun _ stop' rest' same => ?_⟩
    simp only [Parser.takeFound, List.nil_append, ← finds same, call]
  | some found =>
    simp only [call, Outcome.ok.injEq, and_true] at success
    obtain ⟨rfl, rfl⟩ := success
    obtain ⟨taken, others, rfl, size, allow⟩ := takes call
    rw [← size, List.drop_left]
    refine ⟨taken, rfl, allow, fun _ stop' rest' same => ?_⟩
    simp only [Parser.takeFound, ← finds (appends same taken), call, ← size, List.drop_left]

theorem loop {more : α → List Token → Bool} {step step' : α → Parser α}
    (mores : ∀ {state tokens tokens'}, alike tokens tokens' →
      more state tokens = more state tokens')
    (steps : ∀ state, Repeats alike allowed bound (step state) (step' state)) (state : α) :
    Repeats alike allowed bound (Parser.loop more step state) (Parser.loop more step' state) := by
  intro stop tokens rest value success
  refine Parser.loop_induct_clean (motive := fun state tokens => ∃ taken, tokens = taken ++ rest ∧
    (∀ token ∈ taken, allowed token) ∧ (taken.length < bound → ∀ stop' rest', alike rest rest' →
      Parser.loop more step' state stop' (taken ++ rest') = .ok value rest' [])) ?_ ?_ ?_ success
  · intro stops
    refine ⟨[], rfl, fun _ member => absurd member List.not_mem_nil, fun _ stop' rest' same => ?_⟩
    exact Parser.loop_stop (mores same ▸ stops)
  · intro state tokens goesOn run notShorter
    obtain ⟨taken, rfl, allow, again⟩ := steps state stop tokens rest value run
    refine ⟨taken, rfl, allow, fun fewer stop' rest' same => ?_⟩
    have notShorter' : ¬ rest'.length < (taken ++ rest').length := by
      simp only [List.length_append] at notShorter ⊢
      omega
    rw [Parser.loop, ← mores (appends same taken), if_pos goesOn, again fewer stop' rest' same]
    simp only [if_neg notShorter']
  · intro state next tokens between goesOn run shorter later
    obtain ⟨taken, rfl, allow, again⟩ := steps state stop tokens between next run
    obtain ⟨taken', rfl, allow', again'⟩ := later
    refine ⟨taken ++ taken', (List.append_assoc taken taken' rest).symm, ?_, ?_⟩
    · exact List.forall_mem_append.mpr ⟨allow, allow'⟩
    · intro fewer stop' rest' same
      rw [List.length_append] at fewer
      have same' := appends same taken'
      have shorter' : (taken' ++ rest').length < (taken ++ (taken' ++ rest')).length := by
        simp only [List.length_append] at shorter ⊢
        omega
      rw [List.append_assoc, Parser.loop_step (mores (appends same' taken) ▸ goesOn)
        (again (by omega) stop' _ same') shorter', Outcome.after_nil]
      exact again' (by omega) stop' rest' same

end Appending

end Repeats

/-! ## The same tokens up to a right brace -/

/-- Token lists that are the same up to and including a right brace. -/
inductive SameToBrace : List Token → List Token → Prop where
  | brace {token : Token} {rest rest' : List Token} (closes : token.kind = .symbol .rightBrace) :
    SameToBrace (token :: rest) (token :: rest')
  | token {token : Token} {rest rest' : List Token} (tail : SameToBrace rest rest') :
    SameToBrace (token :: rest) (token :: rest')

theorem SameToBrace.append {rest rest' : List Token} (same : SameToBrace rest rest')
    (taken : List Token) : SameToBrace (taken ++ rest) (taken ++ rest') := by
  induction taken with
  | nil => exact same
  | cons token taken ih => exact .token ih

def HoldsBrace (tokens : List Token) : Prop :=
  ∃ token ∈ tokens, token.kind = .symbol .rightBrace

theorem HoldsBrace.same {taken : List Token} (holds : HoldsBrace taken)
    (rest rest' : List Token) : SameToBrace (taken ++ rest) (taken ++ rest') := by
  obtain ⟨token, member, closes⟩ := holds
  induction taken with
  | nil => exact absurd member List.not_mem_nil
  | cons first taken ih =>
    rcases List.mem_cons.mp member with rfl | later
    · exact .brace closes
    · exact .token (ih later)

/-- Whether a token starts some token of the language. -/
def Known (token : Token) : Prop := token.kind ≠ .unknown

/-- Where the first parser succeeds without a report, it takes known tokens only; and the second one,
if these are fewer than the bound, does the same before any tokens that are the same up to a right
brace. -/
def Local (bound : Nat) (first second : Parser α) : Prop :=
  ∀ (stop : Position) (tokens rest : List Token) (value : α),
    first stop tokens = .ok value rest [] →
      ∃ taken, tokens = taken ++ rest ∧ (∀ token ∈ taken, Known token) ∧
        (taken.length < bound → ∀ (stop' : Position) (rest' : List Token), SameToBrace rest rest' →
          second stop' (taken ++ rest') = .ok value rest' [])

/-- Where the parser succeeds without a report, it takes no token and looks at none. -/
def Settles (parser : Parser α) : Prop :=
  ∀ (stop : Position) (tokens rest : List Token) (value : α),
    parser stop tokens = .ok value rest [] →
      rest = tokens ∧ ∀ (stop' : Position) (tokens' : List Token),
        parser stop' tokens' = .ok value tokens' []

/-- Where the parser succeeds without a report, it takes known tokens with a right brace among them,
and looks at no others. -/
def Closes (parser : Parser α) : Prop :=
  ∀ (stop : Position) (tokens rest : List Token) (value : α),
    parser stop tokens = .ok value rest [] →
      ∃ taken, tokens = taken ++ rest ∧ (∀ token ∈ taken, Known token) ∧ HoldsBrace taken ∧
        ∀ (stop' : Position) (rest' : List Token), parser stop' (taken ++ rest') = .ok value rest' []

/-! ## Parsers that look at no token -/

namespace Settles

theorem pure (value : α) : Settles (Pure.pure value) := by
  intro stop tokens rest value' success
  simp only [Parser.pure_run, Outcome.ok.injEq, and_true] at success
  obtain ⟨rfl, rfl⟩ := success
  exact ⟨rfl, fun _ _ => rfl⟩

theorem fail (problem : SyntaxProblem) (place : Position) :
    Settles (Parser.fail problem place : Parser α) := by
  intro stop tokens rest value success
  contradiction

theorem failOversized : Settles (Parser.failOversized : Parser α) := by
  intro stop tokens rest value success
  contradiction

theorem report (problem : SyntaxProblem) (place : Position) :
    Settles (Parser.report problem place) := by
  intro stop tokens rest value success
  simp [Parser.report] at success

theorem bind {first : Parser α} {next : α → Parser β} (firsts : Settles first)
    (nexts : ∀ value, Settles (next value)) : Settles (first >>= next) := by
  intro stop tokens rest value success
  obtain ⟨middle, between, run, run'⟩ := Parser.bind_eq_clean success
  obtain ⟨rfl, always⟩ := firsts stop tokens between middle run
  obtain ⟨rfl, always'⟩ := nexts middle stop between rest value run'
  refine ⟨rfl, fun stop' tokens' => ?_⟩
  rw [Parser.bind_run_clean (always stop' tokens'), always']

theorem forM {γ : Type} {f : γ → Parser PUnit} (items : ∀ item, Settles (f item)) (list : List γ) :
    Settles (list.forM f) := by
  induction list with
  | nil => exact pure _
  | cons item list ih => exact (items item).bind fun _ => ih

theorem mapM {γ : Type} {f : γ → Parser α} (items : ∀ item, Settles (f item)) (list : List γ) :
    Settles (list.mapM f) := by
  induction list with
  | nil => exact pure _
  | cons item list ih =>
    rw [List.mapM_cons]
    exact (items item).bind fun _ => ih.bind fun _ => pure _

end Settles

/-! ## Parsers that look at tokens up to a right brace -/

namespace Local

variable {bound : Nat}

theorem ofRepeats {first second : Parser α}
    (repeats : Repeats SameToBrace Known bound first second) : Local bound first second :=
  repeats

theorem ofSettles {parser : Parser α} (settles : Settles parser) (bound : Nat) :
    Local bound parser parser := by
  intro stop tokens rest value success
  obtain ⟨rfl, always⟩ := settles stop tokens rest value success
  exact ⟨[], rfl, fun _ member => absurd member List.not_mem_nil, fun _ stop' rest' _ =>
    always stop' rest'⟩

theorem pure (value : α) : Local bound (Pure.pure value) (Pure.pure value) :=
  ofSettles (.pure value) bound

theorem fail (problem : SyntaxProblem) (place : Position) :
    Local bound (Parser.fail problem place : Parser α) (Parser.fail problem place) :=
  ofSettles (.fail problem place) bound

theorem report (problem : SyntaxProblem) (place : Position) :
    Local bound (Parser.report problem place) (Parser.report problem place) :=
  ofSettles (.report problem place) bound

theorem unexpected (expected : Expectation) (second : Parser α) :
    Local bound (Parser.unexpected expected) second := by
  intro stop tokens rest value success
  contradiction

theorem bind {first first' : Parser α} {next next' : α → Parser β}
    (firsts : Local bound first first') (nexts : ∀ value, Local bound (next value) (next' value)) :
    Local bound (first >>= next) (first' >>= next') :=
  ofRepeats (.bind SameToBrace.append firsts nexts)

/-- Without a bound nothing is asked of the second parser. -/
theorem unbounded {first second : Parser α} (firsts : Local bound first second)
    (third : Parser α) : Local 0 first third := by
  intro stop tokens rest value success
  obtain ⟨taken, whole, known, _⟩ := firsts stop tokens rest value success
  exact ⟨taken, whole, known, fun fewer => absurd fewer (Nat.not_lt_zero _)⟩

theorem mono {bound' : Nat} {first second : Parser α} (firsts : Local bound' first second)
    (less : bound ≤ bound') : Local bound first second := by
  intro stop tokens rest value success
  obtain ⟨taken, whole, known, again⟩ := firsts stop tokens rest value success
  exact ⟨taken, whole, known, fun fewer => again (Nat.lt_of_lt_of_le fewer less)⟩

theorem current : Local bound Parser.current Parser.current := by
  intro stop tokens rest token success
  simp only [Parser.current, Outcome.ok.injEq, and_true] at success
  obtain ⟨rfl, rfl⟩ := success
  refine ⟨[], rfl, fun _ member => absurd member List.not_mem_nil, fun _ stop' rest' same => ?_⟩
  cases same <;> rfl

theorem isAt (kind : TokenKind) : Local bound (Parser.isAt kind) (Parser.isAt kind) :=
  current.bind fun _ => pure _

/-! ### Taking tokens -/

/-- Kinds that can be asked for: neither the end of the source nor unknown tokens. -/
def Sound (allowed : TokenKind → Bool) : Prop :=
  allowed .eof = false ∧ allowed .unknown = false

theorem known_of_allowed {allowed : TokenKind → Bool} (noUnknown : allowed .unknown = false)
    {token : Token} (isAllowed : allowed token.kind = true) : Known token := by
  intro unknown
  rw [unknown, noUnknown] at isAllowed
  contradiction

theorem acceptThen {allowed : TokenKind → Bool} (sound : Sound allowed) {expected : Expectation}
    {next next' : Token → Parser α} (nexts : ∀ token, Local bound (next token) (next' token)) :
    Local (bound + 1) (Parser.accept allowed expected >>= next)
      (Parser.accept allowed expected >>= next') := by
  intro stop tokens rest value success
  obtain ⟨token, between, run, run'⟩ := Parser.bind_eq_clean success
  obtain ⟨rfl, isAllowed⟩ := Parser.accept_eq_ok sound.1 run
  obtain ⟨taken, rfl, known, again⟩ := nexts token stop between rest value run'
  refine ⟨token :: taken, rfl, ?_, ?_⟩
  · exact List.forall_mem_cons.mpr ⟨known_of_allowed sound.2 isAllowed, known⟩
  · intro fewer stop' rest' same
    rw [List.cons_append, Parser.bind_run_clean (Parser.accept_run isAllowed _ _ _)]
    exact again (by simpa using fewer) stop' rest' same

theorem accept {allowed : TokenKind → Bool} (sound : Sound allowed) (expected : Expectation) :
    Local bound (Parser.accept allowed expected) (Parser.accept allowed expected) :=
  ofRepeats (.accept sound.1 (known_of_allowed sound.2) expected)

theorem expect {kind : TokenKind} (sound : Sound [kind].contains) :
    Local bound (Parser.expect kind) (Parser.expect kind) :=
  accept sound _

theorem sound_symbol (mark : Symbol) : Sound [.symbol mark].contains := by
  cases mark <;> exact ⟨rfl, rfl⟩

theorem sound_keyword (keyword : Keyword) : Sound [.keyword keyword].contains := by
  cases keyword <;> exact ⟨rfl, rfl⟩

theorem expectSymbol (mark : Symbol) :
    Local bound (Parser.expectSymbol mark) (Parser.expectSymbol mark) :=
  expect (sound_symbol mark)

theorem expectKeyword (keyword : Keyword) :
    Local bound (Parser.expect (.keyword keyword)) (Parser.expect (.keyword keyword)) :=
  expect (sound_keyword keyword)

theorem expectName : Local bound Parser.expectName Parser.expectName :=
  accept ⟨rfl, rfl⟩ _

theorem expectText : Local bound Parser.expectText Parser.expectText :=
  (expect ⟨rfl, rfl⟩).bind fun _ => pure _

theorem expectFlag : Local bound Parser.expectFlag Parser.expectFlag :=
  (accept ⟨rfl, rfl⟩ _).bind fun _ => pure _

theorem expectKey : Local bound Parser.expectKey Parser.expectKey :=
  expectName.bind fun _ => (expectSymbol .colon).bind fun _ => pure _

/-! ### Looking ahead -/

theorem takeFound {find : List Token → Option α} {length : α → Nat}
    (finds : ∀ {tokens tokens'}, SameToBrace tokens tokens' → find tokens = find tokens')
    (takes : ∀ {tokens found}, find tokens = some found → ∃ taken rest, tokens = taken ++ rest ∧
      taken.length = length found ∧ ∀ token ∈ taken, Known token) :
    Local bound (Parser.takeFound find length) (Parser.takeFound find length) :=
  ofRepeats (.takeFound SameToBrace.append finds takes)

theorem takeIf {length : Nat} {test : List Token → Bool}
    (tests : ∀ {tokens tokens'}, SameToBrace tokens tokens' → test tokens = test tokens')
    (takes : ∀ {tokens}, test tokens = true → ∃ taken rest, tokens = taken ++ rest ∧
      taken.length = length ∧ ∀ token ∈ taken, Known token) :
    Local bound (Parser.takeIf length test) (Parser.takeIf length test) := by
  refine (takeFound ?_ ?_).bind fun _ => pure _
  · intro tokens tokens' same
    rw [tests same]
  · intro tokens found call
    split at call
    · next holds => exact takes holds
    · contradiction

theorem startsWith_same {kind : TokenKind} {tokens tokens' : List Token}
    (same : SameToBrace tokens tokens') :
    Parser.startsWith kind tokens = Parser.startsWith kind tokens' := by
  cases same <;> rfl

theorem stillOpen_same {close : Symbol} {tokens tokens' : List Token}
    (same : SameToBrace tokens tokens') :
    Parser.stillOpen close tokens = Parser.stillOpen close tokens' := by
  cases same <;> rfl

/-- A test of the first token, as what is taken where it holds. -/
theorem takes_first (test : TokenKind → Bool) (noUnknown : test .unknown = false) {token : Token}
    {rest : List Token} (holds : test token.kind = true) :
    ∃ taken rest', token :: rest = taken ++ rest' ∧ taken.length = 1 ∧
      ∀ token ∈ taken, Known token := by
  refine ⟨[token], rest, rfl, rfl, ?_⟩
  exact List.forall_mem_singleton.mpr (known_of_allowed noUnknown holds)

theorem option {kind : TokenKind} (known : kind ≠ .unknown) :
    Local bound (Parser.option kind) (Parser.option kind) := by
  refine takeIf startsWith_same ?_
  intro tokens holds
  cases tokens with
  | nil => contradiction
  | cons token rest =>
    exact takes_first (· == kind) (by simpa using known.symm) holds

theorem flag (word : String) : Local bound (Parser.flag word) (Parser.flag word) := by
  refine takeIf ?_ ?_
  · intro tokens tokens' same
    cases same with
    | brace closes => simp [Parser.startsWithFlag, closes, TokenKind.isName]
    | token tail => simp only [Parser.startsWithFlag, startsWith_same tail]
  · intro tokens holds
    cases tokens with
    | nil => contradiction
    | cons token rest =>
      simp only [Parser.startsWithFlag, Bool.and_eq_true] at holds
      exact takes_first TokenKind.isName rfl holds.1.1

theorem skipCommas : Local bound Parser.skipCommas Parser.skipCommas :=
  ofRepeats (.skipCommas (fun isComma => by simp [Known, isComma]) startsWith_same)

/-! ### Repetition and recovery -/

theorem loop {more : α → List Token → Bool} {step step' : α → Parser α}
    (mores : ∀ {state tokens tokens'}, SameToBrace tokens tokens' →
      more state tokens = more state tokens')
    (steps : ∀ state, Local bound (step state) (step' state)) (state : α) :
    Local bound (Parser.loop more step state) (Parser.loop more step' state) :=
  ofRepeats (.loop SameToBrace.append @mores steps state)

theorem untilClosed (close : Symbol) {step step' : α → Parser α}
    (steps : ∀ state, Local bound (step state) (step' state)) (state : α) :
    Local bound (Parser.untilClosed close step state) (Parser.untilClosed close step' state) :=
  loop stillOpen_same steps state

theorem itemsUntil (close : Symbol) {item item' : Parser α} (items : Local bound item item') :
    Local bound (Parser.itemsUntil close item) (Parser.itemsUntil close item') :=
  untilClosed close (fun _ => items.bind fun _ => skipCommas.bind fun _ => pure _) []

theorem commaSeparated {item item' : Parser α} (items : Local bound item item') :
    Local bound (Parser.commaSeparated item) (Parser.commaSeparated item') := by
  refine (loop ?_ ?_ _).bind fun _ => pure _
  · intro state tokens tokens' same
    rw [stillOpen_same same]
  · intro state
    exact items.bind fun _ => (option (by simp)).bind fun _ => pure _

theorem orRetry {first first' : Parser α} (firsts : Local bound first first')
    (second second' : Parser α) :
    Local bound (Parser.orRetry first second) (Parser.orRetry first' second') := by
  intro stop tokens rest value success
  obtain ⟨taken, whole, known, again⟩ :=
    firsts stop tokens rest value (Parser.orRetry_eq_clean success)
  refine ⟨taken, whole, known, fun fewer stop' rest' same => ?_⟩
  exact Parser.orRetry_run_ok (again fewer stop' rest' same) second'

end Local

/-! ## Parsers that take a right brace last -/

namespace Closes

theorem brace {next : Token → Parser α} (nexts : ∀ token, Settles (next token)) :
    Closes (Parser.expectSymbol .rightBrace >>= next) := by
  intro stop tokens rest value success
  obtain ⟨token, between, run, run'⟩ := Parser.bind_eq_clean success
  obtain ⟨rfl, isAllowed⟩ := Parser.accept_eq_ok rfl run
  obtain ⟨rfl, always⟩ := nexts token stop between rest value run'
  have isBrace : token.kind = .symbol .rightBrace := by simpa using isAllowed
  refine ⟨[token], rfl, ?_, ⟨token, List.mem_singleton_self token, isBrace⟩, fun stop' rest' => ?_⟩
  · rintro other member unknown
    rw [List.mem_singleton.mp member, isBrace] at unknown
    contradiction
  · have again : Parser.expectSymbol .rightBrace stop' (token :: rest') = .ok token rest' [] :=
      Parser.accept_run isAllowed _ stop' rest'
    exact (Parser.bind_run_clean again next).trans (always stop' rest')

theorem bind {first : Parser α} {next : α → Parser β}
    (firsts : ∀ bound, Local bound first first) (nexts : ∀ value, Closes (next value)) :
    Closes (first >>= next) := by
  intro stop tokens rest value success
  obtain ⟨middle, between, run, run'⟩ := Parser.bind_eq_clean success
  obtain ⟨taken, rfl, known, again⟩ := firsts (tokens.length + 1) stop tokens between middle run
  obtain ⟨taken', rfl, known', closes, again'⟩ := nexts middle stop between rest value run'
  refine ⟨taken ++ taken', (List.append_assoc taken taken' rest).symm, ?_, ?_, ?_⟩
  · exact List.forall_mem_append.mpr ⟨known, known'⟩
  · obtain ⟨token, member, isBrace⟩ := closes
    exact ⟨token, List.mem_append_right taken member, isBrace⟩
  · intro stop' rest'
    have fewer : taken.length < (taken ++ (taken' ++ rest)).length + 1 := by
      rw [List.length_append]
      omega
    have run := again fewer stop' (taken' ++ rest') (closes.same rest rest')
    rw [List.append_assoc, Parser.bind_run_clean run]
    exact again' stop' rest'

theorem map {first : Parser α} (firsts : Closes first) {next : α → Parser β}
    (nexts : ∀ value, Settles (next value)) : Closes (first >>= next) := by
  intro stop tokens rest value success
  obtain ⟨middle, between, run, run'⟩ := Parser.bind_eq_clean success
  obtain ⟨taken, rfl, known, closes, again⟩ := firsts stop tokens between middle run
  obtain ⟨rfl, always⟩ := nexts middle stop between rest value run'
  refine ⟨taken, rfl, known, closes, fun stop' rest' => ?_⟩
  rw [Parser.bind_run_clean (again stop' rest')]
  exact always stop' rest'

end Closes

end Blueprint
