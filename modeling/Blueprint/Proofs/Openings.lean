import Blueprint.Proofs.Heads

/-!
What stands before an opening brace. Inside of a statement that is read without a diagnostic, a
brace opens behind a mark or a quoted text, or behind the name of an endpoint, and nowhere else
directly behind a word or a number. Each routine is told whether a brace may open where it starts
and says whether one may open where it ends, so that sequences of routines fit together.
-/
set_option autoImplicit false

namespace Blueprint

open Grammar

/-- Kinds of tokens that are spelled as words or as numbers. -/
def TokenKind.isWordy : TokenKind → Bool
  | .keyword _ | .identifier | .number => true
  | .symbol _ | .string | .unknown | .eof => false

theorem isWordy_of_isName {kind : TokenKind} (isName : kind.isName = true) : kind.isWordy = true := by
  cases kind with
  | keyword | identifier => rfl
  | symbol | string | number | unknown | eof => contradiction

/-- A brace may open behind a row; `free` says whether one may open where the row starts. -/
inductive MayOpen (free : Bool) : List Token → Prop where
  | start (isFree : free = true) : MayOpen free []
  | mark {row : List Token} {token : Token} (notWordy : token.kind.isWordy = false) :
    MayOpen free (row ++ [token])
  | endpoint {row : List Token} {word name : Token} (isEndpoint : word.kind = .keyword .endpoint) :
    MayOpen free (row ++ [word, name])

/-- Rows in which every brace opens where one may. -/
def Seated (free : Bool) (row : List Token) : Prop :=
  ∀ front brace back, row = front ++ brace :: back → brace.kind = .symbol .leftBrace →
    MayOpen free front

theorem MayOpen.single {free : Bool} {token : Token} (notWordy : token.kind.isWordy = false) :
    MayOpen free [token] :=
  @MayOpen.mark free [] token notWordy

theorem MayOpen.append {free middle : Bool} {row more : List Token} (second : MayOpen middle more)
    (first : middle = true → MayOpen free row) : MayOpen free (row ++ more) := by
  cases second with
  | start isFree =>
    rw [List.append_nil]
    exact first isFree
  | mark notWordy =>
    rw [← List.append_assoc]
    exact .mark notWordy
  | endpoint isEndpoint =>
    rw [← List.append_assoc]
    exact .endpoint isEndpoint

/-- No brace may open behind two words that do not announce an endpoint. -/
theorem MayOpen.not_behind_words {free : Bool} {row : List Token} {word name : Token}
    (notEndpoint : word.kind ≠ .keyword .endpoint) (isName : name.kind.isWordy = true) :
    ¬MayOpen free (row ++ [word, name]) := by
  intro opens
  generalize whole : row ++ [word, name] = front at opens
  cases opens with
  | start => simp at whole
  | @mark init token notWordy =>
    have same := congrArg List.getLast? whole
    simp only [List.getLast?_append, List.getLast?_cons_cons, List.getLast?_singleton,
      Option.some_or, Option.some.injEq] at same
    rw [← same, isName] at notWordy
    contradiction
  | @endpoint init word' name' isEndpoint =>
    obtain ⟨_, same⟩ := List.append_inj' whole rfl
    simp only [List.cons.injEq] at same
    exact notEndpoint (same.1 ▸ isEndpoint)

namespace Seated

variable {free : Bool} {row more : List Token}

theorem nil : Seated free [] := by
  intro front brace back whole
  simp at whole

theorem single {token : Token} (notBrace : token.kind = .symbol .leftBrace → free = true) :
    Seated free [token] := by
  intro front brace back whole isBrace
  cases front with
  | nil =>
    obtain ⟨rfl, _⟩ := List.cons.inj whole
    exact .start (notBrace isBrace)
  | cons other front => simp at whole

theorem append {middle : Bool} (first : Seated free row) (between : middle = true → MayOpen free row)
    (second : Seated middle more) : Seated free (row ++ more) := by
  intro front brace back whole isBrace
  rcases List.append_eq_append_iff.mp whole with ⟨inner, rfl, rest⟩ | ⟨inner, rfl, rest⟩
  · exact (second inner brace back rest isBrace).append between
  · cases inner with
    | nil =>
      have opens := (second [] brace back rest.symm isBrace).append between
      simpa only [List.append_nil] using opens
    | cons token inner =>
      rw [List.cons_append] at rest
      obtain ⟨rfl, rfl⟩ := List.cons.inj rest
      exact first front brace inner rfl isBrace

end Seated

/-! ## Parsers -/

variable {α β σ : Type}

/-- What a parser takes without a report is a seated row, given whether a brace may open before it;
whether one may open behind it is told by the value. -/
def Sits (before : Bool) (after : α → Bool) (parser : Parser α) : Prop :=
  ∀ stop tokens value rest, parser stop tokens = .ok value rest [] →
    ∃ row, tokens = row ++ rest ∧ Seated before row ∧ (after value = true → MayOpen before row)

namespace Sits

variable {before free : Bool} {after : α → Bool} {later : β → Bool}

theorem bind {first : Parser α} {next : α → Parser β} (firsts : Sits before after first)
    (nexts : ∀ value, Sits (after value) later (next value)) :
    Sits before later (first >>= next) := by
  intro stop tokens value rest success
  obtain ⟨middle, between, run, run'⟩ := Parser.bind_eq_clean success
  obtain ⟨row, rfl, seated, opens⟩ := firsts stop tokens middle between run
  obtain ⟨more, rfl, seated', opens'⟩ := nexts middle stop between value rest run'
  exact ⟨row ++ more, (List.append_assoc ..).symm, seated.append opens seated',
    fun isFree => (opens' isFree).append opens⟩

/-- Nothing is said of what may stand behind. -/
theorem loose {parser : Parser α} (sits : Sits before after parser) :
    Sits before (fun _ => false) parser := by
  intro stop tokens value rest success
  obtain ⟨row, whole, seated, _⟩ := sits stop tokens value rest success
  exact ⟨row, whole, seated, nofun⟩

/-- What needs no brace to be possible before it may stand where one is. -/
theorem anywhere {parser : Parser α} (sits : Sits false after parser) :
    Sits before after parser := by
  intro stop tokens value rest success
  obtain ⟨row, whole, seated, opens⟩ := sits stop tokens value rest success
  have freed {front : List Token} (opens : MayOpen false front) : MayOpen before front := by
    cases opens with
    | start isFree => contradiction
    | mark notWordy => exact .mark notWordy
    | endpoint isEndpoint => exact .endpoint isEndpoint
  exact ⟨row, whole, fun front brace back split isBrace => freed (seated front brace back split isBrace),
    fun isFree => freed (opens isFree)⟩

theorem still {parser : Parser α} (settles : Settles parser) :
    Sits before (fun _ => before) parser := by
  intro stop tokens value rest success
  obtain ⟨rfl, _⟩ := settles stop tokens rest value success
  exact ⟨[], rfl, .nil, fun isFree => .start isFree⟩

theorem pure (value : α) : Sits before (fun _ => before) (Pure.pure value) :=
  still (.pure value)

theorem fail (problem : SyntaxProblem) (place : Position) :
    Sits before after (Parser.fail problem place : Parser α) := by
  intro stop tokens value rest success
  contradiction

theorem unexpected (expected : Expectation) :
    Sits before after (Parser.unexpected expected : Parser α) := by
  intro stop tokens value rest success
  contradiction

theorem current : Sits before (fun _ => before) Parser.current := by
  intro stop tokens value rest success
  simp only [Parser.current, Outcome.ok.injEq, and_true] at success
  exact ⟨[], success.2, .nil, fun isFree => .start isFree⟩

theorem isAt (kind : TokenKind) : Sits before (fun _ => before) (Parser.isAt kind) :=
  current.bind fun _ => pure _

/-! ### Taking tokens -/

theorem accept {allowed : TokenKind → Bool} (notAtEnd : allowed .eof = false)
    (notBrace : allowed (.symbol .leftBrace) = false) (expected : Expectation) :
    Sits before (fun token => !token.kind.isWordy) (Parser.accept allowed expected) := by
  intro stop tokens token rest success
  obtain ⟨rfl, isAllowed⟩ := Parser.accept_eq_ok notAtEnd success
  refine ⟨[token], rfl, .single fun isBrace => ?_, fun notWordy => ?_⟩
  · rw [isBrace, notBrace] at isAllowed
    contradiction
  · exact .single (by simpa using notWordy)

/-- Behind a mark a brace may open; the mark is a brace only where one may open. -/
theorem expectMark {kind : TokenKind} (notAtEnd : kind ≠ .eof) (notWordy : kind.isWordy = false)
    (notBrace : kind = .symbol .leftBrace → before = true) :
    Sits before (fun _ => true) (Parser.expect kind) := by
  intro stop tokens token rest success
  obtain ⟨rfl, isKind⟩ := expect_eq_ok notAtEnd success
  rw [← isKind] at notWordy notBrace
  exact ⟨[token], rfl, .single notBrace, fun _ => .single notWordy⟩

theorem expectOpening : Sits true (fun _ => true) (Parser.expectSymbol .leftBrace) :=
  expectMark (by simp) rfl fun _ => rfl

theorem expectSymbol {mark : Symbol} (notBrace : mark ≠ .leftBrace) :
    Sits before (fun _ => true) (Parser.expectSymbol mark) :=
  expectMark (by simp) rfl fun isBrace => absurd (TokenKind.symbol.inj isBrace) notBrace

theorem expectName : Sits before (fun _ => false) Parser.expectName :=
  (accept rfl rfl _).loose

theorem expectKey : Sits before (fun _ => true) Parser.expectKey :=
  expectName.bind fun _ => (expectSymbol (by decide)).bind fun _ => pure _

theorem expectText : Sits before (fun _ => true) Parser.expectText :=
  (expectMark (by simp) rfl (by simp)).bind fun _ => pure _

theorem expectFlag : Sits before (fun _ => false) Parser.expectFlag :=
  (accept rfl rfl _).loose.bind fun _ => pure _

theorem takeFound {find : List Token → Option α} {length : α → Nat}
    (takes : ∀ {tokens found}, find tokens = some found → ∃ row rest, tokens = row ++ rest ∧
      row.length = length found ∧ ∀ token ∈ row, token.kind ≠ .symbol .leftBrace) :
    Sits before (fun _ => false) (Parser.takeFound find length) := by
  intro stop tokens value rest success
  unfold Parser.takeFound at success
  split at success
  · next found call =>
    obtain ⟨row, others, rfl, size, braceless⟩ := takes call
    simp only [Outcome.ok.injEq, and_true, ← size, List.drop_left] at success
    obtain ⟨_, rfl⟩ := success
    refine ⟨row, rfl, ?_, nofun⟩
    rintro front brace back rfl isBrace
    exact absurd isBrace (braceless brace (by simp))
  · simp only [Outcome.ok.injEq, and_true] at success
    exact ⟨[], success.2, .nil, nofun⟩

theorem takeIf {length : Nat} {test : List Token → Bool}
    (takes : ∀ {tokens}, test tokens = true → ∃ row rest, tokens = row ++ rest ∧
      row.length = length ∧ ∀ token ∈ row, token.kind ≠ .symbol .leftBrace) :
    Sits before (fun _ => false) (Parser.takeIf length test) := by
  refine (takeFound ?_).bind fun _ => pure _
  intro tokens found call
  split at call
  · next holds => exact takes holds
  · contradiction

theorem flag (word : String) : Sits before (fun _ => false) (Parser.flag word) := by
  refine takeIf fun {tokens} holds => ?_
  cases tokens with
  | nil => contradiction
  | cons token rest =>
    simp only [Parser.startsWithFlag, Bool.and_eq_true] at holds
    refine ⟨[token], rest, rfl, rfl, ?_⟩
    rintro other member isBrace
    rw [← List.mem_singleton.mp member, isBrace] at holds
    exact absurd holds.1.1 (by decide)

/-- Behind an optional mark that is there a brace may open. -/
theorem option {mark : Symbol} (notBrace : mark ≠ .leftBrace) :
    Sits before (fun taken => taken || before) (Parser.option (.symbol mark)) := by
  intro stop tokens taken rest success
  rw [Parser.option, Parser.takeIf_run] at success
  split at success
  · next holds =>
    cases tokens with
    | nil => contradiction
    | cons token others =>
      have isMark : token.kind = .symbol mark := beq_iff_eq.mp holds
      simp only [List.drop_succ_cons, List.drop_zero, Outcome.ok.injEq, and_true] at success
      obtain ⟨_, rfl⟩ := success
      refine ⟨[token], rfl, .single fun isBrace => ?_, fun _ => MayOpen.single (isMark ▸ rfl)⟩
      exact absurd (TokenKind.symbol.inj (isMark.symm.trans isBrace)) notBrace
  · simp only [Outcome.ok.injEq, and_true] at success
    obtain ⟨rfl, rfl⟩ := success
    exact ⟨[], rfl, .nil, fun isFree => .start isFree⟩

theorem skipCommas : Sits before (fun _ => before) Parser.skipCommas := by
  intro stop tokens value rest success
  simp only [Parser.skipCommas, Parser.skip, Outcome.ok.injEq, and_true, true_and] at success
  subst success
  have commas : ∀ token ∈ tokens.takeWhile fun token => token.kind == .symbol .comma,
      token.kind = .symbol .comma :=
    fun token member => beq_iff_eq.mp (List.all_eq_true.mp List.all_takeWhile token member)
  refine ⟨tokens.takeWhile fun token => token.kind == .symbol .comma,
    List.takeWhile_append_dropWhile.symm, ?_, fun isFree => ?_⟩
  · intro front brace back whole isBrace
    have isComma := commas brace (by rw [whole]; simp)
    rw [isBrace] at isComma
    contradiction
  · rcases List.eq_nil_or_concat (tokens.takeWhile fun token => token.kind == .symbol .comma) with
      none | ⟨front, comma, whole⟩
    · rw [none]
      exact .start isFree
    · rw [whole, List.concat_eq_append]
      exact .mark (by rw [commas comma (by rw [whole]; simp)]; rfl)

/-! ### Repetition -/

/-- What each step tells of the state it leaves holds after all of them. -/
theorem loop {more : σ → List Token → Bool} {step : σ → Parser σ} (free : σ → Bool)
    (steps : ∀ state tokens, more state tokens = true → Sits (free state) free (step state))
    (state : σ) : Sits (free state) free (Parser.loop more step state) := by
  intro stop tokens value rest success
  refine Parser.loop_induct_clean (motive := fun state tokens => ∃ row, tokens = row ++ rest ∧
    Seated (free state) row ∧ (free value = true → MayOpen (free state) row)) ?_ ?_ ?_ success
  · exact fun _ => ⟨[], rfl, .nil, fun isFree => .start isFree⟩
  · exact fun goesOn run _ => steps _ _ goesOn stop _ value rest run
  · intro state next tokens between goesOn run _ later
    obtain ⟨row, rfl, seated, opens⟩ := steps state tokens goesOn stop tokens next between run
    obtain ⟨more, rfl, seated', opens'⟩ := later
    exact ⟨row ++ more, (List.append_assoc ..).symm, seated.append opens seated',
      fun isFree => (opens' isFree).append opens⟩

/-- Entries up to the end of a group, where a brace may open behind each of them as before it. -/
theorem untilClosed {close : Symbol} {step : σ → Parser σ}
    (steps : ∀ state, Sits before (fun _ => before) (step state)) (state : σ) :
    Sits before (fun _ => before) (Parser.untilClosed close step state) :=
  loop (fun _ => before) (fun state _ _ => steps state) state

theorem itemsUntil {close : Symbol} {item : Parser α} (items : Sits before (fun _ => before) item) :
    Sits before (fun _ => before) (Parser.itemsUntil close item) :=
  untilClosed (fun _ => items.bind fun _ => skipCommas.bind fun _ => pure _) []

/-- Between two items there is a comma, behind which a brace may open. -/
theorem commaSeparated {item : Parser α} (items : Sits true (fun _ => false) item) :
    Sits true (fun _ => false) (Parser.commaSeparated item) := by
  refine (loop Prod.snd (fun state tokens goesOn => ?_) ([], true)).loose.bind
    fun _ => pure _
  rw [(Bool.and_eq_true_iff.mp goesOn).1]
  refine items.bind fun next => (option (by decide)).bind fun found => ?_
  intro stop tokens value rest success
  simp only [Parser.pure_run, Outcome.ok.injEq, and_true] at success
  obtain ⟨rfl, rfl⟩ := success
  exact ⟨[], rfl, .nil, fun isFree => .start (by simpa using isFree)⟩

/-! ### Values -/

theorem number : Sits before (fun _ => false)
    (Parser.expect .number >>= fun token => Grammar.number token.value) :=
  (accept rfl rfl _).loose.bind fun token => still (.number token.value)

theorem dottedName : Sits before (fun _ => false) Grammar.dottedName := by
  refine expectName.bind fun first => (loop (fun _ => false) ?_ _).bind fun _ => pure _
  exact fun parts _ _ => (expectSymbol (by decide)).bind fun _ => expectName.bind fun _ => pure _

theorem objectKey : Sits before (fun _ => false) Grammar.objectKey := by
  refine (isAt .string).bind fun isText => ?_
  cases isText with
  | true => exact expectText.loose
  | false => exact expectName.bind fun _ => pure _

section Inner

variable {inner : Parser Value} (inners : Sits true (fun _ => false) inner)
include inners

/-- The content of an entry follows a colon. -/
theorem entryContent : Sits false (fun _ => false) (Grammar.entryContent inner) := by
  refine (option (by decide)).bind fun hasContent => ?_
  cases hasContent with
  | true => exact inners
  | false => exact pure _

theorem objectOf : Sits true (fun _ => true) (Grammar.objectOf inner) := by
  have entries (fields : Fields Value) : Sits false (fun _ => false)
      (Grammar.objectKey >>= fun key => Grammar.entryContent inner >>= fun content =>
        Parser.skipCommas >>= fun _ => Pure.pure (Fields.insert key content fields)) :=
    objectKey.bind fun _ => (entryContent inners).bind fun _ => skipCommas.bind fun _ => pure _
  exact expectOpening.bind fun _ => (untilClosed entries []).anywhere.bind fun _ =>
    (expectSymbol (by decide)).bind fun _ => pure _

theorem listOf : Sits before (fun _ => true) (Grammar.listOf inner) :=
  (expectSymbol (by decide)).bind fun _ => (commaSeparated inners).bind fun _ =>
    (expectSymbol (by decide)).bind fun _ => pure _

theorem valueOf : Sits true (fun _ => false) (Grammar.valueOf inner) := by
  refine current.bind fun token => ?_
  split
  · exact (expectText.bind fun _ => pure _).loose
  · exact number
  · exact expectFlag.bind fun _ => pure _
  · exact expectFlag.bind fun _ => pure _
  · exact ((objectOf inners).bind fun _ => pure _).loose
  · exact ((listOf inners).bind fun _ => pure _).loose
  · split
    · exact dottedName.bind fun _ => pure _
    · exact unexpected _

end Inner

theorem valueWithin (depth : Nat) : Sits true (fun _ => false) (Grammar.valueWithin depth) := by
  induction depth with
  | zero => exact unexpected _
  | succ depth ih => exact valueOf ih

theorem value : Sits true (fun _ => false) Grammar.value :=
  fun stop tokens => valueWithin (tokens.length + 1) stop tokens

theorem object : Sits true (fun _ => true) Grammar.object :=
  objectOf value

theorem objectList : Sits before (fun _ => true) Grammar.objectList :=
  (expectSymbol (by decide)).bind fun _ => (itemsUntil object).bind fun _ =>
    (expectSymbol (by decide)).bind fun _ => pure _

/-! ### Models -/

theorem typeRef : Sits before (fun _ => false) Grammar.typeRef := by
  refine expectName.bind fun name => (takeIf fun holds => ?_).bind fun _ => pure _
  obtain ⟨opening, closing, rest, rfl, opens, closes⟩ := Inherited.brackets_of_starts holds
  exact ⟨[opening, closing], rest, rfl, rfl, by simp [opens, closes]⟩

theorem scalarText : Sits before (fun _ => false) Grammar.scalarText :=
  (accept rfl rfl _).loose.bind fun _ => pure _

theorem enumValues : Sits before (fun _ => true) Grammar.enumValues :=
  (expectSymbol (by decide)).bind fun _ => (commaSeparated scalarText).bind fun _ =>
    (expectSymbol (by decide)).bind fun _ => pure _

theorem feature (property : Property) : Sits before (fun _ => false) (Grammar.feature property) := by
  refine (takeFound fun isFeature => ?_).bind fun found => ?_
  · obtain ⟨row, rest, whole, size, levels⟩ := Inherited.featureAt?_levels isFeature
    exact ⟨row, rest, whole, size, fun token member isBrace =>
      absurd (levels token member) (by rw [isBrace]; decide)⟩
  match found with
  | none => exact pure _
  | some .required => exact pure _
  | some .default => exact scalarText.bind fun _ => pure _
  | some .enumeration => exact (enumValues.bind fun _ => pure _).loose

theorem property : Sits before (fun _ => false) Grammar.property := by
  refine expectKey.bind fun name => typeRef.bind fun type => loop (fun _ => false) ?_ _
  exact fun property _ _ => (feature property).bind fun _ => skipCommas.bind fun _ => pure _

/-! ### Screens and the navigation -/

theorem screenParameters : Sits true (fun _ => true) Grammar.screenParameters := by
  have entry : Sits false (fun _ => false) (Parser.expectKey >>= fun name =>
      Grammar.typeRef >>= fun type => Parser.flag "required" >>= fun required =>
        Pure.pure ({ name := name.value, type := type, required := required } : Parameter)) :=
    expectKey.bind fun _ => typeRef.bind fun _ => (flag _).bind fun _ => pure _
  exact expectOpening.bind fun _ => (itemsUntil entry).anywhere.bind fun _ =>
    (expectSymbol (by decide)).bind fun _ => pure _

theorem actions : Sits true (fun _ => true) Grammar.actions := by
  have entry : Sits false (fun _ => true) (Parser.expectKey >>= fun event =>
      Grammar.object >>= fun fields => Pure.pure (actionOf event.value fields)) :=
    expectKey.bind fun _ => object.bind fun _ => pure _
  exact expectOpening.bind fun _ => (itemsUntil entry.anywhere).bind fun _ =>
    (expectSymbol (by decide)).bind fun _ => pure _

theorem layoutAttribute (key : Token) (layout : Layout) :
    Sits true (fun _ => false) (Grammar.layoutAttribute key layout) := by
  unfold Grammar.layoutAttribute
  split
  · refine expectName.bind fun kind => ?_
    split
    · exact pure _
    · exact fail _ _
  · exact (objectList.bind fun objects =>
      (still (.mapM (.componentOf _) objects)).bind fun _ => pure _).loose
  · exact (objectList.bind fun objects =>
      (still (.mapM (.formFieldOf _) objects)).bind fun _ => pure _).loose
  · exact (actions.bind fun _ => pure _).loose
  · exact (expectText.bind fun _ => pure _).loose
  · exact (expectText.bind fun _ => pure _).loose
  · exact fail _ _

theorem layout : Sits true (fun _ => true) Grammar.layout := by
  have entry (state : Layout × Bool) : Sits false (fun _ => false) (Grammar.layoutEntry state) :=
    expectKey.bind fun key => (layoutAttribute key state.1).bind fun _ => skipCommas.bind fun _ =>
      pure _
  refine expectOpening.bind fun _ => (untilClosed entry _).anywhere.bind fun state =>
    (expectSymbol (by decide)).bind fun _ => ?_
  split
  · exact pure _
  · exact fail _ _

theorem screenAttribute (key : Token) (screen : OpenScreen) :
    Sits true (fun _ => false) (Grammar.screenAttribute key screen) := by
  unfold Grammar.screenAttribute
  split
  · exact (expectText.bind fun _ => pure _).loose
  · exact (screenParameters.bind fun _ => pure _).loose
  · exact (layout.bind fun _ => pure _).loose
  · exact fail _ _

theorem screenEntry (screen : OpenScreen) :
    Sits false (fun _ => false) (Grammar.screenEntry screen) := by
  refine (flag "initial").bind fun isInitial => ?_
  split
  · exact pure _
  · exact expectKey.bind fun key => (screenAttribute key screen).bind fun _ =>
      skipCommas.bind fun _ => pure _

theorem navigationEntry (navigation : OpenNavigation) :
    Sits false (fun _ => false) (Grammar.navigationEntry navigation) := by
  refine expectKey.bind fun key => (?_ : Sits true (fun _ => false) _).bind fun _ =>
    skipCommas.bind fun _ => pure _
  unfold Grammar.navigationAttribute
  split
  · refine expectName.bind fun kind => ?_
    split
    · exact pure _
    · exact fail _ _
  · exact (objectList.bind fun objects =>
      (still (.mapM (.navItemOf _) objects)).bind fun _ => pure _).loose
  · exact fail _ _

/-! ### The interface -/

theorem parameterEntry (parameter : OpenParameter) :
    Sits false (fun _ => false) (Grammar.parameterEntry parameter) := by
  refine (flag "required").bind fun required => ?_
  split
  · exact pure _
  · refine expectKey.bind fun key => (?_ : Sits true (fun _ => false) _).bind fun _ =>
      skipCommas.bind fun _ => pure _
    unfold Grammar.parameterAttribute
    split
    · exact expectName.bind fun _ => pure _
    · exact typeRef.bind fun _ => pure _
    · exact expectFlag.bind fun _ => pure _
    · exact fail _ _

theorem endpointParameters : Sits before (fun _ => true) Grammar.endpointParameters := by
  have parameter : Sits true (fun _ => true) Grammar.endpointParameter := by
    refine expectOpening.bind fun opening => (untilClosed parameterEntry _).anywhere.bind fun body =>
      (expectSymbol (by decide)).bind fun _ => ?_
    split
    · exact pure _
    · exact fail _ _
  exact (expectSymbol (by decide)).bind fun _ => (itemsUntil parameter).bind fun _ =>
    (expectSymbol (by decide)).bind fun _ => pure _

theorem endpointEntry (endpoint : OpenEndpoint) :
    Sits false (fun _ => false) (Grammar.endpointEntry endpoint) := by
  refine expectKey.bind fun key => (?_ : Sits true (fun _ => false) _).bind fun _ =>
    skipCommas.bind fun _ => pure _
  unfold Grammar.endpointAttribute
  split
  · exact expectName.bind fun _ => pure _
  · exact (expectText.bind fun _ => pure _).loose
  · refine expectName.bind fun method => ?_
    split
    · exact pure _
    · exact fail _ _
  · exact (endpointParameters.bind fun _ => pure _).loose
  · exact expectName.bind fun _ => pure _
  · exact typeRef.bind fun _ => pure _
  · exact fail _ _

theorem endpointBody (id : Option String) : Sits true (fun _ => true) (Grammar.endpointBody id) := by
  refine expectOpening.bind fun opening => (untilClosed endpointEntry _).anywhere.bind fun body =>
    (expectSymbol (by decide)).bind fun _ => ?_
  split
  · exact fail _ _
  · exact fail _ _
  · exact fail _ _
  · exact pure _

theorem apiAttribute (key : Token) (api : OpenApi) :
    Sits true (fun _ => false) (Grammar.apiAttribute key api) := by
  unfold Grammar.apiAttribute
  split
  · exact (expectText.bind fun _ => pure _).loose
  · exact expectFlag.bind fun _ => pure _
  · exact ((expectSymbol (by decide)).bind fun _ => (commaSeparated (endpointBody none).loose).bind
      fun _ => (expectSymbol (by decide)).bind fun _ => pure _).loose
  · exact fail _ _

/-- A brace may open behind the name of an endpoint. -/
theorem endpointThen {next : Token → Parser α} {other : Parser α}
    (nexts : ∀ name, Sits true after (next name)) (others : Sits before after other) :
    Sits before after (Parser.option (.keyword .endpoint) >>= fun isEndpoint =>
      if isEndpoint then Parser.expectName >>= next else other) := by
  intro stop tokens value rest success
  obtain ⟨found, between, looked, continues⟩ := Parser.bind_eq_clean success
  rw [Parser.option, Parser.takeIf_run] at looked
  split at looked
  · next holds =>
    obtain ⟨rfl, rfl⟩ : true = found ∧ tokens.drop 1 = between := by simpa using looked
    cases tokens with
    | nil => contradiction
    | cons word tokens =>
      have isEndpoint : word.kind = .keyword .endpoint := beq_iff_eq.mp holds
      obtain ⟨name, others, named, body⟩ := Parser.bind_eq_clean continues
      rw [List.drop_succ_cons, List.drop_zero] at named
      obtain ⟨rfl, isName⟩ := Parser.accept_eq_ok rfl named
      obtain ⟨row, rfl, seated, opens⟩ := nexts name stop others value rest body
      have front : MayOpen before ([] ++ [word, name]) := .endpoint isEndpoint
      have first : Seated before [word] := .single fun isBrace => by
        rw [isEndpoint] at isBrace
        contradiction
      have second : Seated false [name] := .single fun isBrace => by
        rw [isBrace] at isName
        contradiction
      have words : Seated before ([word] ++ [name]) :=
        @Seated.append before [word] [name] false first (absurd · Bool.false_ne_true) second
      exact ⟨[word, name] ++ row, rfl, words.append (fun _ => front) seated,
        fun isFree => (opens isFree).append fun _ => front⟩
  · obtain ⟨rfl, rfl⟩ : false = found ∧ tokens = between := by simpa using looked
    exact others stop tokens value rest continues

theorem apiEntry (api : OpenApi) : Sits false (fun _ => false) (Grammar.apiEntry api) := by
  refine (flag "mock").bind fun isMock => ?_
  split
  · exact pure _
  · refine endpointThen (fun name => ?_) ?_
    · exact ((endpointBody _).bind fun _ => pure _).loose
    · exact expectKey.bind fun key => (apiAttribute key api).bind fun _ => skipCommas.bind fun _ =>
        pure _

/-! ### The header and mock data -/

theorem orRetry {first second : Parser α} (firsts : Sits before after first) :
    Sits before after (Parser.orRetry first second) :=
  fun stop tokens value rest success =>
    firsts stop tokens value rest (Parser.orRetry_eq_clean success)

theorem platforms : Sits before (fun _ => true) Grammar.platforms := by
  refine (expectSymbol (by decide)).bind fun _ => (commaSeparated ?_).bind fun _ =>
    (expectSymbol (by decide)).bind fun _ => pure _
  refine expectName.bind fun name => ?_
  simp only
  split
  · exact (still (.report _ _)).bind fun _ => pure _
  · exact pure _

theorem theme : Sits true (fun _ => true) Grammar.theme := by
  have entry (fields : Fields String) : Sits false (fun _ => true) (Parser.expectKey >>= fun key =>
      Parser.expectText >>= fun text => Parser.skipCommas >>= fun _ =>
        Pure.pure (Fields.insert key.value text fields)) :=
    expectKey.bind fun _ => expectText.bind fun _ => skipCommas.bind fun _ => pure _
  exact expectOpening.bind fun _ => (untilClosed (fun fields => (entry fields).anywhere) _).bind
    fun _ => (expectSymbol (by decide)).bind fun _ => pure _

theorem headerAttribute (key : Token) (header : Header) :
    Sits true (fun _ => true) (Grammar.headerAttribute key header) := by
  unfold Grammar.headerAttribute
  split
  · exact expectText.bind fun _ => pure _
  · exact expectText.bind fun _ => pure _
  · exact expectText.bind fun _ => pure _
  · exact platforms.bind fun _ => pure _
  · exact theme.bind fun _ => pure _
  · exact fail _ _

theorem headerEntry (body : OpenHeader) : Sits true (fun _ => true) (Grammar.headerEntry body) := by
  refine (orRetry (expectKey.bind fun _ => pure _)).bind fun found => ?_
  match found with
  | none => exact skipCommas.bind fun _ => pure _
  | some key =>
    exact (orRetry (headerAttribute key body.header)).bind fun _ => skipCommas.bind fun _ => pure _

theorem mockEntry (sections : Fields (List (Fields Value))) :
    Sits true (fun _ => true) (Parser.expectKey >>= fun key => Grammar.objectList >>= fun records =>
      Parser.skipCommas >>= fun _ => Pure.pure (Fields.insert key.value records sections)) :=
  expectKey.bind fun _ => objectList.bind fun _ => skipCommas.bind fun _ => pure _

end Sits

/-! ## Statements -/

/-- What stands in the braces of a statement. -/
structure Inside (row : List Token) : Prop where
  nested : Nested row
  seated : Seated true row

theorem takes_inside {after : α → Bool} {parser : Parser α} (nested : Keeps TakesNested parser)
    (sits : Sits true after parser) : Keeps (TakesRow Inside) parser := by
  intro stop tokens value rest success
  obtain ⟨row, whole, nested⟩ := nested stop tokens value rest success
  obtain ⟨row', whole', seated, _⟩ := sits stop tokens value rest success
  obtain rfl := List.append_cancel_right (whole.symm.trans whole')
  exact ⟨row, whole, nested, seated⟩

theorem bodies_inside : Bodies Inside where
  header body := takes_inside (bodies_nested.header body)
    (Sits.loop (fun _ => true) (fun body _ _ => Sits.headerEntry body) body)
  model := takes_inside bodies_nested.model (Sits.itemsUntil Sits.property).anywhere
  screen := takes_inside bodies_nested.screen (Sits.untilClosed Sits.screenEntry _).anywhere
  navigation := takes_inside bodies_nested.navigation
    (Sits.untilClosed Sits.navigationEntry _).anywhere
  api := takes_inside bodies_nested.api (Sits.untilClosed Sits.apiEntry _).anywhere
  mockData := takes_inside bodies_nested.mockData (Sits.untilClosed Sits.mockEntry _)

/-- A source that is read without a diagnostic is a row of statements, in which braces open where
they may. -/
theorem clean_grouped {source : String} {result : ParseResult}
    (parsed : Document.parse source = .ok result) (clean : result.isClean = true) :
    ∃ document header heads, result.document = some document ∧ document.header = some header ∧
      Splits (Grouped Inside) heads (tokensOf source) ∧ Described heads document := by
  obtain ⟨stop, run⟩ := parse_eq source
  rw [run] at parsed
  obtain ⟨state, rest, statements, isDocument, hasHeader⟩ := statements_of_clean parsed clean
  obtain ⟨heads, splits, described⟩ := statements_grouped bodies_inside .empty statements
  obtain ⟨header, isHeader⟩ := Option.isSome_iff_exists.mp hasHeader
  exact ⟨state.document, header, heads, isDocument, isHeader, splits, described⟩

/-- A head that ends with two words consists of them. -/
theorem IsHead.eq_words {head : Head} {init : List Token} {word name : Token}
    (isHead : IsHead head (init ++ [word, name])) (isName : name.kind.isWordy = true) :
    init = [] ∧ word.kind = .keyword head.keyword ∧ name.kind.isName = true ∧
      head.name? = some name.value := by
  generalize whole : init ++ [word, name] = front at isHead
  cases isHead with
  | @named keyword name' isKeyword isName' named =>
    change init ++ [word, name] = [] ++ [keyword, name'] at whole
    obtain ⟨rfl, same⟩ := List.append_inj' whole rfl
    simp only [List.cons.injEq, and_true] at same
    exact ⟨rfl, same.1 ▸ isKeyword, same.2 ▸ isName', same.2 ▸ named⟩
  | plain =>
    have := congrArg List.length whole
    simp at this
  | @colon keyword colon _ isColon =>
    change init ++ [word, name] = [] ++ [keyword, colon] at whole
    obtain ⟨_, same⟩ := List.append_inj' whole rfl
    obtain ⟨rfl, _⟩ := List.cons.inj (List.cons.inj same).2
    rw [isColon] at isName
    contradiction

/-- Of two ways to split a row, what stands behind the shorter front holds the mark behind the
longer one. -/
theorem mem_behind {init words row later : List Token} {mark : Token}
    (whole : init ++ words = row ++ mark :: later) (shorter : init.length ≤ row.length) :
    mark ∈ words := by
  rcases List.append_eq_append_iff.mp whole with ⟨more, _, rfl⟩ | ⟨more, rfl, behind⟩
  · simp
  · obtain rfl : more = [] := by simpa using shorter
    rw [List.nil_append] at behind
    simp [← behind]

/-- A statement goes on behind tokens that do not close it. -/
theorem Grouped.length_within {content : List Token → Prop} {head : Head}
    {row rest init words back : List Token} (grouped : Grouped content head row)
    (whole : row ++ rest = init ++ words ++ back) (within : init.length < row.length)
    (goesOn : ∀ word ∈ words, word.kind ≠ .symbol .rightBrace) :
    (init ++ words).length < row.length := by
  by_contra beyond
  obtain @⟨front, inside, first, last, _, _, _, closes⟩ := grouped
  have starts : front ++ first :: (inside ++ [last]) <+: init ++ words :=
    List.prefix_of_prefix_length_le ⟨rest, rfl⟩ ⟨back, whole.symm⟩ (Nat.le_of_not_lt beyond)
  obtain ⟨later, words'⟩ := starts
  have atLast : init ++ words = (front ++ first :: inside) ++ last :: later := by
    rw [← words']
    simp
  have member := mem_behind atLast (by simp at within ⊢; omega)
  exact goesOn last member closes

/-- Of the tokens of a statement, two words before an opening brace are its head, unless they
announce an endpoint. -/
theorem Grouped.head_of_brace {head : Head} {row rest init back : List Token}
    {word name brace : Token} (grouped : Grouped Inside head row)
    (whole : row ++ rest = init ++ word :: name :: brace :: back) (within : init.length < row.length)
    (isWord : word.kind.isWordy = true) (notEndpoint : word.kind ≠ .keyword .endpoint)
    (isName : name.kind.isWordy = true) (isBrace : brace.kind = .symbol .leftBrace) :
    init = [] ∧ word.kind = .keyword head.keyword ∧ name.kind.isName = true ∧
      head.name? = some name.value := by
  obtain @⟨front, inside, first, last, isHead, opens, ⟨_, seated⟩, closes⟩ := grouped
  have words : init ++ word :: name :: brace :: back = (init ++ [word, name]) ++ brace :: back := by
    simp
  have groupTokens : front ++ first :: (inside ++ [last]) ++ rest =
      front ++ first :: (inside ++ last :: rest) := by simp
  rw [words, groupTokens] at whole
  have atGroup (isFront : front = init ++ [word, name]) :
      init = [] ∧ word.kind = .keyword head.keyword ∧ name.kind.isName = true ∧
        head.name? = some name.value :=
    IsHead.eq_words (isFront ▸ isHead) isName
  -- The brace stands in the head, opens the group, stands in it, closes it or is behind it.
  rcases List.append_eq_append_iff.mp whole with ⟨more, before, behind⟩ | ⟨more, before, behind⟩
  · cases more with
    | nil => exact atGroup (by simpa using before.symm)
    | cons token more =>
      obtain ⟨rfl, inner⟩ := List.cons.inj behind
      rcases List.append_eq_append_iff.mp inner with ⟨later, rfl, ending⟩ | ⟨later, inner, ending⟩
      · cases later with
        | nil =>
          obtain ⟨rfl, _⟩ := List.cons.inj ending
          rw [closes] at isBrace
          contradiction
        | cons token later =>
          obtain ⟨rfl, _⟩ := List.cons.inj ending
          rw [show front ++ first :: (inside ++ last :: later) =
            (front ++ first :: inside) ++ last :: later by simp] at before
          have member := mem_behind before (by simp at within ⊢; omega)
          simp only [List.mem_cons, List.not_mem_nil, or_false] at member
          rcases member with rfl | rfl
          · rw [closes] at isWord
            contradiction
          · rw [closes] at isName
            contradiction
      · cases later with
        | nil =>
          obtain ⟨rfl, _⟩ := List.cons.inj ending
          rw [closes] at isBrace
          contradiction
        | cons token later =>
          obtain ⟨rfl, _⟩ := List.cons.inj ending
          have mayOpen : MayOpen false (front ++ [first] ++ more) :=
            (seated more brace later inner isBrace).append fun _ => .mark (by rw [opens]; rfl)
          rw [List.append_assoc, List.singleton_append, ← before] at mayOpen
          exact absurd mayOpen (MayOpen.not_behind_words notEndpoint isName)
  · cases more with
    | nil => exact atGroup (by simpa using before)
    | cons token more =>
      obtain ⟨rfl, _⟩ := List.cons.inj behind
      have isLevel := isHead.levels brace (by simp [before])
      rw [isBrace] at isLevel
      contradiction

end Blueprint
