import Blueprint.Proofs.GuardedGrammar
import Blueprint.Proofs.HeaderRows

/-!
Reading a document leads on. Each round of the loop over statements and of the loop over the attributes
of a header ends behind the place where it began, also where it recovers from a failure; the other
repetitions of the grammar do so or end, and the bounds that the definitions have for the sake of
their termination never matter. `parsing_advances` puts this together.
-/
set_option autoImplicit false

namespace Blueprint

open Grammar

/-! ## The depth of values -/

/-- Whether two parsers do the same where fewer tokens are left than a number. -/
def AgreeBelow {α : Type} (size : Nat) (parser other : Parser α) : Prop :=
  ∀ stop tokens, tokens.length < size → parser stop tokens = other stop tokens

namespace AgreeBelow

variable {α β σ : Type} {size : Nat}

theorem refl (parser : Parser α) : AgreeBelow size parser parser :=
  fun _ _ _ => rfl

theorem bind {first first' : Parser α} {next next' : α → Parser β} (guarded : Guarded first)
    (firsts : AgreeBelow size first first')
    (nexts : ∀ value, AgreeBelow size (next value) (next' value)) :
    AgreeBelow size (first >>= next) (first' >>= next') := by
  intro stop tokens below
  have same := firsts stop tokens below
  rw [Parser.bind_run, Parser.bind_run, ← same]
  cases run : first stop tokens with
  | failed failure rest reports => rfl
  | ok value rest reports =>
    have left := (guarded.suffix_of_ok run).length_le
    simp only [nexts value stop rest (by omega)]

/-- Behind a token that is taken, one token less is left. -/
theorem behind {first : Parser α} {next next' : α → Parser β} (advancing : Advancing first)
    (nexts : ∀ value, AgreeBelow size (next value) (next' value)) :
    AgreeBelow (size + 1) (first >>= next) (first >>= next') := by
  intro stop tokens below
  rw [Parser.bind_run, Parser.bind_run]
  cases run : first stop tokens with
  | failed failure rest reports => rfl
  | ok value rest reports =>
    have taken := advancing.takes run
    simp only [nexts value stop rest (by omega)]

theorem loop {more : σ → List Token → Bool} {step step' : σ → Parser σ}
    (steps : ∀ state, AgreeBelow size (step state) (step' state)) (state : σ) :
    AgreeBelow size (Parser.loop more step state) (Parser.loop more step' state) := by
  intro stop tokens below
  -- The tokens left shrink with every step that is not the last.
  induction length : tokens.length using Nat.strongRecOn generalizing tokens state with
  | ind count ih =>
    subst length
    rw [Parser.loop, Parser.loop, ← steps state stop tokens below]
    split
    · cases run : step state stop tokens with
      | failed failure rest reports => rfl
      | ok next rest reports =>
        simp only
        split
        · next shorter => rw [ih _ shorter next rest (by omega) rfl]
        · rfl
    · rfl

section Inner

variable {inner inner' : Parser Value} (inners : AgreeBelow size inner inner')
  (advancing : Advancing inner)
include inners advancing

theorem objectOf : AgreeBelow (size + 1) (Grammar.objectOf inner) (Grammar.objectOf inner') := by
  have content : AgreeBelow size (Grammar.entryContent inner) (Grammar.entryContent inner') := by
    refine bind (.option _) (refl _) fun hasContent => ?_
    cases hasContent with
    | true => exact inners
    | false => exact refl _
  refine behind .expectSymbol fun _ => bind (.untilClosed (fun _ => ?_) _) (loop (fun _ => ?_) _)
    fun _ => refl _
  · exact Advancing.objectKey.bind fun _ => .bind (.entryContent advancing) fun _ =>
      .bind .skipCommas fun _ => .pure _
  · exact bind Advancing.objectKey.guarded (refl _) fun _ =>
      bind (.entryContent advancing) content fun _ => refl _

theorem listOf : AgreeBelow (size + 1) (Grammar.listOf inner) (Grammar.listOf inner') := by
  refine behind .expectSymbol fun _ => bind (.commaSeparated advancing)
    (bind (.rounds (fun _ => ?_) _) (loop (fun _ => ?_) _) fun _ => refl _) fun _ => refl _
  · exact advancing.bind fun _ => .bind (.option _) fun _ => .pure _
  · exact bind advancing.guarded inners fun _ => refl _

theorem valueOf : AgreeBelow (size + 1) (Grammar.valueOf inner) (Grammar.valueOf inner') := by
  refine bind .current (refl _) fun token => ?_
  split
  · exact refl _
  · exact refl _
  · exact refl _
  · exact refl _
  · exact bind (Advancing.objectOf advancing).guarded (objectOf inners advancing) fun _ => refl _
  · exact bind (Advancing.listOf advancing).guarded (listOf inners advancing) fun _ => refl _
  · exact refl _

end Inner

theorem valueWithin {depth depth' : Nat} (enough : size ≤ depth) (enough' : size ≤ depth') :
    AgreeBelow size (Grammar.valueWithin depth) (Grammar.valueWithin depth') := by
  induction size generalizing depth depth' with
  | zero => exact fun _ tokens below => absurd below (Nat.not_lt_zero _)
  | succ size ih =>
    obtain ⟨depth, rfl⟩ : ∃ less, depth = less + 1 := ⟨depth - 1, by omega⟩
    obtain ⟨depth', rfl⟩ : ∃ less, depth' = less + 1 := ⟨depth' - 1, by omega⟩
    exact valueOf (ih (by omega) (by omega)) (.valueWithin depth)

end AgreeBelow

/-- A value is read with the values inside of its groups read in the same way, however deep they are.
-/
theorem value_eq : Grammar.value = Grammar.valueOf Grammar.value := by
  funext stop tokens
  have inside : AgreeBelow tokens.length (Grammar.valueWithin tokens.length) Grammar.value :=
    fun stop others below => AgreeBelow.valueWithin (Nat.succ_le_of_lt below) le_rfl stop others
      (Nat.lt_succ_self _)
  exact AgreeBelow.valueOf inside (.valueWithin _) stop tokens (Nat.lt_succ_self _)

/-! ## Headers -/

/-- Passing over a value takes a token where none closes a group. -/
theorem afterValue_suffix_of_open {token : Token} (notBrace : token.kind ≠ .symbol .rightBrace)
    (notBracket : token.kind ≠ .symbol .rightBracket) (rest : List Token) :
    afterValue 0 (token :: rest) <:+ rest := by
  rw [afterValue]
  split
  · next closes => simp [notBrace, notBracket] at closes
  · split
    · exact scans_afterValue.suffix 1 rest
    · exact List.suffix_refl rest

/-- In front of the end of a header there is a token, which closes no brace. -/
theorem token_of_goesOn {tokens : List Token} (goesOn : endsHeader tokens = false) :
    ∃ token rest, tokens = token :: rest ∧ token.kind ≠ .symbol .rightBrace := by
  cases tokens with
  | nil => contradiction
  | cons token rest =>
    refine ⟨token, rest, rfl, fun closes => ?_⟩
    simp [endsHeader, Parser.stillOpen, closes] at goesOn

theorem Guarded.skipValue : Guarded Grammar.skipValue :=
  .skip scans_afterValue 0

/-- In recovery, a bracket that closes is taken by itself, and anything else as a value. -/
theorem Guarded.skipToAttribute : Guarded Grammar.skipToAttribute := by
  have step : Guarded (do
      if ← Parser.isAt (.symbol .rightBracket) then
        let _ ← Parser.advance
      else Grammar.skipValue) := by
    refine .bind (.isAt _) fun atBracket => ?_
    split
    · exact .bind .advance fun _ => .pure _
    · exact .skipValue
  refine .bind .advance fun _ => .loop (fun _ => step) ?_ _
  intro stop _ tokens next rest reports goesOn run
  have notEnded : endsHeader tokens = false := by
    simpa using (Bool.and_eq_true_iff.mp goesOn).1
  obtain ⟨token, others, rfl, notBrace⟩ := token_of_goesOn notEnded
  have looked : Parser.isAt (.symbol .rightBracket) stop (token :: others) =
      .ok (token.kind == .symbol .rightBracket) (token :: others) [] := rfl
  beta_reduce at run
  rw [Parser.bind_run_clean looked] at run
  -- Passing over a value stops in front of a bracket; the other mark it stops at ends the header.
  split at run
  · have advanced : (Parser.advance >>= fun _ => Pure.pure ()) stop (token :: others) =
        .ok () others [] := rfl
    rw [advanced, Outcome.ok.injEq] at run
    simp [← run.2.1]
  · next notBracket =>
    have skipped : Grammar.skipValue stop (token :: others) =
        .ok () (afterValue 0 (token :: others)) [] := rfl
    rw [skipped, Outcome.ok.injEq] at run
    have left := (afterValue_suffix_of_open notBrace (by simpa using notBracket) others).length_le
    rw [← run.2.1, List.length_cons]
    omega

theorem Advancing.theme : Advancing Grammar.theme :=
  group (.untilClosed (fun _ => entry fun _ => .expectText) _) fun _ _ => .pure _

theorem Advancing.platforms : Advancing Grammar.platforms := by
  refine group (.commaSeparated (expectName.bind fun name => ?_)) fun _ _ => .pure _
  simp only
  split
  · exact .bind (.report _ _) fun _ => .pure _
  · exact .pure _

theorem Guarded.headerAttribute (key : Token) (header : Header) :
    Guarded (Grammar.headerAttribute key header) := by
  unfold Grammar.headerAttribute
  split
  · exact .bind .expectText fun _ => .pure _
  · exact .bind .expectText fun _ => .pure _
  · exact .bind .expectText fun _ => .pure _
  · exact .bind Advancing.platforms.guarded fun _ => .pure _
  · exact .bind Advancing.theme.guarded fun _ => .pure _
  · exact .fail _ _

theorem Guarded.headerKey : Guarded Grammar.headerKey :=
  .orRetry (.bind Advancing.expectKey.guarded fun _ => .pure _)
    (.bind .skipToAttribute fun _ => .pure _)

theorem Guarded.headerContent (key : Token) (header : Header) :
    Guarded (Grammar.headerContent key header) :=
  .orRetry (.headerAttribute key header) (.bind .skipValue fun _ => .pure _)

/-- A key takes a token, or recovery does. -/
theorem headerKey_takes {stop : Position} {tokens rest : List Token} {found : Option Token}
    {reports : List SyntaxDiagnostic} (some : tokens ≠ [])
    (run : headerKey stop tokens = .ok found rest reports) : rest.length < tokens.length := by
  have long := List.length_pos_of_ne_nil some
  rcases headerKey_cases stop tokens with ⟨key, colon, rest', rfl, _, _, run'⟩ |
    ⟨_, _, left, _, run', suffix⟩
  · rw [run', Outcome.ok.injEq] at run
    rw [← run.2.1, List.length_cons, List.length_cons]
    omega
  · rw [run', Outcome.ok.injEq] at run
    have shorter := suffix.length_le
    rw [List.length_drop] at shorter
    rw [← run.2.1]
    omega

/-- An attribute of a header: its key, or what is left out where there is none, and its content. -/
theorem headerEntry_eq (body : OpenHeader) : ∃ content : Option Token → Parser OpenHeader,
    Grammar.headerEntry body = Grammar.headerKey >>= content ∧ ∀ found, Guarded (content found) := by
  refine ⟨_, rfl, fun found => ?_⟩
  match found with
  | none => exact .bind .skipCommas fun _ => .pure _
  | some key => exact .bind (.headerContent key _) fun _ => .bind .skipCommas fun _ => .pure _

theorem Guarded.headerEntry (body : OpenHeader) : Guarded (Grammar.headerEntry body) := by
  obtain ⟨content, same, contents⟩ := headerEntry_eq body
  rw [same]
  exact .bind .headerKey contents

theorem takesWhile_headerEntry :
    TakesWhile (fun _ tokens => !endsHeader tokens) Grammar.headerEntry := by
  intro stop body tokens next rest reports goesOn run
  obtain ⟨first, others, rfl, _⟩ := token_of_goesOn (by simpa using goesOn)
  obtain ⟨content, same, contents⟩ := headerEntry_eq body
  rw [same] at run
  obtain ⟨found, between, _, _, run', behind, _⟩ := Parser.bind_eq_ok run
  have taken := headerKey_takes (List.cons_ne_nil first others) run'
  have left := ((contents found).suffix_of_ok behind).length_le
  omega

/-- A round over an attribute of a header comes to an end, and behind the place where it began, whether
or not it has recovered. -/
theorem headerEntry_advances (body : OpenHeader) (stop : Position) {tokens : List Token}
    (goesOn : endsHeader tokens = false) :
    ∃ next rest reports, headerEntry body stop tokens = .ok next rest reports ∧
      rest <:+ tokens ∧ rest.length < tokens.length := by
  have opened : Opened body.header.name body := rfl
  obtain ⟨next, rest, reports, run, _⟩ := Survives.headerEntry opened stop tokens
  exact ⟨next, rest, reports, run, (Guarded.headerEntry body).suffix_of_ok run,
    takesWhile_headerEntry stop body tokens next rest reports (by simp [goesOn]) run⟩

theorem Guarded.closeHeader (app : String) : Guarded (Grammar.closeHeader app) := by
  refine .bind (.option _) fun closed => ?_
  split
  · exact .bind .current fun _ => .report _ _
  · exact .pure _

theorem Guarded.reportMissing (app : String) (place : Position) (seen : List String) :
    Guarded (Grammar.reportMissing app place seen) := by
  rw [Grammar.reportMissing, List.forM_eq_forM]
  generalize requiredAttributes = keys
  induction keys with
  | nil => exact .pure _
  | cons key keys ih =>
    rw [List.forM_cons]
    refine .bind ?_ fun _ => ih
    split
    · exact .report _ _
    · exact .pure _

theorem Advancing.header : Advancing Grammar.header :=
  (expect (by simp)).bind fun keyword => .bind .expectName fun name => .bind .expectSymbol fun _ =>
    .bind (.loop .headerEntry takesWhile_headerEntry _) fun body => .bind (.closeHeader _) fun _ =>
      .bind (.reportMissing _ _ _) fun _ => .pure _

/-! ## Documents -/

theorem Guarded.setOnce {α : Type} (old : Option α) (duplicate : SyntaxProblem) (place : Position)
    (set : α → Document) (document : Document) (part : α) :
    Guarded (Grammar.setOnce old duplicate place set document part) := by
  cases old with
  | none => exact .pure _
  | some _ => exact .bind (.report _ _) fun _ => .pure _

theorem Advancing.statement (document : Document) : Advancing (Grammar.statement document) := by
  refine .behind .current fun token => ?_
  split
  · exact header.bind fun _ => .setOnce _ _ _ _ _ _
  · exact model.bind fun _ => .pure _
  · exact screen.bind fun _ => .pure _
  · exact navigation.bind fun _ => .setOnce _ _ _ _ _ _
  · exact api.bind fun _ => .setOnce _ _ _ _ _ _
  · exact mockData.bind fun _ => .setOnce _ _ _ _ _ _
  · exact .unexpected _

theorem Guarded.resynchronize (began : List Token) : Guarded (Grammar.resynchronize began) :=
  .skip scans_onwardTo (some began)

theorem Guarded.nextStatement (document : Document) : Guarded (Grammar.nextStatement document) :=
  .orResume (Advancing.statement document).guarded fun began =>
    .bind (.resynchronize began) fun _ => .pure _

theorem Guarded.documentEntry (state : OpenDocument) : Guarded (Grammar.documentEntry state) :=
  .bind (.isAt _) fun _ => .bind (.nextStatement _) fun _ => .pure _

/-- Recovery from a statement that failed leads behind the place where the statement began. -/
theorem nextStatement_takes {document next : Document} {stop : Position} {tokens rest : List Token}
    {reports : List SyntaxDiagnostic} (some : tokens ≠ [])
    (run : Grammar.nextStatement document stop tokens = .ok next rest reports) :
    rest.length < tokens.length := by
  have left := (Advancing.statement document).guarded.suffix stop tokens
  unfold Grammar.nextStatement Parser.orResume at run
  cases read : Grammar.statement document stop tokens with
  | ok value between earlier =>
    simp only [read, Outcome.ok.injEq] at run
    rw [← run.2.1]
    exact (Advancing.statement document).takes read
  | failed failure between earlier =>
    cases failure with
    | oversizedInteger => simp [read] at run
    | syntaxError diagnostic =>
      have recovered : (Grammar.resynchronize tokens >>= fun _ => Pure.pure document) stop between =
          .ok document (toStatement (if between.length == tokens.length then between.drop 1
            else between)) [] := rfl
      simp only [read, recovered, Outcome.after_ok, Outcome.ok.injEq] at run
      rw [← run.2.1]
      rw [read] at left
      have shorter := left.length_le
      have long := List.length_pos_of_ne_nil some
      refine Nat.lt_of_le_of_lt (scans_onwardTo.suffix none _).length_le ?_
      -- The first token is taken where the statement has failed in front of it.
      split
      · next same =>
        rw [List.length_drop, beq_iff_eq.mp same]
        omega
      · next differs =>
        rw [beq_iff_eq] at differs
        change between.length ≤ tokens.length at shorter
        omega

theorem takesWhile_documentEntry :
    TakesWhile (fun _ tokens => !tokens.isEmpty) Grammar.documentEntry := by
  intro stop state tokens next rest reports goesOn run
  obtain ⟨read, _⟩ := documentEntry_eq_ok run
  exact nextStatement_takes (by simpa using goesOn) read

theorem Guarded.documentBody : Guarded Grammar.documentBody :=
  .loop .documentEntry takesWhile_documentEntry {}

/-- A round over a statement comes to an end, and behind the place where it began, whether or not it has
recovered, unless an integer could not be converted. -/
theorem documentEntry_advances (state : OpenDocument) (stop : Position) {tokens : List Token}
    (some : tokens ≠ []) :
    (∃ next rest reports, documentEntry state stop tokens = .ok next rest reports ∧
      rest <:+ tokens ∧ rest.length < tokens.length) ∨
    ∃ rest reports, documentEntry state stop tokens = .failed .oversizedInteger rest reports := by
  cases run : documentEntry state stop tokens with
  | ok next rest reports =>
    exact .inl ⟨next, rest, reports, rfl, (Guarded.documentEntry state).suffix_of_ok run,
      takesWhile_documentEntry stop state tokens next rest reports (by simpa using some) run⟩
  | failed failure rest reports =>
    obtain rfl := documentEntry_failed run
    exact .inr ⟨rest, reports, rfl⟩

/-- A repetition of which every round takes a token goes on until there is no more. -/
theorem TakesWhile.ends {σ : Type} {more : σ → List Token → Bool} {step : σ → Parser σ}
    (takes : TakesWhile more step) {stop : Position} {state next : σ} {tokens rest : List Token}
    {reports : List SyntaxDiagnostic}
    (run : Parser.loop more step state stop tokens = .ok next rest reports) :
    more next rest = false := by
  refine Parser.loop_induct (motive := fun _ _ outcome => ∀ next rest reports,
    outcome = .ok next rest reports → more next rest = false) ?_ ?_ ?_ state tokens next rest reports run
  · rintro state tokens stopped _ _ _ ⟨⟩
    exact stopped
  · intro state tokens goesOn still next rest reports last
    have taken := takes stop state tokens next rest reports goesOn last
    have kept := still next rest reports last
    omega
  · intro state next tokens rest reports outcome _ _ later next' rest' reports' ended
    obtain ⟨more, behind, _⟩ := Outcome.after_eq_ok ended
    exact later next' rest' more behind

/-- A document is read to its end, unless an integer could not be converted. -/
theorem documentBody_ends (stop : Position) (tokens : List Token) :
    (∃ state reports, documentBody stop tokens = .ok state [] reports) ∨
      ∃ rest reports, documentBody stop tokens = .failed .oversizedInteger rest reports := by
  cases run : documentBody stop tokens with
  | ok state rest reports =>
    have ended := takesWhile_documentEntry.ends run
    obtain rfl : rest = [] := by simpa using ended
    exact .inl ⟨state, reports, rfl⟩
  | failed failure rest reports =>
    rw [documentBody_eq] at run
    obtain rfl := statements_failed run
    exact .inr ⟨rest, reports, rfl⟩

/-! ## Positions -/

/-- The parser is given what stands before the ending, if nothing else ends the tokens. -/
theorem splitEnd_append {tokens : List Token} {ending : Token} (ends : ending.kind = .eof)
    (onlyThere : ∀ token ∈ tokens, token.kind ≠ .eof) :
    Document.splitEnd (tokens ++ [ending]) = (tokens, ending.place) := by
  induction tokens with
  | nil => simp [Document.splitEnd, ends]
  | cons token tokens ih =>
    have notEnd : (token.kind == .eof) = false := by simpa using onlyThere token (by simp)
    simp [Document.splitEnd, notEnd, ih fun other among => onlyThere other (by simp [among])]

/-- Where fewer tokens are left, the position is a later one. -/
theorem later_position {tokens rest : List Token} {position : ℕ}
    (left : rest <:+ tokens.drop position) (taken : rest.length < (tokens.drop position).length) :
    ∃ position', position < position' ∧ position' ≤ tokens.length ∧ rest = tokens.drop position' := by
  rw [List.length_drop] at taken
  exact ⟨tokens.length - rest.length, by omega, by omega,
    List.suffix_iff_eq_drop.mp (left.trans (List.drop_suffix position tokens))⟩

/-- Looking ahead from a position, no farther than to the ending. -/
theorem getElem?_ahead (tokens : List Token) (ending : Token) (position ahead : ℕ) :
    (tokens ++ [ending])[min (position + ahead) tokens.length]? =
      some ((tokens.drop position)[ahead]?.getD ending) := by
  rw [List.getElem?_drop]
  rcases Nat.lt_or_ge (position + ahead) tokens.length with within | beyond
  · rw [Nat.min_eq_left within.le, List.getElem?_append_left within, List.getElem?_eq_getElem within,
      Option.getD_some]
  · rw [Nat.min_eq_right beyond, List.getElem?_eq_none beyond, Option.getD_none]
    exact List.getElem?_concat_length

/-- How the position in a list of tokens with an ending moves while a document is read from it. -/
structure ReadOnward (tokens : List Token) (ending : Token) : Prop where
  /-- Every part of the parser begins at a position in the list, and whatever it looks at from there,
  however far ahead, is in the list: the ending is the last that it sees. -/
  reads {place : List Token}
    (begins : Occurs ending.place Guarded.documentBody tokens (.begins place)) :
    ∃ position ≤ tokens.length, place = tokens.drop position ∧
      ∀ ahead, (tokens ++ [ending])[min (position + ahead) tokens.length]? =
        some (place[ahead]?.getD ending)
  /-- Every round of a repetition, of any there is in the parser, ends at a later position. -/
  rounds {began ended : List Token}
    (round : Occurs ending.place Guarded.documentBody tokens (.round began ended)) :
    ∃ position position', position < position' ∧ position' ≤ tokens.length ∧
      began = tokens.drop position ∧ ended = tokens.drop position'
  /-- A round over a statement is completed, at a later position, also where it recovers. -/
  statements (state : OpenDocument) {position : ℕ} : position < tokens.length →
    (∃ next position' reports, position < position' ∧ position' ≤ tokens.length ∧
      documentEntry state ending.place (tokens.drop position) =
        .ok next (tokens.drop position') reports) ∨
    ∃ rest reports, documentEntry state ending.place (tokens.drop position) =
      .failed .oversizedInteger rest reports
  /-- A round over an attribute of a header is completed, at a later position, also where it
  recovers. -/
  attributes (body : OpenHeader) {position : ℕ}
    (goesOn : endsHeader (tokens.drop position) = false) :
    ∃ next position' reports, position < position' ∧ position' ≤ tokens.length ∧
      headerEntry body ending.place (tokens.drop position) = .ok next (tokens.drop position') reports
  /-- No token is left at the end, unless an integer could not be converted. -/
  ends : (∃ state reports, documentBody ending.place tokens = .ok state [] reports) ∨
    ∃ rest reports, documentBody ending.place tokens = .failed .oversizedInteger rest reports

/-- The tokens of a document are read from the first to the one that ends them, by moves that stay
inside of them and rounds that lead on; and values are read as deep as they are. -/
theorem parsing_advances {tokens : List Token} {ending : Token} (ends : ending.kind = .eof)
    (onlyThere : ∀ token ∈ tokens, token.kind ≠ .eof) :
    Document.splitEnd (tokens ++ [ending]) = (tokens, ending.place) ∧ ReadOnward tokens ending ∧
      Grammar.value = Grammar.valueOf Grammar.value := by
  refine ⟨splitEnd_append ends onlyThere, ?_, value_eq⟩
  constructor
  · intro place begins
    cases begins.within with
    | begins inside =>
      refine ⟨tokens.length - place.length, by omega, List.suffix_iff_eq_drop.mp inside,
        fun ahead => ?_⟩
      rw [getElem?_ahead, ← List.suffix_iff_eq_drop.mp inside]
  · intro began ended round
    cases round.within with
    | round inside onward taken =>
      have there := List.suffix_iff_eq_drop.mp inside
      rw [there] at onward taken
      obtain ⟨position', later, within, there'⟩ := later_position onward taken
      exact ⟨_, position', later, within, there, there'⟩
  · intro state position inside
    have some : tokens.drop position ≠ [] := by simpa using inside
    refine (documentEntry_advances state ending.place some).imp_left ?_
    rintro ⟨next, rest, reports, run, left, taken⟩
    obtain ⟨position', later, within, rfl⟩ := later_position left taken
    exact ⟨next, position', reports, later, within, run⟩
  · intro body position goesOn
    obtain ⟨next, rest, reports, run, left, taken⟩ :=
      headerEntry_advances body ending.place goesOn
    obtain ⟨position', later, within, rfl⟩ := later_position left taken
    exact ⟨next, position', reports, later, within, run⟩
  · exact documentBody_ends ending.place tokens

/-- The stray colon in `app A { : }` is left out. -/
theorem parsing_advances_stray : ∃ next position reports, 3 < position ∧ position ≤ 5 ∧
    headerEntry { header := { name := "A" } } ⟨1, 12⟩
      [⟨.symbol .colon, ":", ⟨1, 9⟩⟩, ⟨.symbol .rightBrace, "\x7d", ⟨1, 11⟩⟩] =
      .ok next ([⟨.keyword .app, "app", ⟨1, 1⟩⟩, ⟨.identifier, "A", ⟨1, 5⟩⟩,
        ⟨.symbol .leftBrace, "\x7b", ⟨1, 7⟩⟩, ⟨.symbol .colon, ":", ⟨1, 9⟩⟩,
        ⟨.symbol .rightBrace, "\x7d", ⟨1, 11⟩⟩].drop position) reports := by
  obtain ⟨_, onward, _⟩ := @parsing_advances [⟨.keyword .app, "app", ⟨1, 1⟩⟩,
    ⟨.identifier, "A", ⟨1, 5⟩⟩, ⟨.symbol .leftBrace, "\x7b", ⟨1, 7⟩⟩, ⟨.symbol .colon, ":", ⟨1, 9⟩⟩,
    ⟨.symbol .rightBrace, "\x7d", ⟨1, 11⟩⟩] ⟨.eof, "", ⟨1, 12⟩⟩ rfl (by decide)
  exact @ReadOnward.attributes _ _ onward { header := { name := "A" } } 3 rfl

end Blueprint
