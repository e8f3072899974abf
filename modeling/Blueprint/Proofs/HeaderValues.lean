import Blueprint.Proofs.HeaderParts

/-!
The values of the attributes of a header, as rows of tokens: values that fit, which are read, and
values of any kind, which are passed over as a whole. A theme is read where one is written, and
nowhere else.
-/
set_option autoImplicit false

namespace Blueprint

open Grammar

/-! ## Values of any kind -/

/-- Kinds of tokens that neither open nor close a group nor end the source. -/
def TokenKind.isPlain : TokenKind → Bool
  | .symbol .leftBrace | .symbol .rightBrace | .symbol .leftBracket | .symbol .rightBracket => false
  | .eof => false
  | _ => true

/-- Rows of any tokens in which braces and brackets are properly nested and balanced. -/
inductive Balanced : List Token → Prop where
  | nil : Balanced []
  | plain {token : Token} {rest : List Token} (isPlain : token.kind.isPlain = true)
    (tail : Balanced rest) : Balanced (token :: rest)
  | group {first last : Token} {opening closing : Symbol} {inside rest : List Token}
    (pair : Pair opening closing) (opens : first.kind = .symbol opening)
    (closes : last.kind = .symbol closing) (content : Balanced inside) (tail : Balanced rest) :
    Balanced (first :: (inside ++ last :: rest))

/-- One token, or one properly nested group. -/
inductive IsValue : List Token → Prop where
  | token {token : Token} (isPlain : token.kind.isPlain = true) : IsValue [token]
  | group {first last : Token} {opening closing : Symbol} {inside : List Token}
    (pair : Pair opening closing) (opens : first.kind = .symbol opening)
    (closes : last.kind = .symbol closing) (content : Balanced inside) :
    IsValue (first :: (inside ++ [last]))

theorem weight_plain {token : Token} (isPlain : token.kind.isPlain = true) : weight token = 0 := by
  unfold weight
  split <;> simp_all [TokenKind.isPlain]

theorem Balanced.excess_eq {row : List Token} (balanced : Balanced row) : excess row = 0 := by
  induction balanced with
  | nil => rfl
  | plain isPlain _ ih => rw [excess, weight_plain isPlain, ih]; rfl
  | group pair opens closes _ _ ih ih' =>
    obtain ⟨first, last⟩ := pair.weights opens closes
    rw [excess, excess_append, excess, first, last, ih, ih']
    rfl

section AfterValue

variable {depth : Nat} {rest : List Token}

theorem afterValue_opening {opening closing : Symbol} (pair : Pair opening closing) {token : Token}
    (opens : token.kind = .symbol opening) :
    afterValue depth (token :: rest) = afterValue (depth + 1) rest := by
  cases depth <;> cases pair <;> simp [afterValue, opens]

theorem afterValue_closing {opening closing : Symbol} (pair : Pair opening closing) {token : Token}
    (closes : token.kind = .symbol closing) :
    afterValue (depth + 1) (token :: rest) = if depth = 0 then rest else afterValue depth rest := by
  cases pair <;> simp [afterValue, closes]

theorem afterValue_plain {token : Token} (isPlain : token.kind.isPlain = true) :
    afterValue depth (token :: rest) = if depth = 0 then rest else afterValue depth rest := by
  have marks : (token.kind == .symbol .leftBrace || token.kind == .symbol .leftBracket) = false ∧
      (token.kind == .symbol .rightBrace || token.kind == .symbol .rightBracket) = false := by
    generalize token.kind = kind at isPlain
    cases kind with
    | symbol mark => cases mark <;> first | contradiction | exact ⟨rfl, rfl⟩
    | keyword | identifier | number | string | unknown | eof => exact ⟨rfl, rfl⟩
  cases depth <;> simp [Grammar.afterValue, marks.1, marks.2]

theorem Balanced.afterValue {row : List Token} (balanced : Balanced row) (depth : Nat)
    (rest : List Token) :
    Grammar.afterValue (depth + 1) (row ++ rest) = Grammar.afterValue (depth + 1) rest := by
  induction balanced generalizing depth rest with
  | nil => rfl
  | plain isPlain _ ih =>
    rw [List.cons_append, afterValue_plain isPlain, if_neg (by simp)]
    exact ih depth rest
  | group pair opens closes _ _ ih ih' =>
    rw [List.cons_append, List.append_assoc, List.cons_append, afterValue_opening pair opens, ih,
      afterValue_closing pair closes, if_neg (by simp)]
    exact ih' depth rest

/-- A value is passed over as a whole. -/
theorem IsValue.afterValue {row : List Token} (isValue : IsValue row) (rest : List Token) :
    Grammar.afterValue 0 (row ++ rest) = rest := by
  cases isValue with
  | token isPlain => rw [List.singleton_append, afterValue_plain isPlain, if_pos rfl]
  | group pair opens closes content =>
    rw [List.cons_append, List.append_assoc, afterValue_opening pair opens, content.afterValue,
      List.singleton_append, afterValue_closing pair closes, if_pos rfl]

end AfterValue

/-- What begins with a value begins with no other one. -/
theorem IsValue.unique {row row' rest rest' : List Token} (isValue : IsValue row)
    (isValue' : IsValue row') (same : row ++ rest = row' ++ rest') : row = row' := by
  have left : rest = rest' := by rw [← isValue.afterValue rest, same, isValue'.afterValue]
  rw [left] at same
  exact List.append_cancel_right same

/-! ## Themes -/

/-- Texts under names, with any commas after each, put into fields. -/
inductive ThemeEntries : Fields String → List Token → Fields String → Prop where
  | nil {fields : Fields String} : ThemeEntries fields [] fields
  | entry {fields final : Fields String} {key colon text : Token} {commas rest : List Token}
    (isName : key.kind.isName = true) (isColon : colon.kind = .symbol .colon)
    (isText : text.kind = .string) (areCommas : Commas commas)
    (tail : ThemeEntries (Fields.insert key.value text.value fields) rest final) :
    ThemeEntries fields (key :: colon :: text :: (commas ++ rest)) final

/-- A theme: texts under names between braces. -/
inductive ThemeGroup : Fields String → List Token → Prop where
  | braces {fields : Fields String} {first last : Token} {inside : List Token}
    (opens : first.kind = .symbol .leftBrace) (closes : last.kind = .symbol .rightBrace)
    (entries : ThemeEntries [] inside fields) : ThemeGroup fields (first :: (inside ++ [last]))

/-- Reads the next text of a theme. -/
def themeEntry (fields : Fields String) : Parser (Fields String) := do
  let key ← Parser.expectKey
  let text ← Parser.expectText
  Parser.skipCommas
  return Fields.insert key.value text fields

theorem isPlain_of_isName {kind : TokenKind} (isName : kind.isName = true) : kind.isPlain = true := by
  cases kind with
  | keyword | identifier => rfl
  | symbol | string | number | unknown | eof => contradiction

theorem Balanced.commas {commas rest : List Token} (areCommas : Commas commas)
    (tail : Balanced rest) : Balanced (commas ++ rest) := by
  induction commas with
  | nil => exact tail
  | cons comma commas ih =>
    exact .plain (by rw [areCommas comma List.mem_cons_self]; rfl)
      (ih fun token member => areCommas token (List.mem_cons_of_mem comma member))

theorem ThemeEntries.balanced {fields final : Fields String} {row : List Token}
    (entries : ThemeEntries fields row final) : Balanced row := by
  induction entries with
  | nil => exact .nil
  | entry isName isColon isText areCommas _ ih =>
    exact .plain (isPlain_of_isName isName) (.plain (by rw [isColon]; rfl)
      (.plain (by rw [isText]; rfl) (.commas areCommas ih)))

theorem ThemeGroup.isValue {fields : Fields String} {row : List Token}
    (theme : ThemeGroup fields row) : IsValue row := by
  cases theme with
  | braces opens closes entries => exact .group .braces opens closes entries.balanced

/-- No comma stands where the next text of a theme or its end does. -/
theorem ThemeEntries.no_comma {fields final : Fields String} {row : List Token}
    (entries : ThemeEntries fields row final) {last : Token}
    (closes : last.kind = .symbol .rightBrace) (rest : List Token) :
    Parser.startsWith (.symbol .comma) (row ++ last :: rest) = false := by
  cases entries with
  | nil => simp [Parser.startsWith, closes]
  | @entry _ _ key _ _ _ _ isName =>
    have notComma : key.kind ≠ .symbol .comma := by
      intro isComma
      rw [isComma] at isName
      contradiction
    simp [Parser.startsWith, notComma]

theorem expectText_run {token : Token} (isText : token.kind = .string) (stop : Position)
    (rest : List Token) : Parser.expectText stop (token :: rest) = .ok token.value rest [] :=
  Parser.bind_run_clean (Parser.accept_run (by simp [isText]) _ stop rest) _

theorem themeEntry_run {fields : Fields String} {key colon text : Token} {commas rest : List Token}
    (isName : key.kind.isName = true) (isColon : colon.kind = .symbol .colon)
    (isText : text.kind = .string) (areCommas : Commas commas)
    (ends : Parser.startsWith (.symbol .comma) rest = false) (stop : Position) :
    themeEntry fields stop (key :: colon :: text :: (commas ++ rest)) =
      .ok (Fields.insert key.value text.value fields) rest [] := by
  have skipped : Parser.skipCommas stop (commas ++ rest) = .ok () rest [] := by
    rw [Parser.skipCommas, Parser.skip, afterCommas_append areCommas ends]
  rw [themeEntry, Parser.bind_run_clean (expectKey_run isName isColon stop _),
    Parser.bind_run_clean (expectText_run isText stop _), Parser.bind_run_clean skipped]
  rfl

theorem ThemeEntries.run {fields final : Fields String} {row : List Token}
    (entries : ThemeEntries fields row final) {last : Token}
    (closes : last.kind = .symbol .rightBrace) (stop : Position) (rest : List Token) :
    Parser.untilClosed .rightBrace themeEntry fields stop (row ++ last :: rest) =
      .ok final (last :: rest) [] := by
  induction entries with
  | nil => exact Parser.loop_stop (by simp [Parser.stillOpen, closes])
  | @entry fields final key colon text commas row isName isColon isText areCommas tail ih =>
    have taken : themeEntry fields stop _ = _ :=
      themeEntry_run isName isColon isText areCommas (tail.no_comma closes rest) stop
    have goesOn : key.kind ≠ .symbol .rightBrace := by
      intro isBrace
      rw [isBrace] at isName
      contradiction
    simp only [List.cons_append, List.append_assoc]
    exact (Parser.loop_step (by simpa [Parser.stillOpen] using goesOn) taken
      (by simp only [List.length_cons, List.length_append]; omega)).trans
        ((Outcome.after_nil _).trans ih)

/-- Where a theme is written, it is read. -/
theorem ThemeGroup.run {fields : Fields String} {row : List Token} (theme : ThemeGroup fields row)
    (stop : Position) (rest : List Token) : Grammar.theme stop (row ++ rest) = .ok fields rest [] := by
  cases theme with
  | @braces first last inside opens closes entries =>
    have content := entries.run closes stop rest
    have whole : Grammar.theme stop (first :: (inside ++ last :: rest)) = .ok fields rest [] := by
      refine (Parser.bind_run_clean (expectSymbol_run opens stop _) _).trans ?_
      refine (Parser.bind_run_clean content _).trans ?_
      exact Parser.bind_run_clean (expectSymbol_run closes stop _) _
    simpa using whole

theorem themeEntry_eq_ok {fields next : Fields String} {stop : Position} {tokens rest : List Token}
    {reports : List SyntaxDiagnostic} (success : themeEntry fields stop tokens = .ok next rest reports) :
    ∃ key colon text commas, tokens = key :: colon :: text :: (commas ++ rest) ∧
      key.kind.isName = true ∧ colon.kind = .symbol .colon ∧ text.kind = .string ∧ Commas commas ∧
      next = Fields.insert key.value text.value fields := by
  obtain ⟨key', afterKey, _, _, named, success, _⟩ := Parser.bind_eq_ok success
  obtain ⟨text', afterText, _, _, texted, success, _⟩ := Parser.bind_eq_ok success
  obtain ⟨_, afterMarks, _, _, skipped, delivered, _⟩ := Parser.bind_eq_ok success
  obtain ⟨text, others, _, _, isText, value, _⟩ := Parser.bind_eq_ok texted
  have noEnd : [TokenKind.string].contains .eof = false := rfl
  obtain ⟨rfl, isString⟩ := Parser.accept_eq_ok noEnd isText
  simp only [Parser.pure_run, Outcome.ok.injEq] at value delivered
  obtain ⟨rfl, rfl, _⟩ := value
  obtain ⟨rfl, rfl, _⟩ := delivered
  simp only [Parser.skipCommas, Parser.skip, Outcome.ok.injEq, true_and] at skipped
  obtain ⟨commas, areCommas, whole⟩ := exists_commas others
  rw [skipped.1] at whole
  rcases expectKey_cases stop tokens with
    ⟨key, colon, rest', rfl, isName, isColon, run⟩ | run | ⟨key, rest', rfl, run⟩
  · rw [run, Outcome.ok.injEq] at named
    obtain ⟨rfl, rfl, _⟩ := named
    exact ⟨key, colon, text, commas, by rw [← whole], isName, isColon, by simpa using isString,
      areCommas, rfl⟩
  · rw [run] at named
    contradiction
  · rw [run] at named
    contradiction

theorem themeEntries_of_ok {fields final : Fields String} {stop : Position} {tokens rest : List Token}
    {reports : List SyntaxDiagnostic}
    (success : Parser.untilClosed .rightBrace themeEntry fields stop tokens = .ok final rest reports) :
    ∃ row, tokens = row ++ rest ∧ ThemeEntries fields row final := by
  refine Parser.loop_induct (motive := fun fields tokens outcome => ∀ final rest reports,
    outcome = .ok final rest reports → ∃ row, tokens = row ++ rest ∧ ThemeEntries fields row final)
    ?_ ?_ ?_ fields tokens final rest reports success
  · rintro fields tokens _ _ _ _ ⟨⟩
    exact ⟨[], rfl, .nil⟩
  · intro fields tokens _ _ final rest reports run
    obtain ⟨key, colon, text, commas, rfl, isName, isColon, isText, areCommas, rfl⟩ :=
      themeEntry_eq_ok run
    exact ⟨key :: colon :: text :: (commas ++ []), by simp,
      .entry isName isColon isText areCommas .nil⟩
  · intro fields next tokens between earlier outcome _ run later final rest reports success
    obtain ⟨others, run', _⟩ := Outcome.after_eq_ok success
    obtain ⟨row, rfl, entries⟩ := later final rest others run'
    obtain ⟨key, colon, text, commas, rfl, isName, isColon, isText, areCommas, rfl⟩ :=
      themeEntry_eq_ok run
    exact ⟨key :: colon :: text :: (commas ++ row), by simp,
      .entry isName isColon isText areCommas entries⟩

/-- Where a theme is read, one is written. -/
theorem themeGroup_of_ok {fields : Fields String} {stop : Position} {tokens rest : List Token}
    {reports : List SyntaxDiagnostic} (success : theme stop tokens = .ok fields rest reports) :
    ∃ row, tokens = row ++ rest ∧ ThemeGroup fields row := by
  obtain ⟨first, between, _, _, opened, success, _⟩ := Parser.bind_eq_ok success
  obtain ⟨found, ending, _, _, content, success, _⟩ := Parser.bind_eq_ok success
  obtain ⟨last, others, _, _, closed, delivered, _⟩ := Parser.bind_eq_ok success
  have noOpen : [TokenKind.symbol .leftBrace].contains .eof = false := rfl
  have noClose : [TokenKind.symbol .rightBrace].contains .eof = false := rfl
  obtain ⟨rfl, opens⟩ := Parser.accept_eq_ok noOpen opened
  obtain ⟨rfl, closes⟩ := Parser.accept_eq_ok noClose closed
  simp only [Parser.pure_run, Outcome.ok.injEq] at delivered
  obtain ⟨rfl, rfl, _⟩ := delivered
  obtain ⟨inside, rfl, entries⟩ := themeEntries_of_ok content
  exact ⟨first :: (inside ++ [last]), by simp,
    .braces (by simpa using opens) (by simpa using closes) entries⟩

/-! ## Platforms -/

/-- Names of platforms with a comma between each two, and perhaps one behind the last. -/
inductive PlatformNames : List Platform → List Token → Prop where
  | nil : PlatformNames [] []
  | last {name : Token} {platform : Platform} (isName : name.kind.isName = true)
    (known : Platform.ofName? name.value = some platform) : PlatformNames [platform] [name]
  | more {name comma : Token} {platform : Platform} {found : List Platform} {rest : List Token}
    (isName : name.kind.isName = true) (known : Platform.ofName? name.value = some platform)
    (isComma : comma.kind = .symbol .comma) (tail : PlatformNames found rest) :
    PlatformNames (platform :: found) (name :: comma :: rest)

/-- A list of platforms: their names between brackets. -/
inductive PlatformGroup : List Platform → List Token → Prop where
  | brackets {found : List Platform} {first last : Token} {inside : List Token}
    (opens : first.kind = .symbol .leftBracket) (closes : last.kind = .symbol .rightBracket)
    (names : PlatformNames found inside) : PlatformGroup found (first :: (inside ++ [last]))

/-- Reads the name of a platform, or reports that there is none of the name. -/
def platformName : Parser (Option Platform) := do
  let name ← Parser.expectName
  let platform := Platform.ofName? name.value
  if platform.isNone then
    Parser.report (.unknownPlatform name.value) name.place
  return platform

/-- Reads the next platform of a list, and whether a comma follows it. -/
def platformStep (state : List (Option Platform) × Bool) :
    Parser (List (Option Platform) × Bool) := do
  let next ← platformName
  let more ← Parser.option (.symbol .comma)
  return (state.1 ++ [next], more)

theorem platformName_run {name : Token} {platform : Platform} (isName : name.kind.isName = true)
    (known : Platform.ofName? name.value = some platform) (stop : Position) (rest : List Token) :
    platformName stop (name :: rest) = .ok (some platform) rest [] := by
  refine (Parser.bind_run_clean (Parser.accept_run isName _ stop rest) _).trans ?_
  rw [known]
  rfl

theorem platformStep_run {name : Token} {platform : Platform} (isName : name.kind.isName = true)
    (known : Platform.ofName? name.value = some platform) (stop : Position) (rest : List Token)
    (state : List (Option Platform) × Bool) :
    platformStep state stop (name :: rest) =
      if Parser.startsWith (.symbol .comma) rest then
        .ok (state.1 ++ [some platform], true) (rest.drop 1) []
      else .ok (state.1 ++ [some platform], false) rest [] := by
  rw [platformStep, Parser.bind_run_clean (platformName_run isName known stop rest), Parser.bind_run,
    Parser.option, Parser.takeIf_run]
  cases Parser.startsWith (.symbol .comma) rest <;> rfl

theorem PlatformNames.run {found : List Platform} {row : List Token}
    (names : PlatformNames found row) {last : Token} (closes : last.kind = .symbol .rightBracket)
    (stop : Position) (rest : List Token) (items : List (Option Platform)) :
    ∃ more, Parser.loop (fun state tokens => state.2 && Parser.stillOpen .rightBracket tokens)
      platformStep (items, true) stop (row ++ last :: rest) =
        .ok (items ++ found.map some, more) (last :: rest) [] := by
  have goesOn {name : Token} {others : List Token} (isName : name.kind.isName = true) :
      (true && Parser.stillOpen .rightBracket (name :: others)) = true := by
    have notEnd : name.kind ≠ .symbol .rightBracket := by
      intro isEnd
      rw [isEnd] at isName
      contradiction
    simpa [Parser.stillOpen] using notEnd
  induction names generalizing items with
  | nil => exact ⟨true, by simpa using Parser.loop_stop (by simp [Parser.stillOpen, closes])⟩
  | @last name platform isName known =>
    have taken := platformStep_run isName known stop (last :: rest) (items, true)
    rw [if_neg (by simp [Parser.startsWith, closes])] at taken
    exact ⟨false, (Parser.loop_step (goesOn isName) taken (by simp)).trans
      ((Outcome.after_nil _).trans (Parser.loop_stop rfl))⟩
  | @more name comma platform found row isName known isComma tail ih =>
    have taken := platformStep_run isName known stop (comma :: (row ++ last :: rest)) (items, true)
    rw [if_pos (by simp [Parser.startsWith, isComma])] at taken
    obtain ⟨more, later⟩ := ih (items ++ [some platform])
    refine ⟨more, (Parser.loop_step (goesOn isName) taken ?_).trans
      ((Outcome.after_nil _).trans ?_)⟩
    · simp only [List.drop_succ_cons, List.drop_zero, List.length_cons]
      omega
    · simpa using later

/-- Where platforms are listed, they are read. -/
theorem PlatformGroup.run {found : List Platform} {row : List Token}
    (platforms : PlatformGroup found row) (stop : Position) (rest : List Token) :
    Grammar.platforms stop (row ++ rest) = .ok found rest [] := by
  cases platforms with
  | @brackets first last inside opens closes names =>
    obtain ⟨more, content⟩ := names.run closes stop rest []
    have listed : Parser.commaSeparated platformName stop (inside ++ last :: rest) =
        .ok (found.map some) (last :: rest) [] :=
      Parser.bind_run_clean content _
    have whole : Grammar.platforms stop (first :: (inside ++ last :: rest)) =
        .ok ((found.map some).filterMap id) rest [] := by
      refine (Parser.bind_run_clean (expectSymbol_run opens stop _) _).trans ?_
      refine (Parser.bind_run_clean listed _).trans ?_
      exact Parser.bind_run_clean (expectSymbol_run closes stop _) _
    have kept : (found.map some).filterMap id = found := by
      rw [List.filterMap_map]
      exact List.filterMap_some
    rw [kept] at whole
    simpa using whole

end Blueprint
