import Blueprint.Proofs.Recovery
import Blueprint.Proofs.Removal

/-!
What it costs to lose the closing brace of a model or a screen. Reading takes the keyword of the
next statement for the name of an entry and fails within its head, so that the next statement is
lost with the unclosed one. Everything else stays: `missing_brace_costs_two` says that the document
holds exactly the parts of the other statements, in their order, other than sections whose heads
stand in the statement that is passed over.
-/
set_option autoImplicit false

namespace Blueprint

open Grammar

/-! ## Statements behind an unclosed one -/

section Statements

variable {earlier later : List Part} {lost next : Part} {init front row back : List Token}
  {closing : Token}

theorem IsHead.startsStatement {head : Head} {words more : List Token} {first : Token}
    (isHead : IsHead head words) (opens : first.kind = .symbol .leftBrace) :
    startsStatement (words ++ first :: more) = true := by
  cases isHead with
  | named isKeyword isName named =>
    cases head with
    | app | model | screen =>
      simp [Grammar.startsStatement, isKeyword, isName, opens, Head.keyword]
    | navigation | api | mockData => simp [Head.name?] at named
  | plain isKeyword unnamed =>
    cases head with
    | app | model | screen => simp [Head.name?] at unnamed
    | navigation | api | mockData =>
      simp [Grammar.startsStatement, isKeyword, opens, Head.keyword]
  | colon isKeyword isColon unnamed =>
    cases head with
    | app | model | screen => simp [Head.name?] at unnamed
    | navigation | api | mockData =>
      simp [Grammar.startsStatement, isKeyword, isColon, opens, Head.keyword]

theorem Composed.resumes {parts : List Part} (composed : Composed parts back) : Resumes back := by
  cases composed with
  | nil => exact .inl rfl
  | cons contributes =>
    obtain ⟨isHead, opens, _, _⟩ := contributes.grouped
    rw [List.append_assoc, List.cons_append]
    exact .inr (isHead.startsStatement opens)

/-- The keyword of a statement has its own spelling. -/
def Spelt (row : List Token) : Prop :=
  ∀ token ∈ row, ∀ keyword, token.kind = .keyword keyword → token.value = keyword.spelling

/-- An unclosed statement is passed over, and reading goes on within the next one. -/
theorem documentEntry_unclosed (unclosed : Contributes lost (front ++ [closing]))
    (isBlock : lost.head.keyword = .model ∨ lost.head.keyword = .screen)
    (following : Contributes next row) (spelt : Spelt row) (resumes : Resumes back)
    (state : OpenDocument) (stop : Position) : ∃ after left diagnostic, Within row left ∧
      after.document = state.document ∧
      documentEntry state stop (front ++ (row ++ back)) =
        .ok after (left ++ back) [diagnostic] := by
  obtain @⟨words, inside, first, last, isHead, opens, _, _⟩ := following.grouped
  obtain ⟨word, others, rfl, isKeyword⟩ := isHead.starts
  have begins : BeginsHead next.head word := ⟨isKeyword, spelt word (by simp) _ isKeyword⟩
  obtain ⟨diagnostic, kept, ⟨passed, rfl⟩, fails⟩ := unclosed.unclosed isBlock isHead begins opens
    state.document stop (inside ++ [last] ++ back)
  obtain ⟨left, isLeft, resumed⟩ := resumes.toStatement (kept ++ first :: (inside ++ [last]))
  have within : Within (word :: (passed ++ kept) ++ first :: (inside ++ [last])) left :=
    Within.suffix ⟨word :: passed, List.cons_ne_nil _ _, by simp⟩ isLeft
  have whole : front ++ (word :: (passed ++ kept) ++ first :: (inside ++ [last]) ++ back) =
      front ++ word :: (passed ++ kept ++ first :: (inside ++ [last] ++ back)) := by simp
  have read : nextStatement state.document stop
      (front ++ (word :: (passed ++ kept) ++ first :: (inside ++ [last]) ++ back)) =
        .ok state.document (left ++ back) [diagnostic] := by
    rw [whole]
    refine nextStatement_failed_run fails ?_
    rw [resynchronize, Parser.skip, if_neg (by simp; omega), ← resumed]
    simp
  refine ⟨_, left, diagnostic, within, ?_, documentEntry_of_next stop read⟩
  rfl

/-- Of statements of which one is unclosed, that one and the next one are lost, with a report. -/
theorem statements_unclosed (early : Composed earlier init)
    (unclosed : Contributes lost (front ++ [closing]))
    (isBlock : lost.head.keyword = .model ∨ lost.head.keyword = .screen)
    (following : Contributes next row) (late : Composed later back) (spelt : Spelt row)
    (legible : ∀ token ∈ row, ¬ Oversized token)
    (coexist : Coexist (earlier ++ lost :: next :: later)) (stop : Position) :
    ∃ final reports, Parser.loop moreStatements documentEntry {} stop
        (init ++ (front ++ (row ++ back))) = .ok final [] reports ∧ reports ≠ [] ∧
      SameBut row (.ofParts (earlier ++ later)) final.document := by
  have kept : (earlier ++ later).Sublist (earlier ++ lost :: next :: later) :=
    (List.Sublist.refl earlier).append (((List.Sublist.refl later).cons next).cons lost)
  have begun : ({} : OpenDocument).document = .ofParts [] := rfl
  obtain ⟨before, same, goesOn⟩ :=
    early.statements begun (coexist.sublist (List.sublist_append_left _ _))
  obtain ⟨astray, left, diagnostic, within, same', run⟩ :=
    documentEntry_unclosed unclosed isBlock following spelt late.resumes before stop
  obtain ⟨after, reports', found, goesOn'⟩ :=
    statements_stray following.grouped legible late.resumes within astray stop
  rw [same', same, List.nil_append] at found
  obtain ⟨final, reports'', goesOn'', found'⟩ :=
    late.statements_behind (coexist.sublist kept) found stop
  have shorter : (left ++ back).length < (front ++ (row ++ back)).length := by
    obtain ⟨outer, some, rfl⟩ := within
    have := List.length_pos_iff.mpr some
    simp
    omega
  have more : moreStatements before (front ++ (row ++ back)) = true := by
    cases whole : front ++ (row ++ back) with
    | nil => simp [whole] at shorter
    | cons => rfl
  refine ⟨final, [diagnostic] ++ (reports' ++ reports''), ?_, by simp, found'⟩
  rw [goesOn, Parser.loop_step more run shorter, goesOn', goesOn'']
  rfl

end Statements

/-! ## The text without the brace -/

theorem placed_spelt {tiles : List Tile} {last : List Char} (tiled : Tiled tiles last)
    (place : Position) : Spelt (placed place tiles) := by
  induction tiled generalizing place with
  | last => exact fun _ member => absurd member List.not_mem_nil
  | @tile tile _ _ _ spelled _ ih =>
    refine List.forall_mem_cons.mpr ⟨fun keyword isKeyword => ?_, ih _⟩
    change tile.kind = .keyword keyword at isKeyword
    rw [isKeyword] at spelled
    exact spelled.keyword_value

theorem tokensOf_spelt (source : String) : Spelt (tokensOf source) := by
  obtain ⟨tiles, last, whole, tiled⟩ := exists_tiled source.toList
  rw [tokensOf_tiled whole tiled]
  exact placed_spelt tiled .start

/-! ## What is left of the document -/

/-- Statements with a report are a document that is not clean. -/
theorem parseTokens_reported {tokens rest : List Token} {stop : Position} {state : OpenDocument}
    {reports : List SyntaxDiagnostic} (notEmpty : tokens ≠ [])
    (run : Parser.loop moreStatements documentEntry {} stop tokens = .ok state rest reports)
    (reported : reports ≠ []) : ∃ result, Document.parseTokens tokens stop = .ok result ∧
      result.isClean = false ∧ result.document = some state.document := by
  cases tokens with
  | nil => contradiction
  | cons first others =>
    rw [Document.parseTokens, documentBody_eq, run]
    refine ⟨_, rfl, ?_, rfl⟩
    simp [ParseResult.isClean, reported]

theorem ParseResult.isClean_of_content {result result' : ParseResult}
    (same : result.content = result'.content) : result.isClean = result'.isClean := by
  have cleanness (result : ParseResult) :
      result.isClean = (result.content.1.isSome && result.content.2.isEmpty) := by
    rw [isClean, content, List.isEmpty_map]
  rw [cleanness, cleanness, same]

/-- What is read from tokens is read from the same ones at other places. -/
theorem parse_of_same {source : String} {tokens : List Token} {stop : Position}
    {result : ParseResult} (parsed : Document.parseTokens tokens stop = .ok result)
    (alike : SameTokens tokens (tokensOf source)) : ∃ result',
      Document.parse source = .ok result' ∧ result'.isClean = result.isClean ∧
        result'.document = result.document := by
  obtain ⟨stop', run⟩ := parse_eq source
  have same := parseTokens_same alike stop stop'
  rw [parsed, ← run] at same
  cases read : Document.parse source with
  | error error => simp [read, Except.map] at same
  | ok result' =>
    simp only [read, Except.map, Except.ok.injEq] at same
    exact ⟨result', rfl, ParseResult.isClean_of_content same.symm, congrArg Prod.fst same.symm⟩

section Sources

variable {before after : String} {result : ParseResult} {heads : List Head} {lost next : Head}
  {init statement row back : List Token} {closing : Token}

/-- A model or a screen that loses its closing brace takes the next statement with it, and nothing
else: the other parts of the document stay, in their order, but for a section of which the next
statement holds a head. Both are left out with a report. -/
theorem missing_brace_costs_two
    (parsed : Document.parse (before ++ "\x7d" ++ after) = .ok result)
    (clean : result.isClean = true)
    (whole : tokensOf (before ++ "\x7d" ++ after) =
      init ++ (statement ++ closing :: (row ++ back)))
    (stands : closing.place = Position.start.after before.toList)
    (front : Splits IsStatement heads init) (unclosed : IsStatement lost (statement ++ [closing]))
    (isBlock : lost.keyword = .model ∨ lost.keyword = .screen) (following : IsStatement next row)
    (legible : ∀ token ∈ row, ¬ Oversized token)
    (apart : WordsApart before.toList after.toList) :
    ∃ earlier own other later damaged document,
      result.document = some (.ofParts (earlier ++ own :: other :: later)) ∧
      earlier.map Part.head = heads ∧ own.head = lost ∧ other.head = next ∧
      Document.parse (before ++ after) = .ok damaged ∧ damaged.isClean = false ∧
      damaged.document = some document ∧ SameBut row (.ofParts (earlier ++ later)) document := by
  obtain ⟨stop, run⟩ := parse_eq (before ++ "\x7d" ++ after)
  rw [run] at parsed
  obtain ⟨state, rest, statements, isDocument, _⟩ := statements_of_clean parsed clean
  obtain ⟨parts, composed, coexist, same⟩ := statements_composed statements rfl .nil
  have known := composed.splits.nested.known
  have spelt := tokensOf_spelt (before ++ "\x7d" ++ after)
  rw [whole] at composed known spelt
  obtain ⟨earlier, others, rfl, isHeads, early, composed⟩ := composed.split front
  rw [List.append_cons] at composed
  obtain ⟨own, others, rfl, isLost, contributes, composed⟩ := composed.first unclosed
  obtain ⟨other, later, rfl, isNext, contributes', late⟩ := composed.first following
  obtain ⟨word, words, rfl, isKeyword⟩ := contributes'.grouped.starts
  have spelt' : Spelt (word :: words) := fun token member => spelt token
    (List.mem_append_right _ (List.mem_append_right _ (List.mem_cons_of_mem _
      (List.mem_append_left _ member))))
  obtain ⟨final, reports, run', reported, found⟩ := statements_unclosed early contributes
    (isLost ▸ isBlock) contributes' late spelt' legible coexist stop
  have notEmpty : init ++ (statement ++ (word :: words ++ back)) ≠ [] := by simp
  obtain ⟨read, parsed', notClean, isFinal⟩ := parseTokens_reported notEmpty run' reported
  have alike : SameTokens (init ++ (statement ++ (word :: words ++ back)))
      (tokensOf (before ++ after)) := by
    rw [← List.append_assoc] at whole ⊢
    refine tokensOf_without whole stands (fun token member => (known token ?_).1) isKeyword apart
    rw [← List.append_assoc]
    exact List.mem_append_left _ member
  obtain ⟨damaged, parsed'', clean', isFinal'⟩ := parse_of_same parsed' alike
  refine ⟨earlier, own, other, later, damaged, final.document, ?_, isHeads, isLost, isNext,
    parsed'', clean'.trans notClean, isFinal'.trans isFinal, found⟩
  rw [isDocument, same]
  rfl

end Sources

/-- Three models and a header, up to the closing brace of the second model. -/
def beforeBrace : String := "model K \x7b\x7d model M \x7bid: string"

/-- What stands behind that brace. -/
def afterBrace : String := " model N \x7b\x7d app A \x7bname: 'a' id: 'b' version: '1'\x7d"

/-- A word or a mark in the first line. -/
def Token.inFirstLine (kind : TokenKind) (value : String) (column : Nat) : Token :=
  ⟨kind, value, ⟨1, column⟩⟩

theorem nested_of_levels {row : List Token} (levels : ∀ token ∈ row, token.kind.isLevel = true) :
    Nested row := by
  induction row with
  | nil => exact .nil
  | cons token row ih =>
    exact .level (levels token List.mem_cons_self)
      (ih fun other later => levels other (List.mem_cons_of_mem token later))

/-- The document of the text with the brace. -/
def threeModels : Document :=
  { header := some { name := "A", displayName := "a", appId := "b", version := "1" }
    models := [⟨"K", []⟩, ⟨"M", [{ name := "id", type := { name := "string" } }]⟩, ⟨"N", []⟩] }

set_option maxRecDepth 2000 in
theorem parse_threeModels : Document.parse (beforeBrace ++ "\x7d" ++ afterBrace) =
    .ok ⟨some threeModels, []⟩ := by
  cbv

set_option maxRecDepth 2000 in
theorem missing_brace_costs_two_model :
    ∃ result earlier own other later damaged document,
      Document.parse (beforeBrace ++ "\x7d" ++ afterBrace) = .ok result ∧ result.isClean = true ∧
      result.document = some (.ofParts (earlier ++ own :: other :: later)) ∧
      earlier.map Part.head = [.model "K"] ∧ own.head = .model "M" ∧ other.head = .model "N" ∧
      Document.parse (beforeBrace ++ afterBrace) = .ok damaged ∧ damaged.isClean = false ∧
      damaged.document = some document ∧
      (Document.ofParts (earlier ++ later)).header = document.header ∧
      (Document.ofParts (earlier ++ later)).models = document.models := by
  let model (column : Nat) : Token := .inFirstLine (.keyword .model) "model" column
  let word (value : String) (column : Nat) : Token := .inFirstLine .identifier value column
  let mark (symbol : Symbol) (column : Nat) : Token :=
    .inFirstLine (.symbol symbol) (String.singleton symbol.char) column
  let back := (tokensOf (beforeBrace ++ "\x7d" ++ afterBrace)).drop 15
  have whole : tokensOf (beforeBrace ++ "\x7d" ++ afterBrace) =
      [model 1, word "K" 7, mark .leftBrace 9, mark .rightBrace 10] ++
        ([model 12, word "M" 18, mark .leftBrace 20, word "id" 21, mark .colon 23,
          word "string" 25] ++ mark .rightBrace 31 ::
            ([model 33, word "N" 39, mark .leftBrace 41, mark .rightBrace 42] ++ back)) := by
    decide +kernel
  have first : IsStatement (.model "K") ([model 1, word "K" 7] ++ mark .leftBrace 9 ::
      ([] ++ [mark .rightBrace 10])) := .group (.named rfl rfl rfl) rfl .nil rfl
  have unclosed : IsStatement (.model "M") ([model 12, word "M" 18] ++ mark .leftBrace 20 ::
      ([word "id" 21, mark .colon 23, word "string" 25] ++ [mark .rightBrace 31])) :=
    .group (.named rfl rfl rfl) rfl (nested_of_levels (by decide)) rfl
  have following : IsStatement (.model "N") ([model 33, word "N" 39] ++ mark .leftBrace 41 ::
      ([] ++ [mark .rightBrace 42])) := .group (.named rfl rfl rfl) rfl .nil rfl
  have legible : ∀ token ∈ [model 33, word "N" 39] ++ mark .leftBrace 41 ::
      ([] ++ [mark .rightBrace 42]), ¬ Oversized token := by
    intro token member
    fin_cases member <;> exact fun oversized => absurd oversized.1 (by decide)
  have apart : WordsApart beforeBrace.toList afterBrace.toList := by
    intro _ _ _ c member
    have blank : afterBrace.toList.head? = some ' ' := by decide +kernel
    obtain rfl : ' ' = c := Option.some.inj (blank.symm.trans member)
    decide
  obtain ⟨earlier, own, other, later, damaged, document, isDocument, heads, isOwn, isOther, read,
    notClean, isDamaged, same⟩ := missing_brace_costs_two parse_threeModels rfl whole
      (by decide +kernel) (.cons first .nil) unclosed (.inl rfl) following legible apart
  exact ⟨_, earlier, own, other, later, damaged, document, parse_threeModels, rfl, isDocument,
    heads, isOwn, isOther, read, notClean, isDamaged, same.header, same.models⟩

set_option maxRecDepth 2000 in
/-- Without the closing brace of the second of three models, the third one is lost as well. -/
theorem following_statement_lost :
    (∃ result document, Document.parse (beforeBrace ++ "\x7d" ++ afterBrace) = .ok result ∧
        result.isClean = true ∧ result.document = some document ∧
        document.models.map Model.name = ["K", "M", "N"]) ∧
      ∃ damaged document, Document.parse (beforeBrace ++ afterBrace) = .ok damaged ∧
        damaged.document = some document ∧ document.models.map Model.name = ["K"] := by
  have damaged : Document.parse (beforeBrace ++ afterBrace) =
      .ok ⟨some { threeModels with models := [⟨"K", []⟩] },
        [⟨.unexpected (.kinds [.symbol .colon]) (some "N"), ⟨1, 38⟩⟩]⟩ := by cbv
  exact ⟨⟨_, _, parse_threeModels, rfl, rfl, rfl⟩, _, _, damaged, rfl, rfl⟩

end Blueprint
