import Blueprint.Proofs.NamedBlocks
import Blueprint.Proofs.SheetPieces

/-!
What a sheet describes is extracted from a source that lays it out: every block is found where it
stands and nowhere else, and what stands between its braces gives the model, the screen or the endpoint
back.
-/
set_option autoImplicit false

namespace Blueprint

open Text Extraction

variable {β : Type}

/-! ## Where blocks may begin -/

/-- Blanks, a name and an opening brace behind a keyword. -/
theorem bridge_named {keyword : String} {text rest rest' name more rest'' : List Char}
    (literal : afterLiteral? keyword text = some rest) (blanks : afterSomeBlanks? rest = some rest')
    (named : word? rest' = some (name, more)) (brace : afterMark? '\x7b' more = some rest'') :
    ∃ between, text = keyword.toList ++ (between ++ '\x7b' :: rest'') ∧
      WordEnds (between ++ '\x7b' :: rest'') ∧ '"' ∉ between ∧ ∃ c ∈ between, isBlank c = true := by
  obtain ⟨gap, blank, someBlank, rfl⟩ := afterSomeBlanks?_eq_some blanks
  obtain ⟨rfl, letters⟩ := word?_eq_some named
  obtain ⟨gap', blank', rfl⟩ := afterMark?_eq_some brace
  obtain ⟨c, others, rfl⟩ := List.exists_cons_of_ne_nil someBlank
  have isBlank := blank c List.mem_cons_self
  refine ⟨c :: others ++ (name ++ gap'), ?_, .ofBlank isBlank _, ?_, c, by simp, isBlank⟩
  · rw [afterLiteral?_eq_some literal]
    simp
  · intro member
    rcases List.mem_append.mp member with inGap | member
    · exact absurd (blank _ inGap) (by decide)
    rcases List.mem_append.mp member with inName | inGap
    · exact absurd (letters _ inName) (by decide)
    · exact absurd (blank' _ inGap) (by decide)

theorem answersAt_namedBlock {keyword : String} (isWord : IsWord keyword.toList) :
    AnswersAt keyword true (namedBlock keyword) where
  isWord := isWord
  answer {insideWord text found} success := by
    cases insideWord with
    | true => simp [namedBlock, failure] at success
    | false =>
      simp only [namedBlock, Bool.false_eq_true, if_false, Option.bind_eq_bind,
        Option.bind_eq_some_iff] at success
      obtain ⟨rest, literal, rest', blanks, ⟨name, more⟩, named, rest'', brace, _⟩ := success
      obtain ⟨between, whole, ends, unquoted, blank⟩ := bridge_named literal blanks named brace
      exact ⟨rfl, between, rest'', whole, ends, unquoted, fun _ => blank⟩

theorem answersAt_endpointBlock : AnswersAt "endpoint" true endpointBlock where
  isWord := by decide
  answer {insideWord text found} success := by
    cases insideWord with
    | true => simp [endpointBlock, failure] at success
    | false =>
      simp only [endpointBlock, Bool.false_eq_true, if_false, Option.bind_eq_bind,
        Option.bind_eq_some_iff] at success
      obtain ⟨rest, literal, rest', blanks, ⟨name, more⟩, named, rest'', brace, _⟩ := success
      obtain ⟨between, whole, ends, unquoted, blank⟩ := bridge_named literal blanks named brace
      exact ⟨rfl, between, rest'', whole, ends, unquoted, fun _ => blank⟩

theorem answersAt_apiBlock : AnswersAt "api" false apiBlock where
  isWord := by decide
  answer {insideWord text found} success := by
    cases insideWord with
    | true => simp [apiBlock, failure] at success
    | false =>
      simp only [apiBlock, Bool.false_eq_true, if_false, Option.bind_eq_bind,
        Option.bind_eq_some_iff] at success
      obtain ⟨rest, literal, rest', brace, _⟩ := success
      obtain ⟨gap, blank, rfl⟩ := afterMark?_eq_some brace
      refine ⟨rfl, gap, rest', afterLiteral?_eq_some literal, blank.wordEnds (by decide) rest', ?_,
        by simp⟩
      intro member
      exact absurd (blank _ member) (by decide)

/-! ## Named blocks -/

theorem namedBlock_laid {keyword name : String} {gap gap' body rest : List Char}
    (isName : IsWord name.toList) (blank : Blank gap) (apart : gap ≠ []) (blank' : Blank gap')
    (closed : '\x7d' ∉ body) :
    namedBlock keyword false (keyword.toList ++ (gap ++ (name.toList ++ (gap' ++
      '\x7b' :: (body ++ '\x7d' :: rest))))) =
      some (⟨name, body, keyword.toList ++ (gap ++ (name.toList ++ (gap' ++
        '\x7b' :: (body ++ ['\x7d']))))⟩, rest) := by
  obtain ⟨c, others, spelling, _⟩ := isWord_cons isName
  have some : name.toList ≠ [] := spelling ▸ List.cons_ne_nil c others
  have laid := @LaidBlock.block keyword gap name.toList gap' body blank apart
    (isWordChar_of_isWord isName) some blank' closed
  rw [String.ofList_toList] at laid
  refine namedBlock_eq_some_iff.mpr ⟨rfl, laid, ?_⟩
  simp

/-- Between two words there is something. -/
theorem gap_ne_nil {gap name rest : List Char} (isName : IsWord name)
    (ends : WordEnds (gap ++ (name ++ rest))) : gap ≠ [] := by
  rintro rfl
  obtain ⟨c, others, rfl, letter⟩ := isWord_cons isName
  have notLetter := ends c rfl
  rw [letter] at notLetter
  contradiction

/-- The text of a block, from the keyword to the closing brace, behind any blanks. -/
theorem block_parts {keyword name : String} {bodyRow : Row} {text : List Char}
    (isName : IsWord name.toList)
    (laid : Spaced (blockRow keyword name ++ (bodyRow ++ loose [.mark .rightBrace])) text []) :
    ∃ gap gap₁ gap₂ body last block, text = gap ++ block ∧ Blank gap ∧
      block = keyword.toList ++ (gap₁ ++ (name.toList ++ (gap₂ ++
        '\x7b' :: (body ++ last ++ ['\x7d'])))) ∧
      Blank gap₁ ∧ gap₁ ≠ [] ∧ Blank gap₂ ∧ Blank last ∧ Spaced bodyRow body [] ∧
      Spaced (blockRow keyword name ++ (bodyRow ++ loose [.mark .rightBrace])) block [] := by
  obtain ⟨gap, after, rfl, blank, ends, laid⟩ := Spaced.cons_iff.mp laid
  have here : Spaced (blockRow keyword name ++ (bodyRow ++ loose [.mark .rightBrace]))
      ((Piece.word keyword).spelling ++ after) [] :=
    Spaced.cons_iff.mpr ⟨[], after, rfl, blank_nil, ends, laid⟩
  obtain ⟨gap₁, _, rfl, blank₁, _, laid⟩ := Spaced.cons_iff.mp laid
  obtain ⟨gap₂, _, rfl, blank₂, _, laid⟩ := Spaced.cons_iff.mp laid
  change Spaced (bodyRow ++ loose [.mark .rightBrace]) _ [] at laid
  obtain ⟨middle, before, closing⟩ := Spaced.append_iff.mp laid
  obtain ⟨last, _, rfl, blankLast, _, ended⟩ := Spaced.cons_iff.mp closing
  cases ended
  obtain ⟨body, rfl, bodyLaid⟩ := before.part
  refine ⟨gap, gap₁, gap₂, body, last, _, rfl, blank, ?_, blank₁, ?_, blank₂, blankLast, bodyLaid,
    here⟩
  · simp [Piece.spelling, Symbol.char]
  · exact gap_ne_nil isName ends

/-- A block is found where it stands. -/
theorem finds_block {keyword name : String} (isKeyword : IsWord keyword.toList)
    (isName : IsWord name.toList) {bodyRow : Row}
    (closed : ∀ spaced ∈ bodyRow, '\x7d' ∉ spaced.2.spelling) {view : NamedBlock → β} {answer : β}
    (viewed : ∀ {body last block : List Char}, Spaced bodyRow body [] → Blank last →
      Spaced (blockRow keyword name ++ (bodyRow ++ loose [.mark .rightBrace])) block [] →
        view ⟨name, body ++ last, block⟩ = answer) :
    Finds (namedBlock keyword) view
      (blockRow keyword name ++ (bodyRow ++ loose [.mark .rightBrace])) [answer] := by
  intro insideWord text rest fresh spaced
  obtain ⟨front, rfl, laid⟩ := spaced.part
  obtain ⟨gap, gap₁, gap₂, body, last, block, rfl, blank, whole, blank₁, apart, blank₂, blankLast,
    bodyLaid, here⟩ := block_parts isName laid
  -- the closing brace of the row is the first one, so the body reaches up to it
  have unclosed : '\x7d' ∉ body ++ last := by
    intro member
    rcases List.mem_append.mp member with inBody | inLast
    · obtain ⟨spaced, inRow, inside⟩ := bodyLaid.mem_part inBody (by decide)
      exact closed spaced inRow inside
    · exact absurd (blankLast _ inLast) (by decide)
  obtain ⟨others, rfl⟩ : ∃ others, block = keyword.toList ++ others := ⟨_, whole⟩
  have found : namedBlock keyword false (keyword.toList ++ others ++ rest) =
      some (⟨name, body ++ last, keyword.toList ++ others⟩, rest) := by
    have read : namedBlock keyword false (keyword.toList ++ (gap₁ ++ (name.toList ++ (gap₂ ++
        '\x7b' :: (body ++ last ++ '\x7d' :: rest))))) = _ :=
      namedBlock_laid isName blank₁ apart blank₂ unclosed
    rw [← whole] at read
    rw [← read, whole]
    simp
  have ended : endsInWord false (keyword.toList ++ others) = false := by
    have split : keyword.toList ++ others = keyword.toList ++ (gap₁ ++ (name.toList ++ (gap₂ ++
        '\x7b' :: (body ++ last)))) ++ ['\x7d'] := by
      rw [whole]
      simp
    rw [split, endsInWord_append]
    decide
  rw [List.append_assoc] at fresh ⊢
  have answers := (answersAt_namedBlock isKeyword).matchesFrom_gap blank found fresh
  refine ⟨false, fresh_false rest, ?_⟩
  rw [answers, ended, List.map_cons, viewed bodyLaid blankLast here]
  rfl

/-- The answers on a whole sheet, where the header gives none. -/
theorem allMatches_sheet {α : Type} {keyword : String} {spaced : Bool} {read : WordReader α}
    {view : α → β} {sheet : Sheet} (answersAt : AnswersAt keyword spaced read)
    (isBlock : keyword ∈ blockWords) (canonical : sheet.Canonical) {first second third : List β}
    (models : Finds read view (sheet.models.flatMap modelRow) first)
    (screens : Finds read view (sheet.screens.flatMap screenRow) second)
    (apis : Finds read view (sheet.api.elim [] apiRow) third) {source : String}
    (laid : sheet.LaidOutIn source) :
    (allMatches read source.toList).map view = first ++ (second ++ third) := by
  obtain ⟨last, laid, blank⟩ := laid
  have headers : Finds read view sheet.headerRow [] :=
    (silent_headerRow isBlock canonical).finds answersAt
  exact (headers.append (models.append (screens.append apis))).whole answersAt laid blank

/-! ## Models -/

theorem unclosed_word {name : String} (isWord : IsWord name.toList) :
    '\x7d' ∉ (Piece.word name).spelling := by
  intro member
  exact absurd (isWordChar_of_isWord isWord _ member) (by decide)

theorem unclosed_mark {symbol : Symbol} (other : symbol ≠ .rightBrace) :
    '\x7d' ∉ (Piece.mark symbol).spelling := by
  cases symbol with
  | rightBrace => contradiction
  | _ => decide

theorem unclosed_text {content : String} (free : '\x7d' ∉ content.toList) :
    '\x7d' ∉ (Piece.text content).spelling := by
  simp [Piece.spelling, free]

theorem unclosed_propertyRow {property : Property} (canonical : property.Canonical) :
    ∀ spaced ∈ propertyRow property, '\x7d' ∉ spaced.2.spelling := by
  intro spaced member
  rcases List.mem_cons.mp member with rfl | inTail
  · exact unclosed_word canonical.name.1
  have among := (among_tail property spaced inTail).2
  obtain ⟨space, piece⟩ := spaced
  cases piece with
  | word name => exact unclosed_word (isWord_tail canonical name among)
  | mark symbol => exact unclosed_mark among
  | text content =>
    have isChoice := canonical.values content among
    exact unclosed_text (isChoice.free (by decide) (by decide) (by decide))

theorem finds_modelRow {model : Model} (canonical : model.Canonical) :
    Finds (namedBlock "model") NamedBlock.model (modelRow model) [model] := by
  apply finds_block (by decide) canonical.name.1
  · intro spaced member
    obtain ⟨property, inModel, here⟩ := List.mem_flatMap.mp member
    exact unclosed_propertyRow (canonical.properties property inModel) spaced here
  · intro body last block laid blank _
    have properties := propertiesOf_laid canonical.properties laid blank
    exact congrArg (Model.mk model.name) properties

theorem modelsOf_laid {sheet : Sheet} (canonical : sheet.Canonical) {source : String}
    (laid : sheet.LaidOutIn source) : modelsOf source = sheet.models := by
  have answersAt : AnswersAt "model" true (namedBlock "model") := answersAt_namedBlock (by decide)
  have isBlock : "model" ∈ blockWords := by decide
  have models : Finds (namedBlock "model") NamedBlock.model (sheet.models.flatMap modelRow)
      (sheet.models.map id) := .flatMap fun model member => finds_modelRow (canonical.models model member)
  have screens : Finds (namedBlock "model") NamedBlock.model (sheet.screens.flatMap screenRow) [] :=
    (silent_screens isBlock (by decide) canonical).finds answersAt
  have apis : Finds (namedBlock "model") NamedBlock.model (sheet.api.elim [] apiRow) [] :=
    (silent_apis isBlock (by decide) (by decide) canonical).finds answersAt
  rw [modelsOf, allMatches_sheet answersAt isBlock canonical models screens apis laid, List.map_id,
    List.append_nil, List.append_nil]

/-! ## Screens -/

theorem answersKey_titleText : AnswersKey "title" titleText? := .ofBind (by decide)

theorem titleText?_laid {title : String} (free : '"' ∉ title.toList) {gap gap' : List Char}
    (blank : Blank gap) (blank' : Blank gap') (rest : List Char) :
    titleText? ("title".toList ++ (gap ++ ':' :: (gap' ++ ((Piece.text title).spelling ++ rest)))) =
      some title.toList := by
  have key := afterKey?_append "title" blank (gap' ++ ((Piece.text title).spelling ++ rest))
  have whole : (Piece.text title).spelling ++ rest = '"' :: (title.toList ++ '"' :: rest) := by
    simp [Piece.spelling]
  have quoted := quotation?_gap blank' free rest
  unfold titleText?
  rw [key, Option.bind_eq_bind, Option.bind_some, whole, quoted]
  rfl

theorem unclosed_screenBody {outline : ScreenOutline} (canonical : outline.Canonical) :
    ∀ spaced ∈ screenBody outline, '\x7d' ∉ spaced.2.spelling := by
  intro spaced member
  obtain ⟨piece, inBody, rfl⟩ := List.mem_map.mp member
  rcases List.mem_append.mp inBody with inFront | inLayout
  · rcases List.mem_append.mp inFront with inTitle | inFlag
    · simp only [List.mem_cons, List.not_mem_nil, or_false] at inTitle
      rcases inTitle with rfl | rfl | rfl
      · exact unclosed_word (by decide)
      · exact unclosed_mark Symbol.noConfusion
      · exact unclosed_text canonical.title.2.2
    · split at inFlag
      · obtain rfl := List.mem_singleton.mp inFlag
        exact unclosed_word (by decide)
      · contradiction
  · simp only [List.mem_cons, List.not_mem_nil, or_false] at inLayout
    rcases inLayout with rfl | rfl | rfl | rfl | rfl | rfl
    · exact unclosed_word (by decide)
    · exact unclosed_mark Symbol.noConfusion
    · exact unclosed_mark Symbol.noConfusion
    · exact unclosed_word (by decide)
    · exact unclosed_mark Symbol.noConfusion
    · exact unclosed_word (by decide)

/-- The block that a screen is found as. -/
def screenBlock (outline : ScreenOutline) : Row :=
  blockRow "screen" outline.name ++ (screenBody outline ++ loose [.mark .rightBrace])

/-- The title is the first text behind its key: a name before it is followed by no colon. -/
theorem title_read {outline : ScreenOutline} (canonical : outline.Canonical) {block : List Char}
    (spaced : Spaced (screenBlock outline) block []) :
    firstMatch titleText? block = some outline.title.toList := by
  have answers := answersKey_titleText
  obtain ⟨gap, _, rfl, blank, ends, spaced⟩ := Spaced.cons_iff.mp spaced
  obtain ⟨gap₁, _, rfl, blank₁, ends₁, spaced⟩ := Spaced.cons_iff.mp spaced
  obtain ⟨gap₂, _, rfl, blank₂, _, spaced⟩ := Spaced.cons_iff.mp spaced
  obtain ⟨gap₃, _, rfl, blank₃, _, spaced⟩ := Spaced.cons_iff.mp spaced
  obtain ⟨gap₄, _, rfl, blank₄, _, spaced⟩ := Spaced.cons_iff.mp spaced
  obtain ⟨gap₅, rest, rfl, blank₅, _, _⟩ := Spaced.cons_iff.mp spaced
  have found : titleText? ((Piece.word "title").spelling ++ (gap₄ ++
      ((Piece.mark .colon).spelling ++ (gap₅ ++ ((Piece.text outline.title).spelling ++ rest))))) =
        some outline.title.toList := titleText?_laid canonical.title.1.1 blank₄ blank₅ rest
  generalize (Piece.word "title").spelling ++ _ = entry at found ends ends₁ ⊢
  have keyword : firstMatch titleText? ((Piece.word "screen").spelling ++ (gap₁ ++
      ((Piece.word outline.name).spelling ++ (gap₂ ++ ((Piece.mark .leftBrace).spelling ++
        (gap₃ ++ entry)))))) = _ := answers.firstMatch_word (by decide) ends (.inl (by decide))
  have noColon : ¬ ColonNext (gap₂ ++ ((Piece.mark .leftBrace).spelling ++ (gap₃ ++ entry))) :=
    not_colonNext_gap blank₂ (by decide) (by decide)
  have named : firstMatch titleText? ((Piece.word outline.name).spelling ++ (gap₂ ++
      ((Piece.mark .leftBrace).spelling ++ (gap₃ ++ entry)))) = _ :=
    answers.firstMatch_word canonical.name.1 ends₁ (.inr noColon)
  have opening : firstMatch titleText? ((Piece.mark .leftBrace).spelling ++ (gap₃ ++ entry)) = _ :=
    firstMatch_none (answers.silent_of_not_wordChar (by decide))
  rw [answers.firstMatch_gap blank.notWordChar, keyword,
    answers.firstMatch_gap blank₁.notWordChar, named, answers.firstMatch_gap blank₂.notWordChar,
    opening]
  exact (answers.firstMatch_gap blank₃.notWordChar).trans (firstMatch_found found)

/-- The word of the flag occurs in a screen just where the screen is initial. -/
theorem initial_read {outline : ScreenOutline} (canonical : outline.Canonical) {block : List Char}
    (spaced : Spaced (screenBlock outline) block []) :
    occursIn "initial".toList block = outline.isInitial := by
  rw [Bool.eq_iff_iff, occursIn_row (by decide) spaced]
  constructor
  · intro occurs
    obtain ⟨⟨space, piece⟩, member, inside⟩ := occurs
    by_contra notInitial
    have isInitial := Bool.eq_false_iff.mpr notInitial
    cases piece with
    | word name =>
      have known : name = outline.name ∨ name ∈ ["screen", "title", "layout", "type", "stack"] := by
        simp only [screenBlock, blockRow, loose, spacedBy, List.map_cons, List.map_nil, screenBody,
          isInitial, Bool.false_eq_true, if_false, List.append_nil, List.cons_append,
          List.nil_append, List.mem_cons, Prod.mk.injEq, Piece.word.injEq, reduceCtorEq, and_false,
          List.not_mem_nil, or_self, or_false, false_or] at member ⊢
        tauto
      have absent : ∀ name ∈ ["screen", "title", "layout", "type", "stack"],
          occursIn "initial".toList name.toList = false := by decide
      rcases known with rfl | fixed
      · exact canonical.nameFree inside
      · have inName : occursIn "initial".toList name.toList = true := occursIn_iff.mpr inside
        rw [absent name fixed] at inName
        contradiction
    | mark symbol => exact absurd (List.infix_nil.mp inside) (by decide)
    | text content =>
      have known : space = .free ∧ content = outline.title := by
        simpa [screenBlock, blockRow, screenBody, isInitial, loose, spacedBy] using member
      exact canonical.titleFree (known.2 ▸ inside)
  · intro isInitial
    have member : (.free, .word "initial") ∈ screenBlock outline := by
      simp [screenBlock, screenBody, isInitial, loose, spacedBy]
    exact ⟨_, member, List.infix_rfl⟩

theorem finds_screenRow {outline : ScreenOutline} (canonical : outline.Canonical) :
    Finds (namedBlock "screen") NamedBlock.screen (screenRow outline) [outline.screen] := by
  have answersAt : AnswersAt "screen" true (namedBlock "screen") := answersAt_namedBlock (by decide)
  have block : Finds (namedBlock "screen") NamedBlock.screen (screenBlock outline)
      [outline.screen] := by
    apply finds_block (by decide) canonical.name.1 (unclosed_screenBody canonical)
    intro body last block _ _ laid
    have title := title_read canonical laid
    have initial := initial_read canonical laid
    simp only [NamedBlock.screen, title, initial, String.ofList_toList]
    rfl
  have closing : Finds (namedBlock "screen") NamedBlock.screen (loose [.mark .rightBrace]) [] :=
    silent_brace.finds answersAt
  have whole : screenRow outline = screenBlock outline ++ loose [.mark .rightBrace] := by
    simp [screenRow, screenBlock, loose, spacedBy]
  rw [whole]
  exact block.append closing

theorem screensOf_laid {sheet : Sheet} (canonical : sheet.Canonical) {source : String}
    (laid : sheet.LaidOutIn source) :
    screensOf source = sheet.screens.map ScreenOutline.screen := by
  have answersAt : AnswersAt "screen" true (namedBlock "screen") := answersAt_namedBlock (by decide)
  have isBlock : "screen" ∈ blockWords := by decide
  have models : Finds (namedBlock "screen") NamedBlock.screen (sheet.models.flatMap modelRow) [] :=
    (silent_models isBlock (by decide) canonical).finds answersAt
  have screens : Finds (namedBlock "screen") NamedBlock.screen (sheet.screens.flatMap screenRow)
      (sheet.screens.map ScreenOutline.screen) :=
    .flatMap fun outline member => finds_screenRow (canonical.screens outline member)
  have apis : Finds (namedBlock "screen") NamedBlock.screen (sheet.api.elim [] apiRow) [] :=
    (silent_apis isBlock (by decide) (by decide) canonical).finds answersAt
  rw [screensOf, allMatches_sheet answersAt isBlock canonical models screens apis laid,
    List.append_nil, List.nil_append]

/-! ## Endpoints -/

theorem quotedEntry?_laid {key content : String} (some : content ≠ "") (free : '"' ∉ content.toList)
    {gap gap' : List Char} (blank : Blank gap) (blank' : Blank gap') (rest : List Char) :
    quotedEntry? key (key.toList ++ (gap ++ ':' :: (gap' ++ ((Piece.text content).spelling ++ rest)))) =
      Option.some (content.toList, rest) := by
  have entry := afterKey?_append key blank (gap' ++ ((Piece.text content).spelling ++ rest))
  have whole : (Piece.text content).spelling ++ rest = '"' :: (content.toList ++ '"' :: rest) := by
    simp [Piece.spelling]
  have quoted := quotation?_gap blank' free rest
  unfold quotedEntry?
  rw [entry, Option.bind_eq_bind, Option.bind_some, whole, quoted, Option.bind_eq_bind,
    Option.bind_some]
  split
  · next none => 
    rw [Prod.mk.injEq, String.toList_eq_nil_iff] at none
    exact absurd none.1 some
  · rfl

theorem methodWord?_laid {method : List Char} (isWord : IsWord method) {gap gap' rest : List Char}
    (blank : Blank gap) (blank' : Blank gap') (ends : WordEnds rest) :
    methodWord? ("method".toList ++ (gap ++ ':' :: (gap' ++ (method ++ rest)))) =
      some (method, rest) := by
  have entry := afterKey?_append "method" blank (gap' ++ (method ++ rest))
  unfold methodWord?
  rw [entry, Option.bind_eq_bind, Option.bind_some,
    afterBlanks_gap blank' (begins_word isWord rest), word?_append isWord ends]

theorem answersKey_methodWord : AnswersKey "method" methodWord? := .ofBind (by decide)

theorem answersKey_quotedEntry {key : String} (isWord : IsWord key.toList) :
    AnswersKey key <| quotedEntry? key :=
  .ofBind isWord

/-- Reads an endpoint behind the opening brace: the first path, and the first method behind it. -/
theorem endpointBlock_laid {outline : EndpointOutline} (canonical : outline.Canonical)
    {gap gap' inside : List Char} (blank : Blank gap) (apart : gap ≠ []) (blank' : Blank gap')
    {rest : List Char} (spaced : Spaced (endpointBody outline) inside rest) :
    endpointBlock false ("endpoint".toList ++ (gap ++ (outline.id.toList ++ (gap' ++
      '\x7b' :: inside)))) = some (outline.endpoint, rest) := by
  obtain ⟨gap₁, _, rfl, blank₁, _, spaced⟩ := Spaced.cons_iff.mp spaced
  obtain ⟨gap₂, _, rfl, blank₂, _, spaced⟩ := Spaced.cons_iff.mp spaced
  obtain ⟨gap₃, tail, rfl, blank₃, _, spaced⟩ := Spaced.cons_iff.mp spaced
  have path : quotedEntry? "path" ((Piece.word "path").spelling ++ (gap₂ ++
      ((Piece.mark .colon).spelling ++ (gap₃ ++ ((Piece.text outline.path).spelling ++ tail))))) =
        some (outline.path.toList, tail) :=
    quotedEntry?_laid canonical.path.2.1 canonical.path.1.1 blank₂ blank₃ tail
  have method : firstMatch methodWord? tail = some (outline.method.name.toList, rest) := by
    obtain ⟨gap₄, _, rfl, blank₄, _, spaced⟩ := Spaced.cons_iff.mp spaced
    obtain ⟨gap₅, _, rfl, blank₅, _, spaced⟩ := Spaced.cons_iff.mp spaced
    obtain ⟨gap₆, after, rfl, blank₆, ends, spaced⟩ := Spaced.cons_iff.mp spaced
    cases spaced
    rw [answersKey_methodWord.firstMatch_gap blank₄.notWordChar]
    exact firstMatch_found (methodWord?_laid (isWord_method outline.method) blank₅ blank₆ ends)
  have begins (rest : List Char) : Begins (outline.id.toList ++ rest) :=
    begins_word canonical.id.1 rest
  have ends (rest : List Char) : WordEnds (gap' ++ '\x7b' :: rest) :=
    blank'.wordEnds (by decide) rest
  have brace (rest : List Char) : afterMark? '\x7b' (gap' ++ '\x7b' :: rest) = some rest :=
    afterMark?_gap (by decide) blank' rest
  unfold endpointBlock
  simp only [Bool.false_eq_true, if_false, Option.bind_eq_bind, afterLiteral?_append,
    Option.bind_some, afterSomeBlanks?_gap blank apart (begins _),
    word?_append canonical.id.1 (ends _), brace]
  have answers : AnswersKey "path" <| quotedEntry? "path" := answersKey_quotedEntry (by decide)
  rw [(answers.bind _).firstMatch_gap blank₁.notWordChar]
  refine firstMatch_found ?_
  simp only [path, Option.bind_some, method, String.ofList_toList]
  rfl

/-- An endpoint is found where it stands, up to its method. -/
theorem finds_endpoint {outline : EndpointOutline} (canonical : outline.Canonical) :
    Finds endpointBlock id (blockRow "endpoint" outline.id ++ endpointBody outline)
      [outline.endpoint] := by
  intro insideWord text rest fresh spaced
  obtain ⟨gap, _, rfl, blank, ends, spaced⟩ := Spaced.cons_iff.mp spaced
  obtain ⟨gap₁, _, rfl, blank₁, _, spaced⟩ := Spaced.cons_iff.mp spaced
  obtain ⟨gap₂, inside, rfl, blank₂, _, spaced⟩ := Spaced.cons_iff.mp spaced
  change Spaced (endpointBody outline) inside rest at spaced
  have apart := gap_ne_nil canonical.id.1 ends
  have read := endpointBlock_laid canonical blank₁ apart blank₂ spaced
  have lastWord : Spaced (loose [.word "path", .mark .colon, .text outline.path, .word "method",
      .mark .colon] ++ [(.free, .word outline.method.name)]) inside rest := spaced
  have restEnds := lastWord.wordEnds
  obtain ⟨body, rfl, _⟩ := spaced.part
  have whole : (Piece.word "endpoint").spelling ++ (gap₁ ++ ((Piece.word outline.id).spelling ++
      (gap₂ ++ ((Piece.mark .leftBrace).spelling ++ (body ++ rest))))) =
      "endpoint".toList ++ (gap₁ ++ (outline.id.toList ++ (gap₂ ++ '\x7b' :: body))) ++ rest := by
    simp [Piece.spelling, Symbol.char]
  have found : endpointBlock false ("endpoint".toList ++ (gap₁ ++ (outline.id.toList ++ (gap₂ ++
      '\x7b' :: body))) ++ rest) = some (outline.endpoint, rest) := by
    rw [← read]
    simp
  rw [whole] at fresh ⊢
  have answers := answersAt_endpointBlock.matchesFrom_gap blank found fresh
  refine ⟨endsInWord false ("endpoint".toList ++ (gap₁ ++ (outline.id.toList ++ (gap₂ ++
    '\x7b' :: body)))), fun _ => restEnds, ?_⟩
  rw [answers, List.map_cons]
  rfl

theorem finds_endpointRow {outline : EndpointOutline} (canonical : outline.Canonical) :
    Finds endpointBlock id (endpointRow outline) [outline.endpoint] := by
  have closing : Finds endpointBlock id (loose [.mark .rightBrace]) [] :=
    silent_brace.finds answersAt_endpointBlock
  have whole : endpointRow outline =
      (blockRow "endpoint" outline.id ++ endpointBody outline) ++ loose [.mark .rightBrace] := by
    rw [endpointRow, List.append_assoc]
  rw [whole]
  exact (finds_endpoint canonical).append closing

theorem endpointsOf_laid {sheet : Sheet} (canonical : sheet.Canonical) {outline : ApiOutline}
    (api : sheet.api = some outline) {source : String} (laid : sheet.LaidOutIn source) :
    endpointsOf source = outline.endpoints.map EndpointOutline.endpoint := by
  have answersAt := answersAt_endpointBlock
  have isBlock : "endpoint" ∈ blockWords := by decide
  have isCanonical := canonical.api outline api
  have models : Finds endpointBlock id (sheet.models.flatMap modelRow) [] :=
    (silent_models isBlock (by decide) canonical).finds answersAt
  have screens : Finds endpointBlock id (sheet.screens.flatMap screenRow) [] :=
    (silent_screens isBlock (by decide) canonical).finds answersAt
  have head : Finds endpointBlock id _ [] :=
    (silent_apiHead isBlock (by decide) isCanonical).finds answersAt
  have endpoints : Finds endpointBlock id (outline.endpoints.flatMap endpointRow)
      (outline.endpoints.map EndpointOutline.endpoint) :=
    .flatMap fun endpoint member => finds_endpointRow (isCanonical.endpoints endpoint member)
  have closing : Finds endpointBlock id (loose [.mark .rightBrace]) [] :=
    silent_brace.finds answersAt
  have apis : Finds endpointBlock id (sheet.api.elim [] apiRow)
      ([] ++ (outline.endpoints.map EndpointOutline.endpoint ++ [])) := by
    rw [api]
    exact head.append (endpoints.append closing)
  have found := allMatches_sheet answersAt isBlock canonical models screens apis laid
  rwa [List.map_id, List.append_nil] at found

/-! ## The interface -/

theorem upTo?_of_mem {mark : Char} {text : List Char} (member : mark ∈ text) :
    ∃ front rest, upTo? mark text = some (front, rest) := by
  obtain ⟨front, rest, rfl, free⟩ := List.eq_append_cons_of_mem member
  exact ⟨front, rest, upTo?_append free rest⟩

theorem apiBlock_laid {outline : ApiOutline} (canonical : outline.Canonical)
    {gap gap₁ gap₂ gap₃ rest : List Char} (blank : Blank gap) (blank₁ : Blank gap₁)
    (blank₂ : Blank gap₂) (blank₃ : Blank gap₃) (closed : '\x7d' ∈ rest) :
    ∃ after, apiBlock false ("api".toList ++ (gap ++ '\x7b' :: (gap₁ ++ ("baseUrl".toList ++ (gap₂ ++
      ':' :: (gap₃ ++ ((Piece.text outline.baseUrl).spelling ++ rest))))))) =
        some (outline.baseUrl, after) := by
  obtain ⟨front, after, closing⟩ := upTo?_of_mem closed
  refine ⟨after, ?_⟩
  obtain ⟨⟨unquoted, _⟩, _, solid⟩ := canonical.baseUrl
  have baseUrl : quotedEntry? "baseUrl" ("baseUrl".toList ++ (gap₂ ++ ':' :: (gap₃ ++
      ((Piece.text outline.baseUrl).spelling ++ rest)))) = some (outline.baseUrl.toList, rest) :=
    quotedEntry?_laid solid.1 unquoted blank₂ blank₃ rest
  have brace (rest : List Char) : afterMark? '\x7b' (gap ++ '\x7b' :: rest) = some rest :=
    afterMark?_gap (by decide) blank rest
  have answers : AnswersKey "baseUrl" <| quotedEntry? "baseUrl" := answersKey_quotedEntry (by decide)
  unfold apiBlock
  simp only [Bool.false_eq_true, if_false, Option.bind_eq_bind, afterLiteral?_append,
    Option.bind_some, brace]
  rw [(answers.bind _).firstMatch_gap blank₁.notWordChar]
  refine firstMatch_found ?_
  simp only [baseUrl, Option.bind_some, closing, String.ofList_toList]
  rfl

/-- Before the interface there is no answer. -/
theorem finds_front {sheet : Sheet} (canonical : sheet.Canonical) :
    Finds apiBlock id (sheet.headerRow ++ (sheet.models.flatMap modelRow ++
      sheet.screens.flatMap screenRow)) [] := by
  have isBlock : "api" ∈ blockWords := by decide
  have headers : sheet.headerRow.Silent "api" false := silent_headerRow isBlock canonical
  have models : Row.Silent "api" false (sheet.models.flatMap modelRow) :=
    silent_models isBlock (by decide) canonical
  have screens : Row.Silent "api" false (sheet.screens.flatMap screenRow) :=
    silent_screens isBlock (by decide) canonical
  exact (headers.append (models.append screens)).finds answersAt_apiBlock

/-- In an interface, the first answer is its base address. -/
theorem head?_apiRow {outline : ApiOutline} (canonical : outline.Canonical) {insideWord : Bool}
    {text rest : List Char} (fresh : Fresh insideWord text) (spaced : Spaced (apiRow outline) text rest) :
    (matchesFrom apiBlock insideWord 0 text).head? = some outline.baseUrl := by
  obtain ⟨gap, _, rfl, blank, _, spaced⟩ := Spaced.cons_iff.mp spaced
  obtain ⟨gap₁, _, rfl, blank₁, _, spaced⟩ := Spaced.cons_iff.mp spaced
  obtain ⟨gap₂, _, rfl, blank₂, _, spaced⟩ := Spaced.cons_iff.mp spaced
  obtain ⟨gap₃, _, rfl, blank₃, _, spaced⟩ := Spaced.cons_iff.mp spaced
  obtain ⟨gap₄, inside, rfl, blank₄, _, spaced⟩ := Spaced.cons_iff.mp spaced
  -- whichever brace closes the block, there is one behind the base address
  have closed : '\x7d' ∈ inside := by
    have member : (.free, .mark .rightBrace) ∈ outline.endpoints.flatMap endpointRow ++
        loose [.mark .rightBrace] := List.mem_append_right _ List.mem_cons_self
    exact (spaced.piece_isInfix member).subset List.mem_cons_self
  obtain ⟨after, found⟩ := apiBlock_laid canonical blank₁ blank₂ blank₃ blank₄ closed
  exact answersAt_apiBlock.head?_matchesFrom blank found fresh

theorem apiOf?_laid {sheet : Sheet} (canonical : sheet.Canonical) {source : String}
    (laid : sheet.LaidOutIn source) : apiOf? source = sheet.api.map ApiOutline.api := by
  obtain ⟨last, spaced, blank⟩ := laid
  have whole : sheet.row = (sheet.headerRow ++ (sheet.models.flatMap modelRow ++
      sheet.screens.flatMap screenRow)) ++ sheet.api.elim [] apiRow := by
    simp [Sheet.row]
  cases api : sheet.api with
  | none =>
    rw [whole, api, Option.elim_none, List.append_nil] at spaced
    have nothing := (finds_front canonical).whole answersAt_apiBlock spaced blank
    rw [List.map_id] at nothing
    rw [apiOf?, nothing]
    rfl
  | some outline =>
    have endpoints := endpointsOf_laid canonical api ⟨last, spaced, blank⟩
    rw [whole, api] at spaced
    obtain ⟨middle, before, here⟩ := Spaced.append_iff.mp spaced
    obtain ⟨insideWord, fresh, passed⟩ :=
      finds_front canonical false source.toList middle (fresh_false _) before
    rw [List.map_id, List.map_id, List.nil_append] at passed
    have first : (allMatches apiBlock source.toList).head? = some outline.baseUrl := by
      rw [allMatches, passed]
      exact head?_apiRow (canonical.api outline api) fresh here
    rw [apiOf?, first, endpoints]
    rfl

/-- What is extracted from a laid out sheet. -/
theorem ofSource_laid {sheet : Sheet} (canonical : sheet.Canonical) {source : String}
    (laid : sheet.LaidOutIn source) : ofSource source =
      ⟨sheet.models, sheet.screens.map ScreenOutline.screen, sheet.api.map ApiOutline.api⟩ := by
  rw [ofSource, modelsOf_laid canonical laid, screensOf_laid canonical laid,
    apiOf?_laid canonical laid]

end Blueprint
