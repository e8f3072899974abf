import Blueprint.Proofs.BlockText
import Blueprint.Proofs.Naming
import Blueprint.Proofs.SheetExtraction

/-!
Which names the extraction finds in a source that is read without a diagnostic. The extraction takes
every text of the right shape for a block, in comments and in quoted texts too, and takes no head
for one that has a comment in it. Where nothing else than a token begins a block, it finds no names
but those of the models and screens of the document; where also all heads are written with blanks,
it finds all of them.
-/
set_option autoImplicit false

namespace Blueprint

open Text Extraction

/-- Wherever a block begins outside of any word, a token begins: no comment and no quoted text has
the beginning of a block in it. -/
def Unhidden (keyword : Keyword) (tiles : List Tile) (last : List Char) : Prop :=
  ∀ before after name rest, tilesText tiles last = before ++ after →
    endsInWord false before = false → StartsBlock keyword.spelling name rest after →
      ∃ front tile behind, tiles = front ++ tile :: behind ∧ before = tilesText front tile.gap

/-- Between a keyword, a name and an opening brace are blanks only, and no comment. -/
def PlainHeads (keyword : Keyword) (tiles : List Tile) : Prop :=
  ∀ front word name brace behind, tiles = front ++ word :: name :: brace :: behind →
    word.kind = .keyword keyword → name.kind.isName = true → brace.kind = .symbol .leftBrace →
      Blank name.gap ∧ Blank brace.gap

/-- The name in the head of a statement with a keyword. -/
def Head.of? (keyword : Keyword) (head : Head) : Option String :=
  if head.keyword = keyword then head.name? else none

theorem Head.name?_of_of? {keyword : Keyword} {head : Head} {name : String}
    (named : head.of? keyword = some name) : head.name? = some name := by
  unfold Head.of? at named
  split at named
  · exact named
  · contradiction

theorem Head.keyword_of_of? {keyword : Keyword} {head : Head} {name : String}
    (named : head.of? keyword = some name) : head.keyword = keyword := by
  unfold Head.of? at named
  split at named
  · assumption
  · contradiction

/-! ## Statements as tiles -/

section Statement

variable {head : Head} {place : Position} {tiles more : List Tile} {last rest : List Char}
  {keyword : Keyword} {name : String}

theorem Grouped.named_tiles {content : List Token → Prop}
    (grouped : Grouped content head (placed place tiles)) (named : head.name? = some name) :
    ∃ first word brace inner closing, tiles = first :: word :: brace :: (inner ++ [closing]) ∧
      first.kind = .keyword head.keyword ∧ word.kind.isName = true ∧ word.value = name ∧
      brace.kind = .symbol .leftBrace ∧ closing.kind = .symbol .rightBrace := by
  generalize whole : placed place tiles = row at grouped
  obtain @⟨front, inside, opening, ending, isHead, opens, _, closes⟩ := grouped
  cases isHead with
  | plain _ unnamed => simp [unnamed] at named
  | colon _ _ unnamed => simp [unnamed] at named
  | @named first' word' isKeyword isName named' =>
    obtain ⟨heads, group, rfl, isFront, isGroup⟩ := placed_eq_append whole
    obtain ⟨first, _, rfl, rfl, isWord⟩ := placed_eq_cons isFront
    obtain ⟨word, _, rfl, rfl, isEnd⟩ := placed_eq_cons isWord
    obtain rfl := placed_eq_nil isEnd
    obtain ⟨brace, _, rfl, rfl, isInside⟩ := placed_eq_cons isGroup
    obtain ⟨inner, _, rfl, _, isClosing⟩ := placed_eq_append isInside
    obtain ⟨closing, _, rfl, rfl, isEnd'⟩ := placed_eq_cons isClosing
    obtain rfl := placed_eq_nil isEnd'
    refine ⟨first, word, brace, inner, closing, rfl, isKeyword, isName, ?_, opens, closes⟩
    rw [named'] at named
    exact Option.some.inj named

theorem Grouped.tiles_ne_nil {content : List Token → Prop}
    (grouped : Grouped content head (placed place tiles)) : tiles ≠ [] := by
  rintro rfl
  generalize whole : placed place [] = row at grouped
  obtain @⟨front⟩ := grouped
  cases front <;> contradiction

/-- In a statement a block begins at the head only, and has its name. -/
theorem Grouped.block_at_head (grouped : Grouped Inside head (placed place tiles))
    {init behind : List Tile} {tile : Tile} (whole : tiles ++ more = init ++ tile :: behind)
    (within : init.length < tiles.length) (tiled : Tiled (tile :: behind) last)
    (known : ∀ other ∈ behind, other.kind ≠ .unknown) (notEndpoint : keyword ≠ .endpoint)
    (block : StartsBlock keyword.spelling name rest (tile.spelling ++ tilesText behind last)) :
    init = [] ∧ Head.of? keyword head = some name ∧ ∃ word brace others body,
      behind = word :: brace :: others ∧ tilesText others last = body ++ '\x7d' :: rest ∧
        '\x7d' ∉ body := by
  obtain ⟨isKeyword, front, final, brace, others, body, rfl, isBrace, text, closed, numbers, wordy,
    alone⟩ := tiles_of_block tiled block
  have isWordy : final.kind.isWordy = true :=
    wordy.resolve_right (known final (by simp))
  have tokens := congrArg (placed place) whole
  rw [placed_append, placed_append] at tokens
  have within' : (placed place init).length < (placed place tiles).length := by
    rwa [placed_length, placed_length]
  rcases List.eq_nil_or_concat front with rfl | ⟨digits, number, rfl⟩
  · obtain ⟨none, sameKeyword, isName, named⟩ := grouped.head_of_brace tokens within'
      (isKeyword ▸ rfl) (isKeyword ▸ fun same => notEndpoint (TokenKind.keyword.inj same)) isWordy
      isBrace
    have spelled := @Tiled.spelled [tile] _ final last tiled
    have value : final.value = name := by
      rw [← String.toList_inj, ← (spelled.word isName).1, alone rfl]
    refine ⟨List.eq_nil_of_length_eq_zero ?_, ?_, final, brace, others, body, rfl, text, closed⟩
    · rw [← placed_length place, none, List.length_nil]
    · rw [Head.of?, if_pos (TokenKind.keyword.inj (sameKeyword.symm.trans isKeyword)), named, ← value]
  · -- A number before the brace would be the keyword of the statement.
    exfalso
    have isNumber {other : Tile} (member : other ∈ digits.concat number) : other.kind = .number :=
      (numbers other member).resolve_right (known other (List.mem_append_left _ member))
    have words : tile :: (digits.concat number ++ final :: brace :: others) =
        (tile :: digits) ++ number :: final :: brace :: others := by simp
    rw [words, placed_append, ← List.append_assoc] at tokens
    have goesOn : ∀ token ∈ placed (placeAfter place init) (tile :: digits),
        token.kind ≠ .symbol .rightBrace := by
      intro token member closes
      obtain ⟨other, inside, sameKind⟩ := kind_of_mem_placed member
      rw [closes] at sameKind
      rcases List.mem_cons.mp inside with rfl | inside
      · rw [isKeyword] at sameKind
        contradiction
      · rw [isNumber (by simp [inside])] at sameKind
        contradiction
    have within'' := grouped.length_within tokens within' goesOn
    have number' := @isNumber number (by simp)
    obtain ⟨_, sameKeyword, _⟩ := grouped.head_of_brace tokens within'' (number' ▸ rfl)
      (number' ▸ nofun) isWordy isBrace
    exact absurd (number'.symm.trans sameKeyword) nofun

end Statement

/-! ## The search for blocks -/

section Search

variable {keyword : Keyword} {head : Head} {place : Position} {before row more : List Tile}
  {last : List Char}

/-- What stands behind the first of some marks ends with what stands behind any of them. -/
theorem behind_first_mark {mark : Char} {front rest text after : List Char}
    (whole : front ++ mark :: rest = text ++ mark :: after) (free : mark ∉ front) :
    ∃ middle, rest = middle ++ after := by
  rcases List.append_eq_append_iff.mp whole with ⟨between, _, rest'⟩ | ⟨between, rfl, rest'⟩
  · cases between with
    | nil => exact ⟨[], (List.cons.inj rest').2⟩
    | cons c between =>
      exact ⟨between ++ [mark], by rw [(List.cons.inj rest').2]; simp⟩
  · cases between with
    | nil => exact ⟨[], (List.cons.inj rest').2.symm⟩
    | cons c between =>
      obtain ⟨rfl, _⟩ := List.cons.inj rest'
      exact absurd (by simp) free

/-- A tile begins before the end of a row of tiles exactly if it is one of them. -/
theorem tile_starts_within {tiles others front behind : List Tile} {tile : Tile}
    (whole : tiles ++ others = front ++ tile :: behind) (some : tile.spelling ≠ []) :
    (tilesText front tile.gap).length < (tilesText tiles []).length ↔
      front.length < tiles.length := by
  have positive := List.length_pos_iff.mpr some
  rcases List.append_eq_append_iff.mp whole with ⟨later, rfl, _⟩ | ⟨later, rfl, rest⟩
  · rw [tilesText_append, List.length_append, List.length_append]
    omega
  · cases later with
    | nil =>
      rw [List.append_nil, tilesText_last _ tile.gap, List.length_append]
      omega
    | cons other later =>
      obtain ⟨rfl, _⟩ := List.cons.inj rest
      rw [tilesText_append, tilesText_last _ tile.gap, tilesText]
      simp only [List.length_append, List.length_cons]
      omega

/-- A tile that begins within a part of a row is one of the tiles there. -/
theorem tile_within {front behind : List Tile} {tile : Tile}
    (whole : before ++ (row ++ more) = front ++ tile :: behind) (some : tile.spelling ≠ [])
    (start : (tilesText before []).length ≤ (tilesText front tile.gap).length)
    (stop : (tilesText front tile.gap).length < (tilesText (before ++ row) []).length) :
    ∃ init, front = before ++ init ∧ init.length < row.length ∧
      row ++ more = init ++ tile :: behind := by
  have begun : ¬ front.length < before.length := fun early =>
    Nat.not_lt.mpr start ((tile_starts_within whole some).mpr early)
  have ended : front.length < (before ++ row).length := by
    rw [← List.append_assoc] at whole
    exact (tile_starts_within whole some).mp stop
  rcases List.append_eq_append_iff.mp whole with ⟨init, rfl, rest⟩ | ⟨init, rfl, rest⟩
  · simp only [List.length_append] at ended
    exact ⟨init, rfl, by omega, rest⟩
  · obtain rfl : init = [] := by simpa using begun
    refine ⟨[], by simp, by simpa using ended, rest.symm⟩

/-- The first closing brace behind the opening one of a statement with a name is one of the
statement. -/
theorem Grouped.behind_brace {name : String} {tile word brace : Tile} {others : List Tile}
    {body rest : List Char} (tiled : Tiled (before ++ (row ++ more)) last)
    (grouped : Grouped Inside head (placed place row)) (named : head.name? = some name)
    (first : row ++ more = tile :: word :: brace :: others)
    (inner : tilesText others last = body ++ '\x7d' :: rest) (closed : '\x7d' ∉ body) :
    ∃ middle, rest = middle ++ tilesText more last := by
  obtain ⟨tile', word', brace', inside, closing, rfl, _, _, _, _, closes⟩ :=
    grouped.named_tiles named
  obtain ⟨rfl, rfl, rfl, rfl⟩ : tile' = tile ∧ word' = word ∧ brace' = brace ∧
      inside ++ closing :: more = others := by simpa using first
  have ends : closing.spelling = ['\x7d'] := by
    have spelled := (show Tiled ((before ++ tile' :: word' :: brace' :: inside) ++ closing :: more)
      last by simpa using tiled).spelled
    rw [closes] at spelled
    exact spelled.eq_char
  rw [tilesText_append, tilesText, ends, ← List.append_assoc] at inner
  exact behind_first_mark inner.symm closed

section Row

variable (tiled : Tiled (before ++ (row ++ more)) last)
  (unhidden : Unhidden keyword (before ++ (row ++ more)) last)
  (known : ∀ tile ∈ before ++ (row ++ more), tile.kind ≠ .unknown)
  (grouped : Grouped Inside head (placed place row)) (notEndpoint : keyword ≠ .endpoint)

include tiled unhidden known grouped notEndpoint

/-- Within a statement a block is read at the head only, and has its name. -/
theorem answer_at_head {front after rest : List Char} {block : NamedBlock}
    (text : tilesText (before ++ (row ++ more)) last = front ++ after)
    (start : (tilesText before []).length ≤ front.length)
    (stop : front.length < (tilesText (before ++ row) []).length)
    (answer : namedBlock keyword.spelling (endsInWord false front) after = some (block, rest)) :
    Head.of? keyword head = some block.name ∧ ∃ tile word brace others body,
      row ++ more = tile :: word :: brace :: others ∧ front = tilesText before tile.gap ∧
        tilesText others last = body ++ '\x7d' :: rest ∧ '\x7d' ∉ body := by
  obtain ⟨outside, isBlock⟩ := namedBlock_eq_some answer
  obtain ⟨tiles, tile, behind, whole, rfl⟩ := unhidden _ _ _ _ text outside isBlock
  rw [whole] at tiled known text
  have some := spelling_ne_nil tiled.spelled
  obtain ⟨init, rfl, within, rest'⟩ := tile_within whole some start stop
  rw [tilesText_append, tilesText, tilesText_last _ tile.gap, List.append_assoc] at text
  obtain rfl := List.append_cancel_left (List.append_cancel_left text)
  obtain ⟨rfl, named, word, brace, others, body, rfl, inner, closed⟩ :=
    grouped.block_at_head rest' within tiled.behind
      (fun other member => known other (by simp [member])) notEndpoint isBlock
  rw [List.append_nil]
  exact ⟨named, tile, word, brace, others, body, rest', rfl, inner, closed⟩

/-- A part of a statement that does not begin at the head is passed over. -/
theorem search_passes {front part after : List Char}
    (text : tilesText (before ++ (row ++ more)) last = front ++ (part ++ after))
    (start : (tilesText before []).length ≤ front.length)
    (stop : front.length + part.length ≤ (tilesText (before ++ row) []).length)
    (notHead : ∀ init c rest tile behind, part = init ++ c :: rest → row ++ more = tile :: behind →
      front ++ init = tilesText before tile.gap →
        namedBlock keyword.spelling (endsInWord false (front ++ init)) (c :: (rest ++ after)) = none) :
    matchesFrom (namedBlock keyword.spelling) (endsInWord false front) 0 (part ++ after) =
      matchesFrom (namedBlock keyword.spelling) (endsInWord false (front ++ part)) 0 after := by
  rw [endsInWord_parts]
  refine matchesFrom_silent fun init c rest split => ?_
  rw [← endsInWord_parts]
  cases answer : namedBlock keyword.spelling (endsInWord false (front ++ init))
    (c :: (rest ++ after)) with
  | none => rfl
  | some found =>
    have text' : tilesText (before ++ (row ++ more)) last =
        (front ++ init) ++ c :: (rest ++ after) := by
      rw [text, split]
      simp
    have lengths := congrArg List.length split
    simp only [List.length_append, List.length_cons] at lengths
    obtain ⟨_, tile, word, brace, others, _, first, atHead, _⟩ :=
      answer_at_head tiled unhidden known grouped notEndpoint text'
        (by rw [List.length_append]; omega) (by rw [List.length_append]; omega) answer
    rw [notHead init c rest tile _ split first atHead] at answer
    contradiction

/-- In a statement whose head is not read as a block nothing is found. -/
theorem search_nothing {tile : Tile} {behind : List Tile} (first : row ++ more = tile :: behind)
    (unread : namedBlock keyword.spelling (endsInWord false (tilesText before tile.gap))
      (tile.spelling ++ tilesText behind last) = none) :
    matchesFrom (namedBlock keyword.spelling) (endsInWord false (tilesText before [])) 0
      (tilesText (row ++ more) last) =
        matchesFrom (namedBlock keyword.spelling) (endsInWord false (tilesText (before ++ row) [])) 0
          (tilesText more last) := by
  rw [tilesText_append row more, tilesText_append before row]
  refine search_passes tiled unhidden known grouped notEndpoint ?_ (Nat.le_refl _) ?_ ?_
  · rw [tilesText_append, tilesText_append]
  · rw [tilesText_append, List.length_append]
  · intro init c rest tile' behind' split first' atHead
    obtain ⟨rfl, rfl⟩ := List.cons.inj (first.symm.trans first')
    have gap : init = tile.gap := by
      rw [tilesText_last _ tile.gap] at atHead
      exact List.append_cancel_left atHead
    have text : tilesText (row ++ more) last = init ++ c :: (rest ++ tilesText more last) := by
      rw [tilesText_append, split]
      simp
    rw [first, tilesText, gap] at text
    rw [atHead, ← List.append_cancel_left text, unread]

/-- In a statement whose head is read as a block nothing else is found. -/
theorem search_one {tile : Tile} {behind : List Tile} {block : NamedBlock} {rest : List Char}
    (first : row ++ more = tile :: behind)
    (read : namedBlock keyword.spelling (endsInWord false (tilesText before tile.gap))
      (tile.spelling ++ tilesText behind last) = some (block, rest)) :
    Head.of? keyword head = some block.name ∧
      matchesFrom (namedBlock keyword.spelling) (endsInWord false (tilesText before [])) 0
        (tilesText (row ++ more) last) =
          block :: matchesFrom (namedBlock keyword.spelling)
            (endsInWord false (tilesText (before ++ row) [])) 0 (tilesText more last) := by
  have gapBefore : tilesText before tile.gap = tilesText before [] ++ tile.gap := tilesText_last ..
  have text : tilesText (before ++ (row ++ more)) last =
      tilesText before tile.gap ++ (tile.spelling ++ tilesText behind last) := by
    rw [tilesText_append, first, tilesText, gapBefore, List.append_assoc]
  have some := List.length_pos_iff.mpr grouped.tiles_ne_nil
  have spelling : tile.spelling ≠ [] := by
    rw [first] at tiled
    exact spelling_ne_nil tiled.spelled
  have stop : (tilesText before tile.gap).length < (tilesText (before ++ row) []).length := by
    refine (@tile_starts_within (before ++ row) more before behind tile ?_ spelling).mpr ?_
    · rw [List.append_assoc, first]
    · rw [List.length_append]
      omega
  obtain ⟨named, tile', word, brace, others, body, first', _, inner, closed⟩ :=
    answer_at_head tiled unhidden known grouped notEndpoint text
      (by rw [gapBefore, List.length_append]; omega) stop read
  obtain ⟨rfl, rfl⟩ := List.cons.inj (first.symm.trans first')
  obtain ⟨middle, rfl⟩ := grouped.behind_brace tiled (Head.name?_of_of? named) first inner closed
  obtain ⟨taken, whole, notNil⟩ : ∃ taken, tile.spelling ++ tilesText (word :: brace :: others) last =
      taken ++ (middle ++ tilesText more last) ∧ taken ≠ [] := by
    refine ⟨tile.spelling ++ (word.gap ++ (word.spelling ++ (brace.gap ++ (brace.spelling ++
      (body ++ ['\x7d']))))), ?_, by simp [spelling]⟩
    rw [tilesText, tilesText, inner]
    simp
  have text' : tilesText (before ++ (row ++ more)) last =
      (tilesText before tile.gap ++ taken) ++ (middle ++ tilesText more last) := by
    rw [text, whole, List.append_assoc]
  have rowText : tilesText (before ++ row) [] = tilesText before tile.gap ++ taken ++ middle := by
    refine @List.append_cancel_right _ _ (tilesText more last) _ ?_
    rw [← tilesText_append, List.append_assoc before, text', List.append_assoc _ middle]
  have textBefore : tilesText (before ++ (row ++ more)) last = tilesText before [] ++
      (tile.gap ++ (tile.spelling ++ tilesText (word :: brace :: others) last)) := by
    rw [text, gapBefore, List.append_assoc]
  -- The search comes to the head, takes the block, and passes over the rest of the statement.
  have intoHead := search_passes tiled unhidden known grouped notEndpoint
    textBefore (Nat.le_refl _) (by rw [← List.length_append, ← gapBefore]; omega) (by
      intro init c rest other behind split first'' atHead
      obtain ⟨rfl, _⟩ := List.cons.inj (first.symm.trans first'')
      rw [gapBefore] at atHead
      have none := List.append_cancel_left atHead
      rw [split] at none
      simp at none)
  have intoRest := search_passes tiled unhidden known grouped notEndpoint text'
    (by rw [gapBefore, List.length_append, List.length_append]; omega)
    (by simp only [rowText, List.length_append]; omega) (by
      intro init c rest other behind split first'' atHead
      obtain ⟨rfl, _⟩ := List.cons.inj (first.symm.trans first'')
      simp [notNil] at atHead)
  rw [first, tilesText, intoHead, ← gapBefore, whole, matchesFrom_found notNil (whole ▸ read),
    ← endsInWord_parts, intoRest, rowText]
  exact ⟨named, rfl⟩

end Row

/-- No word goes on behind a gap, unless one did before it. -/
theorem Gap.endsInWord {gap : List Char} (isGap : Gap gap) : endsInWord false gap = false := by
  induction isGap with
  | empty => rfl
  | @blank c gap isBlank _ ih =>
    rw [← List.singleton_append, endsInWord_parts]
    rwa [show Blueprint.endsInWord false [c] = false from not_isWordChar_of_isBlank isBlank]
  | @lineComment text gap _ _ ih =>
    rw [show '/' :: '/' :: (text ++ '\n' :: gap) = ('/' :: '/' :: text ++ ['\n']) ++ gap by simp,
      endsInWord_parts, endsInWord_append]
    exact ih
  | @blockComment text gap _ _ ih =>
    rw [show '/' :: '*' :: (text ++ '*' :: '/' :: gap) =
      ('/' :: '*' :: (text ++ ['*']) ++ ['/']) ++ gap by simp, endsInWord_parts, endsInWord_append]
    exact ih

/-- The head of a statement is read as a block if it is written with blanks only. -/
theorem head_is_read {name : String} {tile : Tile} {behind : List Tile}
    (tiled : Tiled (before ++ (row ++ more)) last) (grouped : Grouped Inside head (placed place row))
    (plain : PlainHeads keyword (before ++ (row ++ more))) (named : head.of? keyword = some name)
    (apart : endsInWord false (tilesText before []) = false) (first : row ++ more = tile :: behind) :
    namedBlock keyword.spelling (endsInWord false (tilesText before tile.gap))
      (tile.spelling ++ tilesText behind last) ≠ none := by
  obtain ⟨tile', word, brace, inner, closing, rfl, isKeyword, isName, _, opens, closes⟩ :=
    grouped.named_tiles (Head.name?_of_of? named)
  obtain ⟨rfl, rfl⟩ : tile' = tile ∧ word :: brace :: (inner ++ closing :: more) = behind := by
    simpa using first
  obtain ⟨blank, blank'⟩ := plain before tile' word brace (inner ++ closing :: more) (by simp)
    (Head.keyword_of_of? named ▸ isKeyword) isName opens
  have isRow : Tiled (tile' :: word :: brace :: (inner ++ closing :: more)) last := by
    simpa using tiled.behind
  cases isRow with | tile _ first tail =>
  cases tail with | tile isGap second tail =>
  cases tail with | tile _ third tail =>
  rw [isKeyword, Head.keyword_of_of? named] at first
  rw [opens] at third
  obtain ⟨spelling, ends⟩ := first.keyword_wordEnds
  obtain ⟨spelling', isWord, _⟩ := second.word isName
  have apart' : word.gap ≠ [] := by
    rw [tilesText] at ends
    exact gap_ne_nil isWord ends
  -- The first closing brace is there, since the statement ends with one.
  have member : '\x7d' ∈ tilesText (inner ++ closing :: more) last := by
    have ending := tail.spelled
    rw [closes] at ending
    rw [tilesText_append, tilesText, ending.eq_char]
    simp [Symbol.char]
  obtain ⟨body, rest, text, closed⟩ := List.eq_append_cons_of_mem member
  have isGap' : Gap tile'.gap := by
    cases tiled.behind with | tile isGap _ _ => exact isGap
  rw [tilesText_last _ tile'.gap, endsInWord_parts, apart, isGap'.endsInWord, spelling, tilesText,
    spelling', tilesText, third.eq_char, text]
  rw [spelling'] at isWord
  have read := @namedBlock_laid keyword.spelling word.value word.gap brace.gap body rest isWord blank
    apart' blank' closed
  simp only [Symbol.char, List.singleton_append]
  rw [read]
  simp

/-- No word goes on behind a statement. -/
theorem Grouped.apart {content : List Token → Prop} (tiled : Tiled (before ++ (row ++ more)) last)
    (grouped : Grouped content head (placed place row)) :
    endsInWord false (tilesText (before ++ row) []) = false := by
  generalize whole : placed place row = tokens at grouped
  obtain @⟨front, inside, first, ending, _, _, _, closes⟩ := grouped
  rw [show front ++ first :: (inside ++ [ending]) = (front ++ first :: inside) ++ [ending] by simp]
    at whole
  obtain ⟨init, closings, rfl, _, isClosing⟩ := placed_eq_append whole
  match closings with
  | [closing] =>
    simp only [placed, List.cons.injEq, and_true] at isClosing
    have isTiled : Tiled ((before ++ init) ++ closing :: more) last := by simpa using tiled
    have spelled := isTiled.spelled
    rw [show closing.kind = .symbol .rightBrace by rw [← closes, ← isClosing]] at spelled
    rw [← List.append_assoc, tilesText_append, tilesText, spelled.eq_char, tilesText,
      List.append_nil, ← List.append_assoc, endsInWord_append]
    exact isWordChar_symbol .rightBrace

/-- Behind the last token nothing is found. -/
theorem search_end (unhidden : Unhidden keyword before last)
    (spelled : ∀ tile ∈ before, tile.spelling ≠ [])
    (apart : endsInWord false (tilesText before []) = false) :
    matchesFrom (namedBlock keyword.spelling) false 0 last = [] := by
  have silent := @matchesFrom_silent _ (namedBlock keyword.spelling) false last [] ?_
  · rw [List.append_nil] at silent
    rw [silent]
    rfl
  intro init c rest split
  rw [List.append_nil]
  cases answer : namedBlock keyword.spelling (endsInWord false init) (c :: rest) with
  | none => rfl
  | some found =>
    obtain ⟨outside, isBlock⟩ := namedBlock_eq_some answer
    have outside' : endsInWord false (tilesText before [] ++ init) = false := by
      rw [endsInWord_parts, apart, outside]
    have text : tilesText before last = (tilesText before [] ++ init) ++ c :: rest := by
      rw [tilesText_last, split, List.append_assoc]
    obtain ⟨front, tile, behind, whole, place⟩ := unhidden _ _ _ _ text outside' isBlock
    have within := (@tile_starts_within before [] front behind tile (by rw [List.append_nil, whole])
      (spelled tile (by simp [whole]))).mpr (by simp [whole])
    rw [← place, List.length_append] at within
    omega

/-- The names that are found in some statements, from left to right, are among those of the heads;
where all heads are written with blanks only, they are all of them. -/
theorem search_statements {heads : List Head} {rows : List Tile}
    (splits : Splits (Grouped Inside) heads (placed place rows)) (tiled : Tiled (before ++ rows) last)
    (unhidden : Unhidden keyword (before ++ rows) last)
    (known : ∀ tile ∈ before ++ rows, tile.kind ≠ .unknown) (notEndpoint : keyword ≠ .endpoint)
    (apart : endsInWord false (tilesText before []) = false) :
    ((matchesFrom (namedBlock keyword.spelling) false 0 (tilesText rows last)).map
        NamedBlock.name).Sublist (heads.filterMap (Head.of? keyword)) ∧
      (PlainHeads keyword (before ++ rows) →
        (matchesFrom (namedBlock keyword.spelling) false 0 (tilesText rows last)).map
          NamedBlock.name = heads.filterMap (Head.of? keyword)) := by
  generalize whole : placed place rows = tokens at splits
  induction splits generalizing place before rows with
  | nil =>
    obtain rfl : rows = [] := by
      rw [← List.length_eq_zero_iff, ← placed_length place, whole, List.length_nil]
    rw [List.append_nil] at unhidden tiled
    have spelled : ∀ tile ∈ before, tile.spelling ≠ [] := by
      intro tile member
      obtain ⟨front, behind, rfl⟩ := List.append_of_mem member
      exact spelling_ne_nil tiled.spelled
    rw [tilesText, search_end unhidden spelled apart]
    exact ⟨List.Sublist.refl [], fun _ => rfl⟩
  | @cons head row heads rest grouped _ ih =>
    obtain ⟨row, more, rfl, rfl, rfl⟩ := placed_eq_append whole
    obtain ⟨tile, behind, first⟩ : ∃ tile behind, row ++ more = tile :: behind :=
      List.exists_cons_of_ne_nil (by simp [grouped.tiles_ne_nil])
    have apart' := grouped.apart tiled
    rw [← List.append_assoc] at tiled unhidden known
    have later := ih tiled unhidden known apart' rfl
    rw [List.append_assoc] at tiled unhidden known later
    cases read : namedBlock keyword.spelling (endsInWord false (tilesText before tile.gap))
      (tile.spelling ++ tilesText behind last) with
    | none =>
      have nothing := search_nothing tiled unhidden known grouped notEndpoint first read
      rw [apart, apart'] at nothing
      rw [nothing]
      refine ⟨later.1.trans ((List.sublist_cons_self head heads).filterMap _), fun plain => ?_⟩
      have unnamed : head.of? keyword = none := by
        cases named : head.of? keyword with
        | none => rfl
        | some name => exact absurd read (head_is_read tiled grouped plain named apart first)
      rw [List.filterMap_cons_none unnamed, later.2 plain]
    | some found =>
      obtain ⟨named, one⟩ := search_one tiled unhidden known grouped notEndpoint first read
      rw [apart, apart'] at one
      rw [one, List.map_cons, List.filterMap_cons_some named]
      exact ⟨later.1.cons_cons _, fun plain => by rw [later.2 plain]⟩

end Search

/-! ## Compiled names -/

theorem filterMap_model? (heads : List Head) :
    heads.filterMap (Head.of? .model) = heads.filterMap Head.model? := by
  refine List.filterMap_congr fun head _ => ?_
  cases head <;> rfl

theorem filterMap_screen? (heads : List Head) :
    heads.filterMap (Head.of? .screen) = heads.filterMap Head.screen? := by
  refine List.filterMap_congr fun head _ => ?_
  cases head <;> rfl

section Sources

variable {source : String} {result : ParseResult} {tiles : List Tile} {last : List Char}

/-- The blocks with a keyword in a source that is read without a diagnostic. -/
theorem allMatches_clean {heads : List Head} {keyword : Keyword}
    (splits : Splits (Grouped Inside) heads (tokensOf source))
    (whole : source.toList = tilesText tiles last) (tiled : Tiled tiles last)
    (unhidden : Unhidden keyword tiles last) (notEndpoint : keyword ≠ .endpoint) :
    ((allMatches (namedBlock keyword.spelling) source.toList).map NamedBlock.name).Sublist
        (heads.filterMap (Head.of? keyword)) ∧
      (PlainHeads keyword tiles →
        (allMatches (namedBlock keyword.spelling) source.toList).map NamedBlock.name =
          heads.filterMap (Head.of? keyword)) := by
  rw [tokensOf_tiled whole tiled] at splits
  have nested : Nested (placed .start tiles) := by
    refine (splits.mono fun head row grouped => ?_).nested
    obtain ⟨isHead, opens, inside, closes⟩ := grouped
    exact .group isHead opens inside.nested closes
  rw [allMatches, whole]
  exact @search_statements keyword .start [] last heads tiles splits tiled unhidden
    (tile_known fun token member => (nested.known token member).1) notEndpoint rfl

theorem map_nonemptyOr_sublist {α β : Type} {view : α → β} {preferred fallback : List α}
    (among : (preferred.map view).Sublist (fallback.map view)) :
    ((nonemptyOr preferred fallback).map view).Sublist (fallback.map view) := by
  unfold nonemptyOr
  split
  · exact List.Sublist.refl _
  · exact among

theorem map_nonemptyOr {α β : Type} {view : α → β} {preferred fallback : List α}
    (same : preferred.map view = fallback.map view) :
    (nonemptyOr preferred fallback).map view = fallback.map view := by
  unfold nonemptyOr
  split
  · rfl
  · exact same

/-- Of a source that is read without a diagnostic, and in which no comment and no quoted text has
the beginning of a block in it, the models and screens that are extracted are among those that are
parsed, in their order; where moreover no comment stands in the head of one, they are all of them.
-/
theorem extracted_names_agree (parsed : Document.parse source = .ok result)
    (clean : result.isClean = true) (whole : source.toList = tilesText tiles last)
    (tiled : Tiled tiles last)
    (unhidden : ∀ keyword ∈ [Keyword.model, .screen], Unhidden keyword tiles last) :
    ∃ extracted grammar, compile source .extracted = .ok extracted ∧
      compile source .grammar = .ok grammar ∧
      (extracted.application.models.map Model.name).Sublist
        (grammar.application.models.map Model.name) ∧
      (extracted.application.screens.map Screen.name).Sublist
        (grammar.application.screens.map Screen.name) ∧
      (PlainHeads .model tiles → extracted.application.models.map Model.name =
        grammar.application.models.map Model.name) ∧
      (PlainHeads .screen tiles → extracted.application.screens.map Screen.name =
        grammar.application.screens.map Screen.name) := by
  obtain ⟨document, header, heads, isDocument, isHeader, splits, described⟩ :=
    clean_grouped parsed clean
  have models := allMatches_clean splits whole tiled (unhidden .model (by simp)) (by decide)
  have screens := allMatches_clean splits whole tiled (unhidden .screen (by simp)) (by decide)
  rw [filterMap_model?, described.models] at models
  rw [filterMap_screen?, described.screens] at screens
  have modelNames : (allMatches (namedBlock "model") source.toList).map NamedBlock.name =
      (modelsOf source).map Model.name := by
    rw [modelsOf, List.map_map]
    rfl
  have screenNames : (allMatches (namedBlock "screen") source.toList).map NamedBlock.name =
      (screensOf source).map Screen.name := by
    rw [screensOf, List.map_map]
    rfl
  rw [show Keyword.spelling .model = "model" from rfl, modelNames] at models
  rw [show Keyword.spelling .screen = "screen" from rfl, screenNames] at screens
  exact ⟨_, _, compile_of_header parsed isDocument isHeader .extracted,
    compile_of_header parsed isDocument isHeader .grammar, map_nonemptyOr_sublist models.1,
    map_nonemptyOr_sublist screens.1, fun plain => map_nonemptyOr (models.2 plain),
    fun plain => map_nonemptyOr (screens.2 plain)⟩

end Sources

/-! ## A source with a comment -/

/-- How many characters stand before each of some tiles. -/
def tileStarts : Nat → List Tile → List Nat
  | _, [] => []
  | before, tile :: tiles =>
    (before + tile.gap.length) ::
      tileStarts (before + tile.gap.length + tile.spelling.length) tiles

theorem mem_tileStarts {before place : Nat} {tiles : List Tile}
    (member : place ∈ tileStarts before tiles) : ∃ front tile behind,
      tiles = front ++ tile :: behind ∧ place = before + (tilesText front tile.gap).length := by
  induction tiles generalizing before with
  | nil => contradiction
  | cons first tiles ih =>
    rcases List.mem_cons.mp member with rfl | later
    · exact ⟨[], first, tiles, rfl, rfl⟩
    · obtain ⟨front, tile, behind, rfl, rfl⟩ := ih later
      refine ⟨first :: front, tile, behind, rfl, ?_⟩
      simp only [tilesText, List.length_append]
      omega

/-- Nothing is hidden where the keyword itself stands at tokens only. -/
theorem unhidden_of_starts {keyword : Keyword} {tiles : List Tile} {last : List Char}
    (starts : ∀ place ∈ List.range (tilesText tiles last).length,
      keyword.spelling.toList.isPrefixOf ((tilesText tiles last).drop place) = true →
        place ∈ tileStarts 0 tiles) : Unhidden keyword tiles last := by
  intro before after name rest text _ block
  have begins : keyword.spelling.toList <+: after := by
    obtain ⟨⟩ := block
    exact List.prefix_append _ _
  have inside : before.length < (tilesText tiles last).length := by
    have some : 0 < keyword.spelling.toList.length := by
      obtain ⟨c, more, spelling, _⟩ := isWord_cons (isWord_keyword keyword)
      rw [spelling]
      exact Nat.succ_pos _
    have bound := begins.length_le
    rw [text, List.length_append]
    omega
  have member := starts before.length (List.mem_range.mpr inside)
    (by rw [text, List.drop_left]; exact List.isPrefixOf_iff_prefix.mpr begins)
  obtain ⟨front, tile, behind, rfl, place⟩ := mem_tileStarts member
  refine ⟨front, tile, behind, rfl, ?_⟩
  rw [tilesText_append, tilesText, ← List.append_assoc, ← tilesText_last] at text
  exact (List.append_inj text (by omega)).1.symm

/-- Comments before closing braces stand in no head. -/
theorem plainHeads_of_blank {keyword : Keyword} {tiles : List Tile}
    (blank : ∀ tile ∈ tiles, tile.kind = .symbol .rightBrace ∨ Blank tile.gap) :
    PlainHeads keyword tiles := by
  rintro front word name brace behind rfl _ isName isBrace
  constructor
  · refine (blank name (by simp)).resolve_left fun closes => ?_
    rw [closes] at isName
    contradiction
  · refine (blank brace (by simp)).resolve_left fun closes => ?_
    rw [closes] at isBrace
    contradiction

/-- A header with a comment, a model and a screen. -/
def notedSource : String :=
  "app A \x7bname: \"a\" id: \"b\" version: \"1\" // draft\n\x7d\n" ++
    "model M \x7bid: string\x7d screen S \x7btitle: \"M\"\x7d"

/-- The document of that source. -/
def notedDocument : Document :=
  { header := some { name := "A", displayName := "a", appId := "b", version := "1" }
    models := [⟨"M", [{ name := "id", type := { name := "string" } }]⟩]
    screens := [{ name := "S", title := "M" }] }

set_option maxRecDepth 2000 in
theorem extracted_names_agree_noted :
    Document.parse notedSource = .ok ⟨some notedDocument, []⟩ ∧
      ∃ extracted grammar, compile notedSource .extracted = .ok extracted ∧
        compile notedSource .grammar = .ok grammar ∧
        extracted.application.models.map Model.name =
          grammar.application.models.map Model.name ∧
        extracted.application.screens.map Screen.name =
          grammar.application.screens.map Screen.name := by
  have parsed : Document.parse notedSource = .ok ⟨some notedDocument, []⟩ := by cbv
  obtain ⟨whole, tiled⟩ := tilesOf_tiled notedSource.toList
  have starts : ∀ keyword ∈ [Keyword.model, .screen],
      ∀ place ∈ List.range (tilesText (tilesOf notedSource.toList).1
          (tilesOf notedSource.toList).2).length,
        keyword.spelling.toList.isPrefixOf
            ((tilesText (tilesOf notedSource.toList).1 (tilesOf notedSource.toList).2).drop place) =
              true →
          place ∈ tileStarts 0 (tilesOf notedSource.toList).1 := by
    rw [← whole]
    decide +kernel
  have blank : ∀ tile ∈ (tilesOf notedSource.toList).1,
      tile.kind = .symbol .rightBrace ∨ Blank tile.gap := by decide +kernel
  obtain ⟨extracted, grammar, compiled, compiled', _, _, models, screens⟩ :=
    extracted_names_agree parsed rfl whole tiled fun keyword member =>
      unhidden_of_starts (starts keyword member)
  exact ⟨parsed, extracted, grammar, compiled, compiled', models (plainHeads_of_blank blank),
    screens (plainHeads_of_blank blank)⟩

/-! ## Hidden blocks and heads with comments -/

/-- A header without models, and a comment with a block in it. -/
def hiddenSource : String :=
  "app A \x7bname: 'a' id: 'b' version: '1'\x7d // model B \x7b\x7d"

/-- Two models, the head of the first one with a comment in it. -/
def remarkSource : String :=
  "app A \x7bname: 'a' id: 'b' version: '1'\x7d model M /* */ \x7b\x7d model N \x7b\x7d"

def plainHeader : Header := { name := "A", displayName := "a", appId := "b", version := "1" }

set_option maxRecDepth 4000 in
/-- Of clean sources, a model may be extracted that is none, and one may be missed. -/
theorem names_differ :
    (∃ result extracted grammar, Document.parse hiddenSource = .ok result ∧ result.isClean = true ∧
        compile hiddenSource .extracted = .ok extracted ∧
        compile hiddenSource .grammar = .ok grammar ∧
        extracted.application.models.map Model.name = ["B"] ∧
        grammar.application.models.map Model.name = []) ∧
      ∃ result extracted grammar, Document.parse remarkSource = .ok result ∧ result.isClean = true ∧
        compile remarkSource .extracted = .ok extracted ∧
        compile remarkSource .grammar = .ok grammar ∧
        extracted.application.models.map Model.name = ["N"] ∧
        grammar.application.models.map Model.name = ["M", "N"] := by
  have hidden : Document.parse hiddenSource = .ok ⟨some { header := some plainHeader }, []⟩ := by cbv
  have remark : Document.parse remarkSource =
      .ok ⟨some { header := some plainHeader, models := [⟨"M", []⟩, ⟨"N", []⟩] }, []⟩ := by cbv
  constructor
  · refine ⟨_, _, _, hidden, rfl, compile_of_header hidden rfl rfl .extracted,
      compile_of_header hidden rfl rfl .grammar, ?_, rfl⟩
    cbv
  · refine ⟨_, _, _, remark, rfl, compile_of_header remark rfl rfl .extracted,
      compile_of_header remark rfl rfl .grammar, ?_, rfl⟩
    cbv

end Blueprint
