import Blueprint.Proofs.Lexemes

/-!
A source as a row of tiles: a gap, a token, a gap, a token, and a last gap. `tokenize_tiles` says that
every source is such a row in exactly one way, and that the tokens of the row are what is read from
the source.
-/
set_option autoImplicit false

namespace Blueprint

/-- A token with the characters that spell it and the gap before them. -/
structure Tile where
  gap : List Char
  kind : TokenKind
  value : String
  spelling : List Char

/-- The text of tiles in a row and of the gap after the last one. -/
def tilesText : List Tile → List Char → List Char
  | [], last => last
  | tile :: tiles, last => tile.gap ++ (tile.spelling ++ tilesText tiles last)

/-- Tiles in a row, each with a gap and a token as the rules of spelling demand. -/
inductive Tiled : List Tile → List Char → Prop where
  | last {gap : List Char} (isLast : LastGap gap) : Tiled [] gap
  | tile {tile : Tile} {tiles : List Tile} {last : List Char} (isGap : Gap tile.gap)
    (spelled : Spelled (tilesText tiles last) tile.kind tile.value tile.spelling)
    (tail : Tiled tiles last) : Tiled (tile :: tiles) last

/-- The tokens of tiles in a row, each placed where its spelling starts, and the end of the source. -/
def tokensAt (place : Position) : List Tile → List Char → List Token
  | [], last => [⟨.eof, "", place.after last⟩]
  | tile :: tiles, last =>
    let start := place.after tile.gap
    ⟨tile.kind, tile.value, start⟩ :: tokensAt (start.after tile.spelling) tiles last

/-! ## Reading a row of tiles -/

theorem next_last {gap : List Char} (isLast : LastGap gap) (place : Position) :
    Cursor.next ⟨gap, place⟩ = (⟨.eof, "", place.after gap⟩, none) := by
  unfold Cursor.next
  simp only [splitGap_lastGap isLast]

theorem next_tile {tile : Tile} {rest : List Char} (isGap : Gap tile.gap)
    (spelled : Spelled rest tile.kind tile.value tile.spelling) (place : Position) :
    Cursor.next ⟨tile.gap ++ (tile.spelling ++ rest), place⟩ =
      (⟨tile.kind, tile.value, place.after tile.gap⟩,
        some ⟨rest, (place.after tile.gap).after tile.spelling⟩) := by
  obtain ⟨c, more, spelling, noGap, read⟩ := read_spelled spelled
  have split : splitGap .blank (tile.gap ++ (tile.spelling ++ rest)) =
      (tile.gap, c :: (more ++ rest)) := by
    rw [splitGap_gap isGap, spelling, List.cons_append, splitGap_noGap noGap, afterGap,
      List.append_nil]
  unfold Cursor.next
  simp only [split, read]

/-- A row of tiles is read as its tokens. -/
theorem tokens_tiled {tiles : List Tile} {last : List Char} (tiled : Tiled tiles last)
    (place : Position) : Cursor.tokens ⟨tilesText tiles last, place⟩ = tokensAt place tiles last := by
  induction tiled generalizing place with
  | last isLast =>
    rw [Cursor.tokens]
    split
    · next token step =>
      rw [tilesText, next_last isLast] at step
      simp only [Prod.mk.injEq, and_true] at step
      rw [← step]
      rfl
    · next token after step =>
      rw [tilesText, next_last isLast] at step
      simp at step
  | tile isGap spelled _ ih =>
    rw [Cursor.tokens]
    split
    · next token step =>
      rw [tilesText, next_tile isGap spelled] at step
      simp at step
    · next token after step =>
      rw [tilesText, next_tile isGap spelled] at step
      simp only [Prod.mk.injEq, Option.some.injEq] at step
      rw [← step.1, ← step.2, ih]
      rfl

/-! ## Every source is a row of tiles, in one way -/

/-- The tiles that the scanner meets in a text, at most as many as it may read, and the last gap. -/
def tilesFrom : Nat → List Char → List Tile × List Char
  | 0, text => ([], text)
  | reads + 1, text =>
    match splitGap .blank text with
    | (gap, []) => ([], gap)
    | (gap, c :: more) =>
      let lexeme := Lexeme.read c more
      let behind := tilesFrom reads lexeme.rest
      (⟨gap, lexeme.kind, lexeme.value, lexeme.spelling⟩ :: behind.1, behind.2)

/-- Every token takes at least one character. -/
def tilesOf (text : List Char) : List Tile × List Char :=
  tilesFrom (text.length + 1) text

theorem tilesFrom_tiled {reads : Nat} {text : List Char} (enough : text.length < reads) :
    text = tilesText (tilesFrom reads text).1 (tilesFrom reads text).2 ∧
      Tiled (tilesFrom reads text).1 (tilesFrom reads text).2 := by
  induction reads generalizing text with
  | zero => contradiction
  | succ reads ih =>
    obtain ⟨gapBefore, noGap⟩ := gap_of_splitGap text
    have whole := splitGap_append .blank text
    rw [tilesFrom]
    split
    · next gap split =>
      rw [split] at whole gapBefore
      rw [List.append_nil] at whole
      refine ⟨whole.symm, .last ?_⟩
      rcases gapBefore with closed | ⟨_, isLast⟩
      · exact .inl closed
      · exact isLast
    · next gap c more split =>
      rw [split] at whole gapBefore noGap
      have isGap : Gap gap := by
        rcases gapBefore with closed | ⟨atEnd, _⟩
        · exact closed
        · contradiction
      obtain ⟨tail, spelling, parts⟩ := Lexeme.read_append c more
      have shorter : (Lexeme.read c more).rest.length < reads := by
        have lengths := congrArg List.length whole
        have bound := Lexeme.read_length c more
        simp only [List.length_append, List.length_cons] at lengths
        omega
      obtain ⟨same, tiled⟩ := ih shorter
      have spelled := spelled_read noGap
      rw [same] at spelled
      refine ⟨?_, .tile isGap spelled tiled⟩
      rw [tilesText, ← same, spelling, List.cons_append, parts, whole]

theorem tilesOf_tiled (text : List Char) :
    text = tilesText (tilesOf text).1 (tilesOf text).2 ∧ Tiled (tilesOf text).1 (tilesOf text).2 :=
  tilesFrom_tiled (Nat.lt_succ_self _)

theorem exists_tiled (text : List Char) :
    ∃ tiles last, text = tilesText tiles last ∧ Tiled tiles last :=
  ⟨_, _, tilesOf_tiled text⟩

/-- What a scanner finds at the start of a row tells its first tile from the rest. -/
theorem first_tile_unique {first second : Tile} {rest rest' : List Char} (isGap : Gap first.gap)
    (isGap' : Gap second.gap) (spelled : Spelled rest first.kind first.value first.spelling)
    (spelled' : Spelled rest' second.kind second.value second.spelling)
    (same : first.gap ++ (first.spelling ++ rest) = second.gap ++ (second.spelling ++ rest')) :
    first = second ∧ rest = rest' := by
  obtain ⟨c, more, spelling, noGap, read⟩ := read_spelled spelled
  obtain ⟨c', more', spelling', noGap', read'⟩ := read_spelled spelled'
  have split := splitGap_gap isGap (first.spelling ++ rest)
  have split' := splitGap_gap isGap' (second.spelling ++ rest')
  rw [spelling, List.cons_append, splitGap_noGap noGap] at split
  rw [← same, spelling', spelling, List.cons_append, List.cons_append, splitGap_noGap noGap',
    split] at split'
  simp only [afterGap, List.append_nil, Prod.mk.injEq, List.cons.injEq] at split'
  obtain ⟨gaps, rfl, rests⟩ := split'
  rw [rests, read'] at read
  simp only [Lexeme.mk.injEq] at read
  obtain ⟨kinds, values, spellings, rests⟩ := read
  refine ⟨?_, rests.symm⟩
  cases first
  cases second
  simp_all

theorem tiled_unique {tiles tiles' : List Tile} {last last' : List Char} (tiled : Tiled tiles last)
    (tiled' : Tiled tiles' last') (same : tilesText tiles last = tilesText tiles' last') :
    tiles = tiles' ∧ last = last' := by
  induction tiled generalizing tiles' last' with
  | @last gap isLast =>
    cases tiled' with
    | last isLast' => exact ⟨rfl, same⟩
    | @tile tile rest last' isGap spelled tail =>
      have end' := next_last isLast .start
      simp only [tilesText] at same
      rw [same, next_tile isGap spelled] at end'
      simp at end'
  | @tile tile rest last isGap spelled tail ih =>
    cases tiled' with
    | last isLast' =>
      have end' := next_last isLast' .start
      simp only [tilesText] at same
      rw [← same, next_tile isGap spelled] at end'
      simp at end'
    | tile isGap' spelled' tail' =>
      obtain ⟨first, rests⟩ := first_tile_unique isGap isGap' spelled spelled' same
      obtain ⟨tiles, lasts⟩ := ih tail' rests
      exact ⟨by rw [first, tiles], lasts⟩

/-! ## Quotation marks -/

theorem not_unquoted_of_escaped {mark : Char} {body content rest : List Char} (quote : IsQuote mark)
    (escaped : Escaped mark body content) : ¬ Unquoted mark (body ++ mark :: rest) := by
  intro unquoted
  have closes := closeQuote?_escaped quote escaped rest
  rw [closeQuote?_unquoted unquoted] at closes
  contradiction

theorem not_isNumber_of_isQuote {mark : Char} {more : List Char} (quote : IsQuote mark) :
    ¬ IsNumber (mark :: more) := by
  intro number
  rcases (startsNumber_of_isNumber number []).2 with digit | rfl
  · exact plain_isDigit.not_isQuote digit quote
  · exact absurd quote (by decide)

theorem not_isWord_of_isQuote {mark : Char} {more : List Char} (quote : IsQuote mark) :
    ¬ IsWord (mark :: more) := by
  rintro ⟨c, rest, same, start, _⟩
  simp only [List.cons.injEq] at same
  rw [← same.1] at start
  exact plain_isWordStart.not_isQuote start quote

/-- A token that starts with a quotation mark is a text between two of them, or the mark alone, which
then has no partner. -/
theorem Spelled.literal_or_open {rest spelling more : List Char} {kind : TokenKind} {value : String}
    {mark : Char} (spelled : Spelled rest kind value spelling) (quote : IsQuote mark)
    (starts : spelling = mark :: more) :
    (kind = .string ∧ ∃ body content, more = body ++ [mark] ∧ Escaped mark body content) ∨
      kind = .unknown ∧ more = [] ∧ Unquoted mark rest := by
  cases spelled with
  | symbol symbol =>
    simp only [List.cons.injEq] at starts
    have found := symbol_ofChar? symbol
    rw [starts.1, ofChar?_of_isQuote quote] at found
    contradiction
  | string quote' escaped =>
    simp only [List.cons.injEq] at starts
    obtain ⟨rfl, rfl⟩ := starts
    exact .inl ⟨rfl, _, _, rfl, escaped⟩
  | number longest =>
    rw [starts] at longest
    exact absurd longest.1 (not_isNumber_of_isQuote quote)
  | keyword word longest =>
    rw [starts] at longest
    exact absurd longest.1 (not_isWord_of_isQuote quote)
  | identifier longest free =>
    rw [starts] at longest
    exact absurd longest.1 (not_isWord_of_isQuote quote)
  | openQuote quote' unquoted =>
    simp only [List.cons.injEq] at starts
    obtain ⟨rfl, rfl⟩ := starts
    exact .inr ⟨rfl, rfl, unquoted⟩
  | unknown nothing =>
    simp only [List.cons.injEq] at starts
    rw [starts.1] at nothing
    exact absurd quote nothing.2.1

/-- A token that starts with a quotation mark is unknown exactly if the mark has no partner. -/
theorem unknown_iff_unquoted {rest spelling more : List Char} {kind : TokenKind} {value : String}
    {mark : Char} (spelled : Spelled rest kind value spelling) (quote : IsQuote mark)
    (starts : spelling = mark :: more) : kind = .unknown ↔ Unquoted mark (more ++ rest) := by
  rcases spelled.literal_or_open quote starts with
    ⟨rfl, body, content, rfl, escaped⟩ | ⟨rfl, rfl, unquoted⟩
  · simp only [reduceCtorEq, false_iff, List.append_assoc, List.singleton_append]
    exact not_unquoted_of_escaped quote escaped
  · simpa using unquoted

theorem spelling_ne_nil {rest spelling : List Char} {kind : TokenKind} {value : String}
    (spelled : Spelled rest kind value spelling) : spelling ≠ [] := by
  obtain ⟨c, more, starts, _⟩ := read_spelled spelled
  rw [starts]
  exact List.cons_ne_nil c more

theorem Tiled.behind {before tiles : List Tile} {last : List Char}
    (tiled : Tiled (before ++ tiles) last) : Tiled tiles last := by
  induction before with
  | nil => exact tiled
  | cons first before ih => cases tiled with | tile _ _ tail => exact ih tail

theorem Tiled.spelled {before after : List Tile} {tile : Tile} {last : List Char}
    (tiled : Tiled (before ++ tile :: after) last) :
    Spelled (tilesText after last) tile.kind tile.value tile.spelling := by
  cases tiled.behind with | tile _ spelled _ => exact spelled

/-- Every source is a row of tiles in exactly one way; what is read from it are the tokens of the
row, none of them empty; and a quotation mark is an unknown token exactly if reading escapes in pairs
from it meets a line break or the end of the source before its partner. -/
theorem tokenize_tiles (source : String) :
    ∃ tiles last, source.toList = tilesText tiles last ∧ Tiled tiles last ∧
      tokenize source = tokensAt .start tiles last ∧
      (∀ tiles' last', source.toList = tilesText tiles' last' → Tiled tiles' last' →
        tiles' = tiles ∧ last' = last) ∧
      ∀ before tile after, tiles = before ++ tile :: after →
        tile.spelling ≠ [] ∧
          ∀ mark more, IsQuote mark → tile.spelling = mark :: more →
            (tile.kind = .unknown ↔ Unquoted mark (more ++ tilesText after last)) := by
  obtain ⟨tiles, last, whole, tiled⟩ := exists_tiled source.toList
  refine ⟨tiles, last, whole, tiled, ?_, ?_, ?_⟩
  · rw [tokenize, Cursor.ofSource, whole]
    exact tokens_tiled tiled .start
  · intro tiles' last' whole' tiled'
    exact tiled_unique tiled' tiled (whole'.symm.trans whole)
  · intro before tile after split
    rw [split] at tiled
    refine ⟨spelling_ne_nil tiled.spelled, ?_⟩
    intro mark more quote starts
    exact unknown_iff_unquoted tiled.spelled quote starts

end Blueprint
