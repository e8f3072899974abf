import Blueprint.Proofs.BlockText
import Blueprint.Proofs.Spacing

/-!
A source without one of its marks. `tokensOf_without` says that the other tokens stay what they are
if a closing brace in front of a keyword is left out, unless two words run together there.
-/
set_option autoImplicit false

namespace Blueprint

open Text

/-! ## Places in a text -/

/-- Text moves a place on: to a later line, or further along its own. -/
theorem Position.after_moves (place : Position) (text : List Char) :
    place.line < (place.after text).line ∨
      (place.after text).line = place.line ∧
        (place.after text).column = place.column + text.length := by
  induction text generalizing place with
  | nil => exact .inr ⟨rfl, rfl⟩
  | cons c text ih =>
    have step : place.after (c :: text) = (place.next c).after text := rfl
    have behind := ih (place.next c)
    rw [step, List.length_cons]
    unfold Position.next at behind ⊢
    split at behind <;> simp_all <;> omega

theorem Position.after_append (place : Position) (text more : List Char) :
    place.after (text ++ more) = (place.after text).after more :=
  List.foldl_append

/-- Of the beginnings of a text, every one ends at a place of its own. -/
theorem prefix_of_place {place : Position} {first second : List Char} {text : List Char}
    (start : first <+: text) (start' : second <+: text)
    (same : place.after first = place.after second) : first = second := by
  have grows {front more : List Char} (same : place.after front = place.after (front ++ more)) :
      more = [] := by
    rw [Position.after_append] at same
    have moves := Position.after_moves (place.after front) more
    rw [← same] at moves
    have none : more.length = 0 := by omega
    exact List.length_eq_zero_iff.mp none
  rcases List.prefix_or_prefix_of_prefix start start' with ⟨more, rfl⟩ | ⟨more, rfl⟩
  · rw [grows same, List.append_nil]
  · rw [grows same.symm, List.append_nil]

theorem placeAfter_eq (place : Position) (tiles : List Tile) :
    placeAfter place tiles = place.after (tilesText tiles []) := by
  induction tiles generalizing place with
  | nil => rfl
  | cons tile tiles ih =>
    rw [placeAfter, ih, tilesText, Position.after_append, Position.after_append]

/-! ## What follows a row of tokens -/

/-- A known token is spelled the same in front of a character that does not belong to it. -/
theorem Spelled.refollow {inner tail more spelling : List Char} {kind : TokenKind} {value : String}
    {c : Char} (spelled : Spelled (inner ++ tail) kind value spelling) (known : kind ≠ .unknown)
    (noNumber : ∀ number, IsNumber number → c ∉ number)
    (ends : inner = [] → IsWord spelling → isWordChar c = false) :
    Spelled (inner ++ c :: more) kind value spelling := by
  have word (longest : Longest IsWord spelling (inner ++ tail)) :
      Longest IsWord spelling (inner ++ c :: more) := by
    refine longest_of_wordEnds longest.1 ?_
    cases inner with
    | nil => exact wordEnds_cons (ends rfl longest.1) more
    | cons d inner => exact longest.wordEnds
  cases spelled with
  | symbol mark => exact .symbol mark
  | string quote escaped => exact .string quote escaped
  | number longest =>
    refine .number ⟨longest.1, fun other begins isNumber => ?_⟩
    rw [← List.append_assoc] at begins
    have within := prefix_of_not_mem begins (noNumber other isNumber)
    refine longest.2 other (within.trans ?_) isNumber
    rw [← List.append_assoc]
    exact List.prefix_append _ tail
  | keyword keyword longest => exact .keyword keyword (word longest)
  | identifier longest free => exact .identifier (word longest) free
  | openQuote => contradiction
  | unknown => contradiction

/-- Known tokens stay what they are if other ones follow them, as long as these do not run on. -/
theorem Tiled.refollow {tiles rest rest' : List Tile} {last last' more : List Char} {c : Char}
    (tiled : Tiled (tiles ++ rest) last) (known : ∀ tile ∈ tiles, tile.kind ≠ .unknown)
    (tiled' : Tiled rest' last') (begins : tilesText rest' last' = c :: more)
    (noNumber : ∀ number, IsNumber number → c ∉ number)
    (ends : ∀ tile ∈ tiles.getLast?, IsWord tile.spelling → isWordChar c = false) :
    Tiled (tiles ++ rest') last' := by
  induction tiles with
  | nil => exact tiled'
  | cons tile tiles ih =>
    cases tiled with
    | tile isGap spelled tail =>
      refine .tile isGap ?_
        (ih tail (fun other later => known other (List.mem_cons_of_mem _ later)) ?_)
      · change Spelled (tilesText (tiles ++ rest) last) _ _ _ at spelled
        change Spelled (tilesText (tiles ++ rest') last') _ _ _
        rw [tilesText_append] at spelled ⊢
        rw [begins]
        refine spelled.refollow (known tile List.mem_cons_self) noNumber fun none => ?_
        have alone : tiles = [] := by
          cases tiles with
          | nil => rfl
          | cons other tiles =>
            cases tail with
            | tile _ spelled' =>
              have some := spelling_ne_nil spelled'
              simp [tilesText, some] at none
        exact ends tile (by simp [alone])
      · intro other isLast
        refine ends other ?_
        cases tiles with
        | nil => contradiction
        | cons => simpa using isLast

/-! ## Leaving a token out -/

/-- What begins a gap or a word is no part of a number. -/
theorem not_mem_number {c : Char} {number : List Char}
    (first : isBlank c = true ∨ c = '/' ∨ isWordStart c = true) (isNumber : IsNumber number) :
    c ∉ number := by
  intro inside
  rcases first with blank | rfl | start
  · exact unbroken_isNumber isNumber blank inside
  · rcases char_of_isNumber isNumber inside with digit | same | same
    · exact absurd digit (by decide)
    · exact absurd same (by decide)
    · exact absurd same (by decide)
  · rcases char_of_isNumber isNumber inside with digit | rfl | rfl
    · rw [not_isDigit_of_isWordStart start] at digit
      contradiction
    · exact absurd start (by decide)
    · exact absurd start (by decide)

/-- A gap and a word behind it begin with a blank, with a comment or with the word. -/
theorem first_of_word {gap word : List Char} (isGap : Gap gap) (isWord : IsWord word)
    (rest : List Char) : ∃ c more, gap ++ (word ++ rest) = c :: more ∧
      (isBlank c = true ∨ c = '/' ∨ isWordStart c = true) ∧
      (gap ≠ [] → isWordChar c = false) := by
  cases isGap with
  | empty =>
    obtain ⟨c, letters, rfl, start, _⟩ := isWord
    exact ⟨c, letters ++ rest, rfl, .inr (.inr start), fun some => absurd rfl some⟩
  | @blank c gap blank =>
    exact ⟨c, gap ++ (word ++ rest), rfl, .inl blank, fun _ => not_isWordChar_of_isBlank blank⟩
  | lineComment => exact ⟨'/', _, rfl, .inr (.inl rfl), fun _ => by decide⟩
  | blockComment => exact ⟨'/', _, rfl, .inr (.inl rfl), fun _ => by decide⟩

/-- Two texts such that no word runs from one into the other. -/
def WordsApart (before after : List Char) : Prop :=
  ∀ c ∈ before.getLast?, isWordChar c = true → WordEnds after

theorem WordsApart.behind_word {tiles : List Tile} {tile : Tile} {after : List Char}
    (apart : WordsApart (tilesText tiles []) after) (isLast : tile ∈ tiles.getLast?)
    (isWord : IsWord tile.spelling) : WordEnds after := by
  obtain ⟨front, rfl⟩ := List.getLast?_eq_some_iff.mp isLast
  obtain ⟨letters, c, spelling⟩ := List.eq_nil_or_concat tile.spelling |>.resolve_left
    (by rintro none; obtain ⟨_, _, some, _⟩ := isWord; rw [none] at some; contradiction)
  have member : c ∈ tile.spelling := by
    rw [spelling]
    simp
  refine apart c ?_ (isWordChar_of_isWord isWord c member)
  rw [tilesText_append, tilesText, tilesText, spelling]
  simp

/-- A token stands where the text in front of it ends. -/
theorem split_at_place {before more last : List Char} {tiles behind : List Tile} {tile : Tile}
    (text : before ++ more = tilesText (tiles ++ tile :: behind) last)
    (stands : (placeAfter .start tiles).after tile.gap = Position.start.after before) :
    before = tilesText tiles [] ++ tile.gap ∧ more = tile.spelling ++ tilesText behind last := by
  rw [placeAfter_eq, ← Position.after_append] at stands
  rw [tilesText_append, tilesText, ← List.append_assoc] at text
  have split : before = tilesText tiles [] ++ tile.gap := by
    refine prefix_of_place (List.prefix_append before more) ?_ stands.symm
    rw [text]
    exact List.prefix_append _ _
  rw [split] at text
  exact ⟨split, List.append_cancel_left text⟩

/-- Without a token in front of a keyword, the other tokens of a row stay what they are. -/
theorem Tiled.without {tiles others : List Tile} {tile first : Tile} {last : List Char}
    {keyword : Keyword} (tiled : Tiled (tiles ++ tile :: first :: others) last)
    (known : ∀ tile ∈ tiles, tile.kind ≠ .unknown) (isKeyword : first.kind = .keyword keyword)
    (apart : WordsApart (tilesText tiles [] ++ tile.gap) (tilesText (first :: others) last)) :
    Tiled (tiles ++ { first with gap := tile.gap ++ first.gap } :: others) last := by
  obtain _ | ⟨isGap, _, tail⟩ := tiled.behind
  have moved : Tiled ({ first with gap := tile.gap ++ first.gap } :: others) last :=
    withGap_tiled isGap tail
  have isWord : IsWord first.spelling := by
    have spelled := @Tiled.spelled [] _ _ _ tail
    rw [isKeyword] at spelled
    rw [spelled.keyword_wordEnds.1]
    exact isWord_keyword keyword
  have isGap' : Gap (tile.gap ++ first.gap) := by
    cases moved with | tile isGap' => exact isGap'
  obtain ⟨c, more, begins, starts, notWordChar⟩ :=
    first_of_word isGap' isWord (tilesText others last)
  refine tiled.refollow known moved begins (fun _ => not_mem_number starts) ?_
  intro other isLast isWord'
  cases gap : tile.gap with
  | cons d gap => exact notWordChar (by simp [gap])
  | nil =>
    rw [gap, List.append_nil] at apart
    have ends := apart.behind_word isLast isWord'
    rw [gap, List.nil_append] at begins
    rw [tilesText, begins] at ends
    exact ends c rfl

/-- Without a closing brace in front of a keyword, the other tokens of a text stay what they are. -/
theorem tokensOf_without {before after : String} {front back : List Token} {closing word : Token}
    {keyword : Keyword}
    (whole : tokensOf (before ++ "\x7d" ++ after) = front ++ closing :: (word :: back))
    (stands : closing.place = Position.start.after before.toList)
    (known : ∀ token ∈ front, token.kind ≠ .unknown) (isKeyword : word.kind = .keyword keyword)
    (apart : WordsApart before.toList after.toList) :
    SameTokens (front ++ word :: back) (tokensOf (before ++ after)) := by
  obtain ⟨tiles, last, text, tiled⟩ := exists_tiled (before ++ "\x7d" ++ after).toList
  rw [tokensOf_tiled text tiled] at whole
  obtain ⟨fronts, behind, rfl, rfl, later⟩ := placed_eq_append whole
  obtain ⟨brace, first, others, rfl⟩ : ∃ brace first others, behind = brace :: first :: others := by
    match behind, later with
    | brace :: first :: others, _ => exact ⟨brace, first, others, rfl⟩
  obtain ⟨rfl, words⟩ := List.cons.inj later
  obtain ⟨rfl, rfl⟩ := List.cons.inj words
  rw [String.toList_append, String.toList_append, List.append_assoc] at text
  obtain ⟨front, rest⟩ := split_at_place text stands
  obtain _ | ⟨_, spelled, _⟩ := tiled.behind
  obtain ⟨_, rest⟩ : brace.kind = .symbol .rightBrace ∧
      tilesText (first :: others) last = after.toList := spelled.eq_symbol rest.symm
  rw [front, ← rest] at apart
  have without := tiled.without (tile_known known) isKeyword apart
  have text' : (before ++ after).toList =
      tilesText (fronts ++ { first with gap := brace.gap ++ first.gap } :: others) last := by
    rw [String.toList_append, front, ← rest, tilesText_append]
    simp [tilesText]
  rw [tokensOf_tiled text' without, placed_append]
  exact List.rel_append (placed_same _ _ _) (.cons ⟨rfl, rfl⟩ (placed_same _ _ _))

end Blueprint
