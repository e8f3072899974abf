import Blueprint.Proofs.Respacing

/-!
Tokens that are written down and read again. A token has a spelling, of a text one for each kind of
quotation mark; and tokens in a row are kept apart by blanks and closed comments, whatever these say.
`tokenize_written` says that the row is read as its tokens.
-/
set_option autoImplicit false

namespace Blueprint

open Text

/-- A token that can be written: any but an unknown one and the end of a source. A text may stand
between quotation marks of either kind, and have its line breaks escaped by a letter or as they are. -/
inductive WritableToken where
  | symbol (mark : Symbol)
  | keyword (word : Keyword)
  | identifier (name : List Char) (isWord : IsWord name)
    (free : ∀ word : Keyword, word.spelling ≠ String.ofList name)
  | number (digits : List Char) (isNumber : IsNumber digits)
  | text (mark : Char) (quote : IsQuote mark) (breaks : Char)
    (isBreak : breaks = 'n' ∨ breaks = '\n') (content : List Char)

/-- A character between quotation marks: these, backslashes and line breaks are escaped. -/
def escapeWithin (mark breaks c : Char) : List Char :=
  if c = '\n' then ['\\', breaks] else if c = mark ∨ c = '\\' then ['\\', c] else [c]

namespace WritableToken

def kind : WritableToken → TokenKind
  | symbol mark => .symbol mark
  | keyword word => .keyword word
  | identifier .. => .identifier
  | number .. => .number
  | text .. => .string

def value : WritableToken → String
  | symbol mark => String.ofList [mark.char]
  | keyword word => word.spelling
  | identifier name .. => String.ofList name
  | number digits _ => String.ofList digits
  | text _ _ _ _ content => String.ofList content

def spelling : WritableToken → List Char
  | symbol mark => [mark.char]
  | keyword word => word.spelling.toList
  | identifier name .. => name
  | number digits _ => digits
  | text mark _ breaks _ content => mark :: (content.flatMap (escapeWithin mark breaks) ++ [mark])

/-- Tokens in a row: `gaps 0` stands before the first one, and `gaps (n + 1)` between the one with
number `n` and the next. -/
def row (gaps : Nat → List Char) : List WritableToken → List Char
  | [] => []
  | token :: tokens => gaps 0 ++ (token.spelling ++ row (fun number => gaps (number + 1)) tokens)

/-- The tiles of tokens in a row. -/
def tiles (gaps : Nat → List Char) : List WritableToken → List Tile
  | [] => []
  | token :: tokens =>
    ⟨gaps 0, token.kind, token.value, token.spelling⟩ ::
      tiles (fun number => gaps (number + 1)) tokens

end WritableToken

/-! ## Spellings -/

theorem escaped_escapeWithin {mark breaks : Char} (quote : IsQuote mark)
    (isBreak : breaks = 'n' ∨ breaks = '\n') (content : List Char) :
    Escaped mark (content.flatMap (escapeWithin mark breaks)) content := by
  have line : unescape breaks = '\n' := by
    rcases isBreak with rfl | rfl <;> rfl
  induction content with
  | nil => exact .empty
  | cons c content ih =>
    rw [List.flatMap_cons, escapeWithin]
    split
    · next same =>
      rw [same, ← line]
      exact .pair ih
    · next notBreak =>
      split
      · next special =>
        have self : unescape c = c := by
          rcases special with rfl | rfl
          · rcases quote with rfl | rfl <;> rfl
          · rfl
        have pair := Escaped.pair (c := c) ih
        rwa [self] at pair
      · next plain =>
        rw [not_or] at plain
        exact .plain plain.1 plain.2 notBreak ih

/-- A source ends here or goes on with a blank. -/
def BlankAhead (rest : List Char) : Prop := ∀ c ∈ rest.head?, isBlank c = true

theorem Filler.blankAhead {gap : List Char} (filler : Filler gap) (rest : List Char) :
    BlankAhead (gap ++ rest) := by
  obtain ⟨_, c, more, rfl, blank⟩ := filler
  intro d ahead
  obtain rfl : c = d := by simpa using ahead
  exact blank

theorem Unbroken.longest_ahead {member : List Char → Prop} (unbroken : Unbroken member)
    {text : List Char} (isMember : member text) {rest : List Char} (ahead : BlankAhead rest) :
    Longest member text rest := by
  cases rest with
  | nil =>
    refine ⟨isMember, fun other starts _ => ?_⟩
    rw [List.append_nil] at starts
    exact starts.length_le
  | cons c rest => exact unbroken.longest isMember (ahead c rfl) rest

namespace WritableToken

/-- A spelling is read as its token where a blank follows or the source ends. -/
theorem spelled (token : WritableToken) {rest : List Char} (ahead : BlankAhead rest) :
    Spelled rest token.kind token.value token.spelling := by
  cases token with
  | symbol mark => exact .symbol mark
  | keyword word => exact .keyword word (unbroken_isWord.longest_ahead (isWord_keyword word) ahead)
  | identifier name isWord free =>
    exact .identifier (unbroken_isWord.longest_ahead isWord ahead) free
  | number digits isNumber => exact .number (unbroken_isNumber.longest_ahead isNumber ahead)
  | text mark quote breaks isBreak content =>
    exact .string quote (escaped_escapeWithin quote isBreak content)

/-! ## Rows -/

theorem row_blankAhead {gaps : Nat → List Char} (filler : Filler (gaps 0))
    (tokens : List WritableToken) : BlankAhead (row gaps tokens) := by
  cases tokens with
  | nil => exact fun _ ahead => nomatch ahead
  | cons token tokens => exact filler.blankAhead _

theorem tilesText_tiles (gaps : Nat → List Char) (tokens : List WritableToken) :
    tilesText (tiles gaps tokens) [] = row gaps tokens := by
  induction tokens generalizing gaps with
  | nil => rfl
  | cons token tokens ih => rw [tiles, tilesText, ih, row]

theorem tiled_tiles {gaps : Nat → List Char} (starts : Gap (gaps 0))
    (apart : ∀ number, Filler (gaps (number + 1))) (tokens : List WritableToken) :
    Tiled (tiles gaps tokens) [] := by
  induction tokens generalizing gaps with
  | nil => exact .last (.inl .empty)
  | cons token tokens ih =>
    have later := @ih (fun number => gaps (number + 1)) (apart 0).1 fun number => apart (number + 1)
    refine .tile starts ?_ later
    rw [tilesText_tiles]
    exact token.spelled (row_blankAhead (apart 0) tokens)

theorem tokensAt_tiles (gaps : Nat → List Char) (tokens : List WritableToken) (place : Position) :
    (tokensAt place (tiles gaps tokens) []).map (fun token => (token.kind, token.value)) =
      tokens.map (fun token => (token.kind, token.value)) ++ [(.eof, "")] := by
  induction tokens generalizing gaps place with
  | nil => rfl
  | cons token tokens ih => simp only [tiles, tokensAt, List.map_cons, ih, List.cons_append]

end WritableToken

/-- Tokens written in a row, with a blank at the start of every gap between two of them and each
comment there closed, are read with their kinds and values, and then the source ends. -/
theorem tokenize_written (tokens : List WritableToken) {gaps : Nat → List Char}
    (starts : Gap (gaps 0)) (apart : ∀ number, Filler (gaps (number + 1))) :
    (tokenize (String.ofList (WritableToken.row gaps tokens))).map
        (fun token => (token.kind, token.value)) =
      tokens.map (fun token => (token.kind, token.value)) ++ [(.eof, "")] := by
  have whole : (String.ofList (WritableToken.row gaps tokens)).toList =
      tilesText (WritableToken.tiles gaps tokens) [] := by
    rw [String.toList_ofList, WritableToken.tilesText_tiles]
  rw [tokenize, Cursor.ofSource, whole, tokens_tiled (WritableToken.tiled_tiles starts apart tokens)]
  exact WritableToken.tokensAt_tiles gaps tokens .start

/-- Two texts with marks and line breaks in them, of which one looks like a comment, a number before
a dot, and a word that is no keyword. -/
def noteTokens : List WritableToken :=
  [.keyword .app,
    .identifier "apps".toList (by decide) (by intro word; cases word <;> decide),
    .number "-1.5".toList ⟨['-'], ['1'], ['.', '5'], rfl, .inr rfl,
      ⟨by decide, List.forall_mem_singleton.mpr (by decide)⟩,
      .inr ⟨['5'], rfl, by decide, List.forall_mem_singleton.mpr (by decide)⟩⟩,
    .symbol .dot,
    .text '"' (.inl rfl) 'n' (.inl rfl) "say \"hi\"\n/*\\".toList,
    .text '\'' (.inr rfl) '\n' (.inr rfl) "it's\n".toList]

/-- Between the tokens a blank, a comment that looks like a token, and a line break. -/
def noteGaps : Nat → List Char
  | 0 => []
  | 2 => " // it's\n".toList
  | 3 => "\n/* \"*/".toList
  | _ => [' ']

theorem noteGaps_filler (number : Nat) : Filler (noteGaps (number + 1)) := by
  unfold noteGaps
  split
  · contradiction
  · have comment := @Gap.lineComment " it's".toList [] (by decide) .empty
    exact ⟨.blank (by decide) comment, ' ', _, rfl, by decide⟩
  · have comment := @Gap.blockComment " \"".toList [] (by decide) .empty
    exact ⟨.blank (by decide) comment, '\n', _, rfl, by decide⟩
  · exact ⟨.blank (by decide) .empty, ' ', [], rfl, by decide⟩

theorem tokenize_written_note :
    (tokenize "app apps // it's\n-1.5\n/* \"*/. \"say \\\"hi\\\"\\n/*\\\\\" 'it\\'s\\\n'").map
        (fun token => (token.kind, token.value)) =
      [(.keyword .app, "app"), (.identifier, "apps"), (.number, "-1.5"), (.symbol .dot, "."),
        (.string, "say \"hi\"\n/*\\"), (.string, "it's\n"), (.eof, "")] := by
  have source : String.ofList (WritableToken.row noteGaps noteTokens) =
      "app apps // it's\n-1.5\n/* \"*/. \"say \\\"hi\\\"\\n/*\\\\\" 'it\\'s\\\n'" := by
    decide
  have read := tokenize_written noteTokens .empty noteGaps_filler
  rw [source] at read
  exact read

end Blueprint
