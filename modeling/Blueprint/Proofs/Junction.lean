import Blueprint.Document.Parse
import Blueprint.Proofs.Places
import Blueprint.Proofs.Tiling

/-!
Two sources, one after the other on a line of its own. Where the first has known tokens only and does
not end in a comment that waits for its closing mark, the tokens of the whole are those of the first
and then, further down, those of the second.
-/
set_option autoImplicit false

namespace Blueprint

open Text

/-! ## Blanks end numbers and words -/

theorem prefix_of_not_mem {other text rest : List Char} {c : Char}
    (start : other <+: text ++ c :: rest) (free : c ∉ other) : other <+: text := by
  rcases List.prefix_or_prefix_of_prefix start (List.prefix_append text _) with
    inside | ⟨more, rfl⟩
  · exact inside
  · cases more with
    | nil => simp
    | cons d more =>
      obtain ⟨rfl, _⟩ := List.cons_prefix_cons.mp ((List.prefix_append_right_inj text).mp start)
      exact absurd (List.mem_append_right text List.mem_cons_self) free

/-- Whether no text of a class has a blank in it. -/
def Unbroken (member : List Char → Prop) : Prop :=
  ∀ {text : List Char} {c : Char}, member text → isBlank c = true → c ∉ text

/-- What a number is spelled with. -/
theorem char_of_isNumber {text : List Char} {c : Char} (number : IsNumber text) (inside : c ∈ text) :
    isDigit c = true ∨ c = '-' ∨ c = '.' := by
  obtain ⟨sign, whole, fraction, rfl, signs, wholes, fractions⟩ := number
  rcases List.mem_append.mp inside with inside | inside
  · rcases List.mem_append.mp inside with inside | inside
    · rcases signs with rfl | rfl
      · contradiction
      · exact .inr (.inl (List.mem_singleton.mp inside))
    · exact .inl (wholes.2 c inside)
  · rcases fractions with rfl | ⟨digits, rfl, digits'⟩
    · contradiction
    · rcases List.mem_cons.mp inside with rfl | inside
      · exact .inr (.inr rfl)
      · exact .inl (digits'.2 c inside)

theorem unbroken_isNumber : Unbroken IsNumber := by
  intro text c number blank inside
  rcases char_of_isNumber number inside with digit | rfl | rfl
  · rw [not_isBlank_of_isDigit digit] at blank
    contradiction
  · exact absurd blank (by decide)
  · exact absurd blank (by decide)

theorem unbroken_isWord : Unbroken IsWord := by
  rintro text c ⟨start, rest, rfl, starts, goesOn⟩ blank inside
  rcases List.mem_cons.mp inside with rfl | inside
  · rw [not_isBlank_of_isWordStart starts] at blank
    contradiction
  · rw [not_isBlank_of_isWordChar (goesOn c inside)] at blank
    contradiction

theorem Unbroken.longest {member : List Char → Prop} (unbroken : Unbroken member)
    {text : List Char} (isMember : member text) {c : Char} (blank : isBlank c = true)
    (rest : List Char) : Longest member text (c :: rest) := by
  refine ⟨isMember, fun other start isMember' => ?_⟩
  exact (prefix_of_not_mem start (unbroken isMember' blank)).length_le

/-- A text is another one, or breaks off with a blank before that one ends. -/
def BreaksOff (text text' : List Char) : Prop :=
  text' = text ∨ ∃ front c more, front <+: text ∧ isBlank c = true ∧ text' = front ++ c :: more

theorem BreaksOff.append {text text' : List Char} (breaks : BreaksOff text text')
    (front : List Char) : BreaksOff (front ++ text) (front ++ text') := by
  rcases breaks with rfl | ⟨begun, c, more, starts, blank, rfl⟩
  · exact .inl rfl
  · exact .inr ⟨front ++ begun, c, more, (List.prefix_append_right_inj front).mpr starts, blank,
      (List.append_assoc ..).symm⟩

theorem Unbroken.cut {member : List Char → Prop} (unbroken : Unbroken member)
    {text rest rest' : List Char} (longest : Longest member text rest)
    (breaks : BreaksOff rest rest') : Longest member text rest' := by
  rcases breaks with rfl | ⟨front, c, more, starts, blank, rfl⟩
  · exact longest
  · refine ⟨longest.1, fun other begins isMember => ?_⟩
    rw [← List.append_assoc] at begins
    have within := prefix_of_not_mem begins (unbroken isMember blank)
    exact longest.2 other (within.trans ((List.prefix_append_right_inj text).mpr starts)) isMember

/-- A known token is spelled the same if what follows breaks off. -/
theorem Spelled.cut {rest rest' spelling : List Char} {kind : TokenKind} {value : String}
    (spelled : Spelled rest kind value spelling) (known : kind ≠ .unknown)
    (breaks : BreaksOff rest rest') : Spelled rest' kind value spelling := by
  cases spelled with
  | symbol mark => exact .symbol mark
  | string quote escaped => exact .string quote escaped
  | number longest => exact .number (unbroken_isNumber.cut longest breaks)
  | keyword word longest => exact .keyword word (unbroken_isWord.cut longest breaks)
  | identifier longest free => exact .identifier (unbroken_isWord.cut longest breaks) free
  | openQuote => contradiction
  | unknown => contradiction

/-! ## The tokens of a row of tiles -/

/-- The tokens of tiles in a row, each placed where its spelling starts. -/
def placed (place : Position) : List Tile → List Token
  | [] => []
  | tile :: tiles =>
    let start := place.after tile.gap
    ⟨tile.kind, tile.value, start⟩ :: placed (start.after tile.spelling) tiles

def placeAfter (place : Position) : List Tile → Position
  | [] => place
  | tile :: tiles => placeAfter ((place.after tile.gap).after tile.spelling) tiles

theorem placed_append (place : Position) (tiles more : List Tile) :
    placed place (tiles ++ more) = placed place tiles ++ placed (placeAfter place tiles) more := by
  induction tiles generalizing place with
  | nil => rfl
  | cons tile tiles ih => simp only [List.cons_append, placed, placeAfter, ih]

theorem placed_eq_nil {place : Position} {tiles : List Tile} (none : placed place tiles = []) :
    tiles = [] := by
  cases tiles with
  | nil => rfl
  | cons => contradiction

theorem placed_eq_cons {place : Position} {tiles : List Tile} {token : Token} {row : List Token}
    (whole : placed place tiles = token :: row) : ∃ tile others, tiles = tile :: others ∧
      token = ⟨tile.kind, tile.value, place.after tile.gap⟩ ∧
      placed ((place.after tile.gap).after tile.spelling) others = row := by
  cases tiles with
  | nil => contradiction
  | cons tile others =>
    obtain ⟨rfl, later⟩ := List.cons.inj whole
    exact ⟨tile, others, rfl, rfl, later⟩

/-- The tokens of tiles split where the tiles do. -/
theorem placed_eq_append {place : Position} {tiles : List Tile} {row rest : List Token}
    (whole : placed place tiles = row ++ rest) : ∃ front back, tiles = front ++ back ∧
      placed place front = row ∧ placed (placeAfter place front) back = rest := by
  induction row generalizing place tiles with
  | nil => exact ⟨[], tiles, rfl, rfl, whole⟩
  | cons token row ih =>
    obtain ⟨tile, others, rfl, rfl, later⟩ := placed_eq_cons whole
    obtain ⟨front, back, rfl, first, second⟩ := ih later
    exact ⟨tile :: front, back, rfl, by rw [placed, first], second⟩

theorem kind_of_mem_placed {place : Position} {tiles : List Tile} {token : Token}
    (member : token ∈ placed place tiles) : ∃ tile ∈ tiles, token.kind = tile.kind := by
  induction tiles generalizing place with
  | nil => contradiction
  | cons tile tiles ih =>
    rcases List.mem_cons.mp member with rfl | later
    · exact ⟨tile, List.mem_cons_self, rfl⟩
    · obtain ⟨other, inside, same⟩ := ih later
      exact ⟨other, List.mem_cons_of_mem tile inside, same⟩

theorem placed_length (place : Position) (tiles : List Tile) :
    (placed place tiles).length = tiles.length := by
  induction tiles generalizing place with
  | nil => rfl
  | cons tile tiles ih => rw [placed, List.length_cons, List.length_cons, ih]

/-- The tokens of a row of tiles are those that stand in it, and the end behind them. -/
theorem tokensAt_placed (place : Position) (tiles : List Tile) (last : List Char) :
    tokensAt place tiles last =
      placed place tiles ++ [⟨.eof, "", (placeAfter place tiles).after last⟩] := by
  induction tiles generalizing place with
  | nil => rfl
  | cons tile tiles ih => simp only [tokensAt, placed, placeAfter, ih, List.cons_append]

theorem ne_eof_of_spelled {rest spelling : List Char} {kind : TokenKind} {value : String}
    (spelled : Spelled rest kind value spelling) : kind ≠ .eof := by
  cases spelled <;> simp

theorem splitEnd_tokensAt {tiles : List Tile} {last : List Char} (tiled : Tiled tiles last)
    (place : Position) : (Document.splitEnd (tokensAt place tiles last)).1 = placed place tiles := by
  induction tiled generalizing place with
  | last isLast => rfl
  | tile isGap spelled _ ih =>
    have notEnd := ne_eof_of_spelled spelled
    simp only [tokensAt, placed, Document.splitEnd, beq_iff_eq, notEnd, if_false, ih]

/-- The tokens of a source before its end. -/
def tokensOf (source : String) : List Token :=
  (Document.splitEnd (tokenize source)).1

/-- A source is read from its tokens. -/
theorem parse_eq (source : String) :
    ∃ stop, Document.parse source = Document.parseTokens (tokensOf source) stop :=
  ⟨_, rfl⟩

theorem tokensOf_tiled {source : String} {tiles : List Tile} {last : List Char}
    (whole : source.toList = tilesText tiles last) (tiled : Tiled tiles last) :
    tokensOf source = placed .start tiles := by
  rw [tokensOf, tokenize, Cursor.ofSource, whole, tokens_tiled tiled, splitEnd_tokensAt tiled]

theorem placed_same (place place' : Position) (tiles : List Tile) :
    SameTokens (placed place tiles) (placed place' tiles) := by
  induction tiles generalizing place place' with
  | nil => exact .nil
  | cons tile tiles ih => exact .cons ⟨rfl, rfl⟩ (ih _ _)

theorem tile_known {place : Position} {tiles : List Tile}
    (known : ∀ token ∈ placed place tiles, token.kind ≠ .unknown) :
    ∀ tile ∈ tiles, tile.kind ≠ .unknown := by
  induction tiles generalizing place with
  | nil => intro tile member; contradiction
  | cons first tiles ih =>
    intro tile member
    rcases List.mem_cons.mp member with rfl | member
    · exact known _ List.mem_cons_self
    · exact ih (fun token later => known token (List.mem_cons_of_mem _ later)) tile member

/-! ## The junction -/

/-- A source that ends inside a comment whose closing mark is missing. -/
def EndsInComment (source : String) : Prop :=
  ∃ tiles last, source.toList = tilesText tiles last ∧ Tiled tiles last ∧ OpenBlock last

theorem mem_tilesText {c : Char} {last : List Char} (inside : c ∈ last) (tiles : List Tile) :
    c ∈ tilesText tiles last := by
  induction tiles with
  | nil => exact inside
  | cons tile tiles ih => simp [tilesText, ih]

theorem not_endsInComment {source : String} (free : '/' ∉ source.toList) :
    ¬ EndsInComment source := by
  rintro ⟨tiles, last, whole, _, before, text, _, _, rfl⟩
  rw [whole] at free
  exact free (mem_tilesText (by simp) tiles)

/-- A comment of one line ends where the line does. -/
theorem gap_of_lastGap {last : List Char} (isLast : LastGap last) (closed : ¬ OpenBlock last) :
    Gap (last ++ ['\n']) := by
  have lineBreak : Gap ['\n'] := .blank (by decide) .empty
  rcases isLast with isGap | openLine | openBlock
  · exact isGap.append lineBreak
  · obtain ⟨before, text, isGap, oneLine, rfl⟩ := openLine
    rw [List.append_assoc]
    exact isGap.append (.lineComment oneLine .empty)
  · contradiction

/-- Tiles with a gap put in front of the first one, or of the last gap. -/
def withGap (gap : List Char) : List Tile → List Char → List Tile × List Char
  | [], last => ([], gap ++ last)
  | tile :: tiles, last => ({ tile with gap := gap ++ tile.gap } :: tiles, last)

theorem withGap_text (gap : List Char) (tiles : List Tile) (last : List Char) :
    tilesText (withGap gap tiles last).1 (withGap gap tiles last).2 =
      gap ++ tilesText tiles last := by
  cases tiles <;> simp [withGap, tilesText]

theorem withGap_tiled {gap : List Char} (isGap : Gap gap) {tiles : List Tile} {last : List Char}
    (tiled : Tiled tiles last) : Tiled (withGap gap tiles last).1 (withGap gap tiles last).2 := by
  cases tiled with
  | last isLast => exact .last (isGap.lastGap isLast)
  | tile isGap' spelled tail => exact .tile (isGap.append isGap') spelled tail

theorem withGap_placed (gap : List Char) (tiles : List Tile) (last : List Char)
    (place place' : Position) :
    SameTokens (placed place tiles) (placed place' (withGap gap tiles last).1) := by
  cases tiles with
  | nil => exact .nil
  | cons tile tiles => exact .cons ⟨rfl, rfl⟩ (placed_same _ _ tiles)

theorem tilesText_append (tiles more : List Tile) (last : List Char) :
    tilesText (tiles ++ more) last = tilesText tiles [] ++ tilesText more last := by
  induction tiles with
  | nil => rfl
  | cons tile tiles ih => simp [tilesText, ih]

theorem tilesText_last (tiles : List Tile) (last : List Char) :
    tilesText tiles last = tilesText tiles [] ++ last := by
  induction tiles with
  | nil => rfl
  | cons tile tiles ih => rw [tilesText, tilesText, ih]; simp

theorem Tiled.lastGap {tiles : List Tile} {last : List Char} (tiled : Tiled tiles last) :
    LastGap last := by
  induction tiled with
  | last isLast => exact isLast
  | tile _ _ _ ih => exact ih

/-- Known tokens stay what they are where a blank follows the last gap. -/
theorem Tiled.append {tiles more : List Tile} {last last' tail : List Char} {c : Char}
    (tiled : Tiled tiles last) (known : ∀ tile ∈ tiles, tile.kind ≠ .unknown)
    (tiled' : Tiled more last') (blank : isBlank c = true)
    (joined : tilesText more last' = last ++ c :: tail) : Tiled (tiles ++ more) last' := by
  induction tiled with
  | last isLast => exact tiled'
  | @tile tile tiles last isGap spelled _ ih =>
    have knownFirst := known tile List.mem_cons_self
    refine .tile isGap ?_ (ih (fun other later => known other (List.mem_cons_of_mem _ later)) joined)
    have rest : tilesText (tiles ++ more) last' = tilesText tiles last ++ c :: tail := by
      rw [tilesText_append, joined, tilesText_last tiles last, List.append_assoc]
    change Spelled (tilesText (tiles ++ more) last') _ _ _
    rw [rest]
    exact spelled.cut knownFirst (.inr ⟨_, c, tail, List.prefix_rfl, blank, rfl⟩)

/-- The tokens of two sources on separate lines. -/
theorem tokensOf_lines {first : String} (known : ∀ token ∈ tokensOf first, token.kind ≠ .unknown)
    (closed : ¬ EndsInComment first) (second : String) :
    ∃ tokens, SameTokens (tokensOf second) tokens ∧
      tokensOf (first ++ "\n" ++ second) = tokensOf first ++ tokens := by
  obtain ⟨tiles, last, whole, tiled⟩ := exists_tiled first.toList
  obtain ⟨tiles', last', whole', tiled'⟩ := exists_tiled second.toList
  rw [tokensOf_tiled whole tiled] at known ⊢
  rw [tokensOf_tiled whole' tiled']
  have isGap : Gap (last ++ ['\n']) :=
    gap_of_lastGap tiled.lastGap fun openBlock => closed ⟨tiles, last, whole, tiled, openBlock⟩
  have text := withGap_text (last ++ ['\n']) tiles' last'
  have more := withGap_tiled isGap tiled'
  have same := withGap_placed (last ++ ['\n']) tiles' last' .start (placeAfter .start tiles)
  generalize withGap (last ++ ['\n']) tiles' last' = moved at text more same
  rw [List.append_assoc] at text
  have joined := tiled.append (tile_known known) more (by decide) text
  refine ⟨placed (placeAfter .start tiles) moved.1, same, ?_⟩
  rw [tokensOf_tiled ?_ joined, placed_append]
  rw [tilesText_append, text]
  simp [whole, whole', tilesText_last tiles last]

end Blueprint
