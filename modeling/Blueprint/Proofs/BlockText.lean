import Blueprint.Proofs.NamedBlocks
import Blueprint.Proofs.Openings

/-!
What the extraction takes for a block, and the tokens that stand there. Where a block begins at a
token, that token is the keyword, and the name and the brace are the tokens behind it, unless
numbers run into the name. A statement whose head is written with blanks only is such a block.
-/
set_option autoImplicit false

namespace Blueprint

open Text Extraction

/-! ## Blocks in a text -/

/-- A text that begins with a block: a keyword, blanks, a name of word characters, a brace, and all
up to the first closing brace. -/
inductive StartsBlock (keyword : String) (name : String) (rest : List Char) : List Char → Prop where
  | block {gap run gap' body : List Char} (blank : Blank gap) (apart : gap ≠ [])
    (letters : ∀ c ∈ run, isWordChar c = true) (some : run ≠ []) (named : name = String.ofList run)
    (blank' : Blank gap') (closed : '\x7d' ∉ body) :
    StartsBlock keyword name rest
      (keyword.toList ++ (gap ++ (run ++ (gap' ++ '\x7b' :: (body ++ '\x7d' :: rest)))))

theorem LaidBlock.starts {keyword : String} {block : NamedBlock} (laid : LaidBlock keyword block)
    (rest : List Char) : StartsBlock keyword block.name rest (block.whole ++ rest) := by
  obtain @⟨gap, run, gap', body, blank, apart, letters, some, blank', closed⟩ := laid
  have whole : keyword.toList ++ (gap ++ (run ++ (gap' ++ '\x7b' :: (body ++ ['\x7d'])))) ++ rest =
      keyword.toList ++ (gap ++ (run ++ (gap' ++ '\x7b' :: (body ++ '\x7d' :: rest)))) := by simp
  rw [whole]
  exact .block blank apart letters some rfl blank' closed

/-- What is read as a block is one, outside of any word. -/
theorem namedBlock_eq_some {keyword : String} {insideWord : Bool} {text rest : List Char}
    {block : NamedBlock} (found : namedBlock keyword insideWord text = some (block, rest)) :
    insideWord = false ∧ StartsBlock keyword block.name rest text := by
  obtain ⟨outside, laid, rfl⟩ := namedBlock_eq_some_iff.mp found
  exact ⟨outside, laid.starts rest⟩

/-! ## The tokens of a text -/

section Tiles

variable {tiles : List Tile} {last gap text rest : List Char} {c : Char}

/-- The first token of a text stands behind the gap that the text begins with. -/
theorem Tiled.first (tiled : Tiled tiles last) (isGap : Gap gap) (noGap : NoGap (c :: text))
    (whole : tilesText tiles last = gap ++ c :: text) :
    ∃ tile others, tiles = tile :: others ∧ tile.gap = gap ∧
      tile.spelling ++ tilesText others last = c :: text ∧
      Spelled (tilesText others last) tile.kind tile.value tile.spelling ∧ Tiled others last := by
  have split := splitGap_gap isGap (c :: text)
  rw [splitGap_noGap noGap, ← whole] at split
  cases tiled with
  | last isLast =>
    rw [tilesText, splitGap_lastGap isLast] at split
    simp [afterGap] at split
  | @tile tile others last isGap' spelled tail =>
    obtain ⟨d, more, spelling, noGap', _⟩ := read_spelled spelled
    rw [tilesText, splitGap_gap isGap', spelling, List.cons_append, splitGap_noGap noGap'] at split
    simp only [afterGap, List.append_nil, Prod.mk.injEq] at split
    refine ⟨tile, others, rfl, split.1, ?_, spelled, tail⟩
    rw [spelling, List.cons_append, split.2]

theorem noGap_of_isWordChar (member : isWordChar c = true) (rest : List Char) : NoGap (c :: rest) := by
  refine noGap_of_ne_slash (not_isBlank_of_isWordChar member) ?_ rest
  rintro rfl
  exact absurd member (by decide)

/-- A character at which a run of word characters ends, and a number in it. -/
def EndsRun (c : Char) : Prop := isBlank c = true ∨ c = '\x7b'

theorem EndsRun.not_isWordChar (ends : EndsRun c) : isWordChar c = false := by
  rcases ends with blank | rfl
  · exact not_isWordChar_of_isBlank blank
  · decide

theorem EndsRun.not_mem_number (ends : EndsRun c) (number : IsNumber text) : c ∉ text := by
  intro inside
  rcases ends with blank | rfl
  · exact unbroken_isNumber number blank inside
  · rcases char_of_isNumber number inside with digit | same | same
    · exact absurd digit (by decide)
    · exact absurd same (by decide)
    · exact absurd same (by decide)

/-- The first token of a run of word characters: a word, which is all of it, or a number or an
unknown character at its start. -/
theorem first_of_run {run more : List Char} {kind : TokenKind} {value : String}
    {spelling after : List Char} {d : Char} (spelled : Spelled after kind value spelling)
    (letters : ∀ c ∈ run, isWordChar c = true) (some : run ≠ []) (ends : EndsRun d)
    (whole : spelling ++ after = run ++ d :: more) :
    (kind.isWordy = true ∧ spelling = run) ∨
      ((kind = .number ∨ kind = .unknown) ∧ spelling <+: run) := by
  obtain ⟨c, letters', rfl⟩ := List.exists_cons_of_ne_nil some
  have letter := letters c List.mem_cons_self
  have wordEnds : WordEnds (d :: more) := wordEnds_cons ends.not_isWordChar more
  have notQuote {mark : Char} (quote : IsQuote mark) (front : List Char)
      (same : mark :: front = c :: (letters' ++ d :: more)) : False := by
    obtain ⟨rfl, _⟩ := List.cons.inj same
    rcases quote with rfl | rfl <;> exact absurd letter (by decide)
  have isRun (isWord : IsWord spelling) (longest : Longest IsWord spelling after) :
      spelling = c :: letters' := by
    obtain ⟨c', front, rfl, start, _⟩ := isWord
    obtain ⟨rfl, _⟩ := List.cons.inj whole
    have isWord' : IsWord (c' :: letters') :=
      ⟨c', letters', rfl, start, fun e member => letters e (List.mem_cons_of_mem _ member)⟩
    exact (longest.unique (longest_of_wordEnds isWord' wordEnds) whole).1
  cases spelled with
  | symbol mark =>
    obtain ⟨rfl, _⟩ := List.cons.inj whole
    rw [isWordChar_symbol] at letter
    contradiction
  | string quote =>
    exact (notQuote quote _ whole).elim
  | openQuote quote =>
    exact (notQuote quote _ whole).elim
  | keyword word longest => exact .inl ⟨rfl, isRun longest.1 longest⟩
  | identifier longest => exact .inl ⟨rfl, isRun longest.1 longest⟩
  | number longest =>
    have starts : spelling <+: c :: letters' ++ d :: more := ⟨after, whole⟩
    exact .inr ⟨.inl rfl, prefix_of_not_mem starts (ends.not_mem_number longest.1)⟩
  | unknown =>
    obtain ⟨rfl, _⟩ := List.cons.inj whole
    exact .inr ⟨.inr rfl, letters', rfl⟩

/-- The tokens of a run of word characters: numbers and unknown characters, and then the last one.
-/
theorem tiles_of_run {run more : List Char} {d : Char} (tiled : Tiled tiles last) (isGap : Gap gap)
    (letters : ∀ c ∈ run, isWordChar c = true) (some : run ≠ []) (ends : EndsRun d)
    (whole : tilesText tiles last = gap ++ (run ++ d :: more)) :
    ∃ front tile others, tiles = front ++ tile :: others ∧ tilesText others last = d :: more ∧
      Tiled others last ∧ (∀ other ∈ front, other.kind = .number ∨ other.kind = .unknown) ∧
      (tile.kind.isWordy = true ∨ tile.kind = .unknown) ∧
      (front = [] → tile.gap = gap ∧ tile.spelling = run) := by
  -- Every token of the run takes at least one of its characters.
  induction length : run.length using Nat.strongRecOn generalizing run tiles gap with
  | ind size ih =>
    subst length
    obtain ⟨c, letters', rfl⟩ := List.exists_cons_of_ne_nil some
    have noGap := noGap_of_isWordChar (letters c List.mem_cons_self) (letters' ++ d :: more)
    obtain ⟨tile, others, rfl, sameGap, spelling, spelled, tail⟩ := tiled.first isGap noGap whole
    rcases first_of_run spelled letters some ends spelling with
      ⟨isWordy, isRun⟩ | ⟨isNumber, rest, isRun⟩
    · refine ⟨[], tile, others, rfl, ?_, tail, by simp, .inl isWordy,
        fun _ => ⟨sameGap, isRun⟩⟩
      exact List.append_cancel_left (isRun ▸ spelling)
    · have behind : tilesText others last = rest ++ d :: more := by
        refine @List.append_cancel_left _ tile.spelling _ _ ?_
        rw [spelling, ← List.append_assoc, isRun]
        rfl
      cases rest with
      | nil =>
        refine ⟨[], tile, others, rfl, behind, tail, by simp, ?_, fun _ => ⟨sameGap, ?_⟩⟩
        · rcases isNumber with isNumber | isUnknown
          · exact .inl (isNumber ▸ rfl)
          · exact .inr isUnknown
        · rw [← isRun, List.append_nil]
      | cons e rest =>
        have shorter : (e :: rest).length < (c :: letters').length := by
          have notNil := List.length_pos_iff.mpr (spelling_ne_nil spelled)
          rw [← isRun, List.length_append]
          omega
        obtain ⟨front, final, others', rfl, text, tail', numbers, wordy, _⟩ :=
          ih _ shorter tail .empty
            (fun f member => letters f (isRun ▸ List.mem_append_right _ member))
            (List.cons_ne_nil e rest) behind rfl
        refine ⟨tile :: front, final, others', rfl, text, tail', ?_, wordy, nofun⟩
        exact List.forall_mem_cons.mpr ⟨isNumber, numbers⟩

theorem Spelled.eq_char {after spelling : List Char} {value : String} {mark : Symbol}
    (spelled : Spelled after (.symbol mark) value spelling) : spelling = [mark.char] := by
  cases spelled
  rfl

theorem Spelled.word {after spelling : List Char} {kind : TokenKind} {value : String}
    (spelled : Spelled after kind value spelling) (isName : kind.isName = true) :
    spelling = value.toList ∧ IsWord spelling ∧ WordEnds after := by
  cases spelled with
  | keyword _ longest => exact ⟨rfl, longest.1, longest.wordEnds⟩
  | identifier longest => exact ⟨by rw [String.toList_ofList], longest.1, longest.wordEnds⟩
  | symbol | string | number | openQuote | unknown => contradiction

theorem Spelled.keyword_wordEnds {after spelling : List Char} {keyword : Keyword} {value : String}
    (spelled : Spelled after (.keyword keyword) value spelling) :
    spelling = keyword.spelling.toList ∧ WordEnds after := by
  cases spelled with | keyword _ longest => exact ⟨rfl, longest.wordEnds⟩

theorem Spelled.keyword_value {after spelling : List Char} {keyword : Keyword} {value : String}
    (spelled : Spelled after (.keyword keyword) value spelling) : value = keyword.spelling := by
  cases spelled
  rfl

/-- A row of tokens that begins with a word begins with its token. -/
theorem Spelled.eq_keyword {keyword : Keyword} {kind : TokenKind} {value : String}
    {spelling after more : List Char} (spelled : Spelled after kind value spelling)
    (ends : WordEnds more) (whole : spelling ++ after = keyword.spelling.toList ++ more) :
    kind = .keyword keyword ∧ after = more := by
  have isWord : Spelled more (.keyword keyword) keyword.spelling keyword.spelling.toList :=
    .keyword keyword (longest_of_wordEnds (isWord_keyword keyword) ends)
  obtain ⟨same, rests⟩ := @first_tile_unique ⟨[], kind, value, spelling⟩
    ⟨[], .keyword keyword, keyword.spelling, keyword.spelling.toList⟩ after more .empty .empty
    spelled isWord whole
  exact ⟨congrArg Tile.kind same, rests⟩

theorem noGap_of_symbol (mark : Symbol) (rest : List Char) : NoGap (mark.char :: rest) := by
  obtain ⟨c, more, spelling, noGap, _⟩ := readsAs_symbol mark rest
  obtain ⟨rfl, rfl⟩ := List.cons.inj spelling
  exact noGap

/-- A row of tokens that begins with a mark begins with its token. -/
theorem Spelled.eq_symbol {mark : Symbol} {kind : TokenKind} {value : String}
    {spelling after more : List Char} (spelled : Spelled after kind value spelling)
    (whole : spelling ++ after = mark.char :: more) : kind = .symbol mark ∧ after = more := by
  obtain ⟨same, rests⟩ := @first_tile_unique ⟨[], kind, value, spelling⟩
    ⟨[], .symbol mark, String.ofList [mark.char], [mark.char]⟩ after more .empty .empty
    spelled (.symbol mark) whole
  exact ⟨congrArg Tile.kind same, rests⟩

/-- Where a block begins with a token, the token is the keyword; the name is the token before the
brace, unless numbers or unknown characters run into it. -/
theorem tiles_of_block {keyword : Keyword} {name : String} {tile : Tile}
    (tiled : Tiled (tile :: tiles) last)
    (block : StartsBlock keyword.spelling name rest (tile.spelling ++ tilesText tiles last)) :
    tile.kind = .keyword keyword ∧ ∃ front final brace others body,
      tiles = front ++ final :: brace :: others ∧ brace.kind = .symbol .leftBrace ∧
      tilesText others last = body ++ '\x7d' :: rest ∧ '\x7d' ∉ body ∧
      (∀ other ∈ front, other.kind = .number ∨ other.kind = .unknown) ∧
      (final.kind.isWordy = true ∨ final.kind = .unknown) ∧
      (front = [] → final.spelling = name.toList) := by
  generalize whole : tile.spelling ++ tilesText tiles last = text at block
  obtain @⟨gap, run, gap', body, blank, apart, letters, some, rfl, blank', closed⟩ := block
  cases tiled with
  | tile _ spelled tail =>
    obtain ⟨c, gap, rfl⟩ := List.exists_cons_of_ne_nil apart
    obtain ⟨isKeyword, behind⟩ :=
      spelled.eq_keyword (.ofBlank (blank c List.mem_cons_self) _) whole
    refine ⟨isKeyword, ?_⟩
    -- The run ends at a blank before the brace or at the brace.
    obtain ⟨d, more, ends, atBrace⟩ : ∃ d more, EndsRun d ∧
        gap' ++ '\x7b' :: (body ++ '\x7d' :: rest) = d :: more := by
      cases gap' with
      | nil => exact ⟨_, _, .inr rfl, rfl⟩
      | cons d gap' => exact ⟨_, _, .inl (blank' d List.mem_cons_self), rfl⟩
    rw [atBrace] at behind
    obtain ⟨front, final, others, rfl, text, tail', numbers, wordy, alone⟩ :=
      tiles_of_run tail (gap_of_blank blank) letters some ends behind
    rw [← atBrace] at text
    obtain ⟨brace, others', rfl, _, spelling, spelled', _⟩ :=
      tail'.first (gap_of_blank blank') (noGap_of_symbol .leftBrace _) text
    obtain ⟨isBrace, inner⟩ := spelled'.eq_symbol spelling
    exact ⟨front, final, brace, others', body, rfl, isBrace, inner, closed, numbers, wordy,
      fun none => by rw [(alone none).2, String.toList_ofList]⟩

end Tiles

end Blueprint
