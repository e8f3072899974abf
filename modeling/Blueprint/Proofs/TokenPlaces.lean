import Blueprint.Proofs.PlaceOrder

/-!
Where the tokens of a source stand. The scanner moves its place on character by character, over gaps
and spellings alike; `places_exact` says that every token has the place that counting the line breaks
before it gives, and that no two tokens have the same.
-/
set_option autoImplicit false

namespace Blueprint

/-- The place behind a text at the start of a source: on the line after all its line breaks, in the
column after all characters behind the last one. -/
def placeBehind (text : List Char) : Position :=
  ⟨1 + text.count '\n', 1 + (text.rtakeWhile fun c => c != '\n').length⟩

theorem placeBehind_concat (text : List Char) (c : Char) :
    placeBehind (text ++ [c]) = (placeBehind text).next c := by
  unfold placeBehind Position.next
  rw [List.rtakeWhile_concat, List.count_append, List.count_singleton]
  by_cases isBreak : c = '\n'
  · simp [isBreak, Nat.add_assoc]
  · simp [isBreak, Nat.add_assoc]

/-- Moving on character by character comes to the place that counting gives. -/
theorem after_eq_placeBehind (text : List Char) : Position.start.after text = placeBehind text := by
  induction text using List.reverseRecOn with
  | nil => rfl
  | append_singleton text c ih =>
    rw [Position.after_append, ih, placeBehind_concat]
    rfl

theorem Position.lt_iff {first second : Position} : first < second ↔
    first.line < second.line ∨ first.line = second.line ∧ first.column < second.column :=
  Prod.Lex.toLex_lt_toLex

theorem Position.lt_after (place : Position) {text : List Char} (some : text ≠ []) :
    place < place.after text := by
  have moves := place.after_moves text
  have long := List.length_pos_of_ne_nil some
  rw [Position.lt_iff]
  omega

/-- Every token takes a character at least, so that the next one stands behind it. -/
theorem tokensAt_ascending {tiles : List Tile} {last : List Char} (tiled : Tiled tiles last)
    (place : Position) :
    ((tokensAt place tiles last).Pairwise fun earlier later => earlier.place < later.place) ∧
      ∀ token ∈ tokensAt place tiles last, place ≤ token.place := by
  induction tiled generalizing place with
  | @last gap =>
    refine ⟨List.pairwise_singleton _ _, fun token member => ?_⟩
    rw [List.mem_singleton.mp member]
    exact place.le_after gap
  | @tile tile tiles last isGap spelled tail ih =>
    obtain ⟨ascending, behind⟩ := ih ((place.after tile.gap).after tile.spelling)
    have start : place ≤ place.after tile.gap := place.le_after tile.gap
    have taken := (place.after tile.gap).lt_after (spelling_ne_nil spelled)
    have later : ∀ token ∈ tokensAt ((place.after tile.gap).after tile.spelling) tiles last,
        place.after tile.gap < token.place :=
      fun token member => taken.trans_le (behind token member)
    refine ⟨List.pairwise_cons.mpr ⟨later, ascending⟩, fun token member => ?_⟩
    rcases List.mem_cons.mp member with rfl | member
    · exact start
    · exact start.trans (later token member).le

/-- The token of a tile has the place behind all text before its spelling. -/
theorem tokensAt_getElem? (before : List Tile) (tile : Tile) (after : List Tile)
    (last : List Char) : (tokensAt .start (before ++ tile :: after) last)[before.length]? =
      some ⟨tile.kind, tile.value, placeBehind (tilesText before tile.gap)⟩ := by
  have place : (placeAfter .start before).after tile.gap = placeBehind (tilesText before tile.gap) := by
    rw [placeAfter_eq, ← Position.after_append, ← tilesText_last, after_eq_placeBehind]
  rw [tokensAt_placed, placed_append, List.append_assoc,
    List.getElem?_append_right (placed_length _ _).le, placed_length, Nat.sub_self, ← place]
  rfl

/-- Every source is a row of tiles of which each token has the place behind all text before it: its
line is one more than the line breaks there, its column one more than the characters behind the last
of them. The end of the source has the place behind all of it; and the places go up from each token to
the next. -/
theorem places_exact (source : String) :
    ∃ tiles last, source.toList = tilesText tiles last ∧ Tiled tiles last ∧
      (∀ before tile after, tiles = before ++ tile :: after →
        source.toList = tilesText before tile.gap ++ (tile.spelling ++ tilesText after last) ∧
          (tokenize source)[before.length]? =
            some ⟨tile.kind, tile.value, placeBehind (tilesText before tile.gap)⟩) ∧
      (tokenize source)[tiles.length]? = some ⟨.eof, "", placeBehind source.toList⟩ ∧
      (tokenize source).length = tiles.length + 1 ∧
      (tokenize source).Pairwise fun earlier later => earlier.place < later.place := by
  obtain ⟨tiles, last, whole, tiled⟩ := exists_tiled source.toList
  have tokens : tokenize source = tokensAt .start tiles last := by
    rw [tokenize, Cursor.ofSource, whole]
    exact tokens_tiled tiled .start
  have ends : (placeAfter .start tiles).after last = placeBehind source.toList := by
    rw [placeAfter_eq, ← Position.after_append, ← tilesText_last, ← whole, after_eq_placeBehind]
  refine ⟨tiles, last, whole, tiled, ?_, ?_, ?_, ?_⟩
  · rintro before tile after rfl
    rw [tokens]
    refine ⟨?_, tokensAt_getElem? before tile after last⟩
    rw [whole, tilesText_append, tilesText, ← List.append_assoc, ← tilesText_last]
  · rw [tokens, tokensAt_placed, ends, List.getElem?_append_right (placed_length _ _).le, placed_length,
      Nat.sub_self]
    rfl
  · rw [tokens, tokensAt_placed, List.length_append, placed_length, List.length_singleton]
  · rw [tokens]
    exact (tokensAt_ascending tiled .start).1

end Blueprint
