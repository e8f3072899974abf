import Blueprint.Proofs.Junction
import Blueprint.Proofs.Rendering

/-!
A row of tokens, each spelled with a blank after it, is read as these tokens.
-/
set_option autoImplicit false

namespace Blueprint

open Text

/-- A token that is read from its spelling wherever a blank follows. -/
def Legible (token : Token) : Prop :=
  ∀ rest, Spelled (' ' :: rest) token.kind token.value (Written.spelling token)

theorem isBlank_space : isBlank ' ' = true := by decide

theorem legible_mark (symbol : Symbol) : Legible (Written.mark symbol) := by
  intro rest
  have spelled : Spelled (' ' :: rest) _ _ _ := .symbol symbol
  simpa [Written.mark, Written.token, Written.spelling] using spelled

theorem legible_word {text : String} (isWord : IsWord text.toList) :
    Legible (Written.word text) := by
  intro rest
  have longest := unbroken_isWord.longest isWord isBlank_space rest
  cases found : Keyword.ofSpelling? text with
  | some keyword =>
    have same := spelling_of_ofSpelling? found
    subst same
    have spelled := Spelled.keyword keyword longest
    simpa [Written.word, Written.token, Written.spelling, Lexeme.wordKind, found] using spelled
  | none =>
    have free (keyword : Keyword) : keyword.spelling ≠ String.ofList text.toList := by
      intro same
      rw [String.ofList_toList] at same
      rw [← same, keyword_ofSpelling?] at found
      contradiction
    have spelled := Spelled.identifier longest free
    simpa [Written.word, Written.token, Written.spelling, Lexeme.wordKind, found] using spelled

theorem escaped_escape (content : List Char) :
    Escaped '"' (content.flatMap Written.escape) content := by
  induction content with
  | nil => exact .empty
  | cons c content ih =>
    rw [List.flatMap_cons]
    unfold Written.escape
    split
    · exact .pair ih
    · exact .pair ih
    · exact .pair ih
    · exact .pair ih
    · next notEscape notMark notBreak _ => exact .plain notMark notEscape notBreak ih

theorem legible_quoted (content : String) : Legible (Written.quoted content) := by
  intro rest
  have spelled : Spelled (' ' :: rest) _ _ _ :=
    .string (.inl rfl) (escaped_escape content.toList)
  simpa [Written.quoted, Written.token, Written.spelling] using spelled

theorem legible_numeral {digits : List Char} (isNumber : IsNumber digits) :
    Legible (Written.numeral digits) := by
  intro rest
  have spelled := Spelled.number (unbroken_isNumber.longest isNumber isBlank_space rest)
  simpa [Written.numeral, Written.token, Written.spelling] using spelled

/-- Tokens in a row, each with a gap before it and a blank at the end, are a row of tiles. -/
theorem tiled_text {tokens : List Token} (legible : ∀ token ∈ tokens, Legible token)
    {gap : List Char} (isGap : Gap gap) :
    ∃ tiles last, gap ++ Written.text tokens = tilesText tiles last ∧ Tiled tiles last ∧
      ∀ place, SameTokens (placed place tiles) tokens := by
  induction tokens generalizing gap with
  | nil => exact ⟨[], gap, by simp [Written.text, tilesText], .last (.inl isGap), fun _ => .nil⟩
  | cons token tokens ih =>
    obtain ⟨tiles, last, whole, tiled, same⟩ :=
      ih (fun other later => legible other (List.mem_cons_of_mem token later))
        (.blank isBlank_space .empty : Gap [' '])
    have spelled := legible token List.mem_cons_self (Written.text tokens)
    rw [List.singleton_append] at whole
    rw [whole] at spelled
    refine ⟨⟨gap, token.kind, token.value, Written.spelling token⟩ :: tiles, last, ?_,
      .tile isGap spelled tiled, fun place => .cons ⟨rfl, rfl⟩ (same _)⟩
    simp [Written.text, tilesText, ← whole]

theorem tokensOf_text {tokens : List Token} (legible : ∀ token ∈ tokens, Legible token) :
    SameTokens (tokensOf (String.ofList (Written.text tokens))) tokens := by
  obtain ⟨tiles, last, whole, tiled, same⟩ := tiled_text legible .empty
  rw [tokensOf_tiled (by simpa using whole) tiled]
  exact same .start

end Blueprint
