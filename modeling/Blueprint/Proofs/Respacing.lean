import Blueprint.Compile
import Blueprint.Proofs.GrammarPlaces
import Blueprint.Proofs.Junction

/-!
Layout and comments say nothing. A source may be spaced out, with more blanks and comments at its
start and directly after any of its tokens: `respacing_irrelevant` says that it keeps its tokens, and
so the document and the application that the grammar makes of it.
-/
set_option autoImplicit false

namespace Blueprint

open Text

/-- Text that may be put in between two tokens: a blank, and then blanks and closed comments. -/
def Filler (text : List Char) : Prop :=
  Gap text ∧ ∃ c rest, text = c :: rest ∧ isBlank c = true

/-- Tiles with more text put in: `more 0` before the first one, and `more (n + 1)` directly after the
token of the one with number `n`, unless it is the last. -/
def respaced (more : Nat → List Char) : List Tile → List Tile
  | [] => []
  | tile :: tiles =>
    { tile with gap := more 0 ++ tile.gap } :: respaced (fun number => more (number + 1)) tiles

/-- The last gap with the text put in directly after the last token. -/
def respacedEnd (more : Nat → List Char) (tiles : List Tile) (last : List Char) : List Char :=
  more tiles.length ++ last

/-! ## The tokens stay -/

section Tiles

variable {more : Nat → List Char} {tiles : List Tile} {last : List Char}

/-- Where text is put in, the old text breaks off. -/
theorem respaced_breaksOff (fillers : ∀ number, more number = [] ∨ Filler (more number))
    (tiles : List Tile) (last : List Char) :
    BreaksOff (tilesText tiles last)
      (tilesText (respaced more tiles) (respacedEnd more tiles last)) := by
  induction tiles generalizing more with
  | nil =>
    rcases fillers 0 with none | ⟨_, c, rest, begins, blank⟩
    · left
      simp [respaced, respacedEnd, tilesText, none]
    · right
      exact ⟨[], c, rest ++ last, List.nil_prefix, blank,
        by simp [respaced, respacedEnd, tilesText, begins]⟩
  | cons tile tiles ih =>
    have behind := @ih (fun number => more (number + 1)) fun number => fillers (number + 1)
    rcases fillers 0 with none | ⟨_, c, rest, begins, blank⟩
    · have whole := (behind.append tile.spelling).append tile.gap
      simpa [respaced, respacedEnd, tilesText, none] using whole
    · right
      exact ⟨[], c, _, List.nil_prefix, blank, by simp only [respaced, tilesText, begins]; rfl⟩

theorem tiled_respaced (tiled : Tiled tiles last) (known : ∀ tile ∈ tiles, tile.kind ≠ .unknown)
    (fillers : ∀ number, more number = [] ∨ Filler (more number)) :
    Tiled (respaced more tiles) (respacedEnd more tiles last) := by
  have isGap (number : Nat) : Gap (more number) := by
    rcases fillers number with none | filler
    · rw [none]
      exact .empty
    · exact filler.1
  induction tiled generalizing more with
  | last isLast => exact .last ((isGap 0).lastGap isLast)
  | @tile tile tiles last isGap' spelled _ ih =>
    have later := @ih (fun number => more (number + 1))
      (fun other behind => known other (List.mem_cons_of_mem tile behind))
      (fun number => fillers (number + 1)) fun number => isGap (number + 1)
    have breaks := respaced_breaksOff (fun number => fillers (number + 1)) tiles last
    exact .tile ((isGap 0).append isGap') (spelled.cut (known tile List.mem_cons_self) breaks) later

theorem tokensAt_respaced (more : Nat → List Char) (tiles : List Tile) (last last' : List Char)
    (place place' : Position) :
    SameTokens (tokensAt place tiles last) (tokensAt place' (respaced more tiles) last') := by
  induction tiles generalizing more place place' with
  | nil => exact .cons ⟨rfl, rfl⟩ .nil
  | cons tile tiles ih => exact .cons ⟨rfl, rfl⟩ (ih _ _ _)

end Tiles

/-! ## What is made of the tokens -/

section Sources

variable {source source' : String}

theorem splitEnd_same {tokens tokens' : List Token} (alike : SameTokens tokens tokens') :
    SameTokens (Document.splitEnd tokens).1 (Document.splitEnd tokens').1 := by
  induction alike with
  | nil => exact .nil
  | @cons token token' _ _ head _ ih =>
    simp only [Document.splitEnd, head.1]
    split
    · exact .nil
    · exact .cons head ih

theorem mem_of_mem_splitEnd {token : Token} {tokens : List Token}
    (member : token ∈ (Document.splitEnd tokens).1) : token ∈ tokens := by
  induction tokens with
  | nil => exact member
  | cons first tokens ih =>
    simp only [Document.splitEnd] at member
    split at member
    · contradiction
    · rcases List.mem_cons.mp member with rfl | later
      · exact List.mem_cons_self
      · exact List.mem_cons_of_mem first (ih later)

theorem parse_same (alike : SameTokens (tokenize source) (tokenize source')) :
    (Document.parse source).map ParseResult.content =
      (Document.parse source').map ParseResult.content :=
  parseTokens_same (splitEnd_same alike) _ _

/-- The application that the grammar makes depends on what was parsed only. -/
theorem compile_grammar_same (parsed : (Document.parse source).map ParseResult.content =
      (Document.parse source').map ParseResult.content) :
    (compile source .grammar).map Compilation.application =
      (compile source' .grammar).map Compilation.application := by
  unfold compile
  generalize Extraction.ofSource source = extraction
  generalize Extraction.ofSource source' = extraction'
  generalize Document.parse source = outcome at parsed ⊢
  generalize Document.parse source' = outcome' at parsed ⊢
  cases outcome with
  | error error =>
    cases outcome' with
    | ok result' => contradiction
    | error error' =>
      cases error
      cases error'
      rfl
  | ok result =>
    cases outcome' with
    | error error' => contradiction
    | ok result' =>
      have documents : result.document = result'.document := by
        simp only [Except.map, Except.ok.injEq, ParseResult.content, Prod.mk.injEq] at parsed
        exact parsed.1
      have reconciled : reconcile result.document extraction .grammar =
          reconcile result'.document extraction' .grammar := by
        rw [documents]
        cases result'.document with
        | none => rfl
        | some document => cases isHeader : document.header <;> simp [reconcile, isHeader]
      change (((reconcile result.document extraction .grammar).mapError
          CompileError.incomplete).bind _).map Compilation.application =
        (((reconcile result'.document extraction' .grammar).mapError
          CompileError.incomplete).bind _).map Compilation.application
      rw [reconciled]
      cases reconcile result'.document extraction' .grammar with
      | ok application => rfl
      | error error => rfl

end Sources

/-- A source without unknown tokens that is spaced out keeps its kinds and values of tokens; it is
parsed to the same document with the same problems, or fails to in the same way; and by the grammar it
is compiled to the same application, or fails to in the same way. -/
theorem respacing_irrelevant {source source' : String} {tiles : List Tile} {last : List Char}
    {more : Nat → List Char} (whole : source.toList = tilesText tiles last)
    (tiled : Tiled tiles last) (known : ∀ token ∈ tokenize source, token.kind ≠ .unknown)
    (fillers : ∀ number, more number = [] ∨ Filler (more number))
    (spaced : source'.toList = tilesText (respaced more tiles) (respacedEnd more tiles last)) :
    SameTokens (tokenize source) (tokenize source') ∧
      (Document.parse source).map ParseResult.content =
        (Document.parse source').map ParseResult.content ∧
      (compile source .grammar).map Compilation.application =
        (compile source' .grammar).map Compilation.application := by
  have tokens : tokenize source = tokensAt .start tiles last := by
    rw [tokenize, Cursor.ofSource, whole, tokens_tiled tiled]
  have knownTiles : ∀ tile ∈ tiles, tile.kind ≠ .unknown := by
    refine @tile_known .start _ fun token member => ?_
    rw [← splitEnd_tokensAt tiled, ← tokens] at member
    exact known token (mem_of_mem_splitEnd member)
  have tokens' : tokenize source' =
      tokensAt .start (respaced more tiles) (respacedEnd more tiles last) := by
    rw [tokenize, Cursor.ofSource, spaced, tokens_tiled (tiled_respaced tiled knownTiles fillers)]
  have alike : SameTokens (tokenize source) (tokenize source') := by
    rw [tokens, tokens']
    exact tokensAt_respaced more tiles last _ .start .start
  have parsed := parse_same alike
  exact ⟨alike, parsed, compile_grammar_same parsed⟩

/-- The tiles of a header with a number where a text belongs, and a text that looks like a comment. -/
def labelTiles : List Tile :=
  [⟨[], .keyword .app, "app", "app".toList⟩,
    ⟨[' '], .identifier, "A", ['A']⟩,
    ⟨[], .symbol .leftBrace, "\x7b", ['\x7b']⟩,
    ⟨[], .identifier, "id", "id".toList⟩,
    ⟨[], .symbol .colon, ":", [':']⟩,
    ⟨[], .number, "-1.5", "-1.5".toList⟩,
    ⟨[' '], .identifier, "name", "name".toList⟩,
    ⟨[], .symbol .colon, ":", [':']⟩,
    ⟨[], .string, "//", "\"//\"".toList⟩,
    ⟨[], .symbol .rightBrace, "\x7d", ['\x7d']⟩]

theorem labelTiles_tiled : Tiled labelTiles [] := by
  have noGap {c : Char} (notBlank : isBlank c = false) (notSlash : c ≠ '/') {rest : List Char} :=
    noGap_of_ne_slash notBlank notSlash rest
  have space : Gap [' '] := .blank (by decide) .empty
  -- Each token is what the scanner reads at its first character.
  have brace := @spelled_read '\x7d' [] (noGap (by decide) (by decide))
  have text := @spelled_read '"' "//\"\x7d".toList (noGap (by decide) (by decide))
  have colon := @spelled_read ':' "\"//\"\x7d".toList (noGap (by decide) (by decide))
  have name := @spelled_read 'n' "ame:\"//\"\x7d".toList (noGap (by decide) (by decide))
  have number := @spelled_read '-' "1.5 name:\"//\"\x7d".toList (noGap (by decide) (by decide))
  have colon' := @spelled_read ':' "-1.5 name:\"//\"\x7d".toList (noGap (by decide) (by decide))
  have key := @spelled_read 'i' "d:-1.5 name:\"//\"\x7d".toList (noGap (by decide) (by decide))
  have brace' := @spelled_read '\x7b' "id:-1.5 name:\"//\"\x7d".toList
    (noGap (by decide) (by decide))
  have title := @spelled_read 'A' "\x7bid:-1.5 name:\"//\"\x7d".toList
    (noGap (by decide) (by decide))
  have word := @spelled_read 'a' "pp A\x7bid:-1.5 name:\"//\"\x7d".toList
    (noGap (by decide) (by decide))
  exact .tile .empty word <| .tile space title <| .tile .empty brace' <| .tile .empty key <|
    .tile .empty colon' <| .tile .empty number <| .tile space name <| .tile .empty colon <|
    .tile .empty text <| .tile .empty brace <| .last (.inl .empty)

/-- A line at the start, a comment with a brace after the opening one, and a comment with a quotation
mark after the name of the second attribute. -/
def labelSpaces : Nat → List Char
  | 0 => ['\n']
  | 3 => " /* \x7d */".toList
  | 7 => " // it's\n".toList
  | _ => []

theorem labelSpaces_filler (number : Nat) :
    labelSpaces number = [] ∨ Filler (labelSpaces number) := by
  unfold labelSpaces
  split
  · exact .inr ⟨.blank (by decide) .empty, '\n', [], rfl, by decide⟩
  · have comment := @Gap.blockComment " \x7d ".toList [] (by decide) .empty
    exact .inr ⟨.blank (by decide) comment, ' ', _, rfl, by decide⟩
  · have comment := @Gap.lineComment " it's".toList [] (by decide) .empty
    exact .inr ⟨.blank (by decide) comment, ' ', _, rfl, by decide⟩
  · exact .inl rfl

theorem respacing_irrelevant_label :
    let source := "app A\x7bid:-1.5 name:\"//\"\x7d"
    let source' := "\napp A\x7b /* \x7d */id:-1.5 name // it's\n:\"//\"\x7d"
    (∀ token ∈ tokenize source, token.kind ≠ .unknown) ∧
      SameTokens (tokenize source) (tokenize source') ∧
      (Document.parse source).map ParseResult.content =
        (Document.parse source').map ParseResult.content ∧
      (compile source .grammar).map Compilation.application =
        (compile source' .grammar).map Compilation.application := by
  have known : ∀ token ∈ tokenize "app A\x7bid:-1.5 name:\"//\"\x7d", token.kind ≠ .unknown := by
    have tokens := tokens_tiled labelTiles_tiled .start
    change tokenize "app A\x7bid:-1.5 name:\"//\"\x7d" = _ at tokens
    rw [tokens]
    decide
  exact ⟨known, respacing_irrelevant rfl labelTiles_tiled known labelSpaces_filler rfl⟩

end Blueprint
