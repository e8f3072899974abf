import Blueprint.Proofs.RenderedText

/-!
Rows of pieces that are laid out as a text: words, marks and quoted texts with blanks between them.
`Spaced` says which texts lay out a row, and `tokensOf_spaced` that such a text is read as the tokens
of the row. What remains of the text after the row stands in the relation, so that rows compose.
-/
set_option autoImplicit false

namespace Blueprint

open Text

/-! ## Blanks and the ends of words -/

def Blank (gap : List Char) : Prop := ∀ c ∈ gap, isBlank c = true

/-- No word goes on at the start of the text. -/
def WordEnds (text : List Char) : Prop := ∀ c ∈ text.head?, isWordChar c = false

instance : DecidablePred Blank := fun gap =>
  decidable_of_iff (gap.all isBlank = true) List.all_eq_true

instance : DecidablePred WordEnds := fun text =>
  decidable_of_iff (text.head?.all (fun c => !isWordChar c) = true) (by simp [WordEnds, Option.all_eq_true])

theorem not_isWordChar_of_isBlank {c : Char} (blank : isBlank c = true) : isWordChar c = false := by
  cases member : isWordChar c with
  | false => rfl
  | true =>
    rw [not_isBlank_of_isWordChar member] at blank
    contradiction

theorem wordEnds_cons {c : Char} (notMember : isWordChar c = false) (rest : List Char) :
    WordEnds (c :: rest) := by
  intro d member
  obtain rfl : c = d := by simpa using member
  exact notMember

theorem WordEnds.ofBlank {c : Char} (blank : isBlank c = true) (rest : List Char) :
    WordEnds (c :: rest) :=
  wordEnds_cons (not_isWordChar_of_isBlank blank) rest

theorem WordEnds.front {front rest : List Char} (ends : WordEnds (front ++ rest)) :
    WordEnds front := by
  cases front with
  | nil => exact fun _ member => nomatch member
  | cons c front => exact ends

theorem isWordChar_of_isWord {text : List Char} (isWord : IsWord text) :
    ∀ c ∈ text, isWordChar c = true := by
  obtain ⟨c, rest, rfl, start, others⟩ := isWord
  refine List.forall_mem_cons.mpr ⟨?_, others⟩
  rw [isWordStart, Bool.or_eq_true] at start
  simp only [isWordChar, Bool.or_eq_true]
  exact .inl start

theorem isWord_cons {text : List Char} (isWord : IsWord text) :
    ∃ c rest, text = c :: rest ∧ isWordChar c = true := by
  have letters := isWordChar_of_isWord isWord
  obtain ⟨c, rest, rfl, _⟩ := isWord
  exact ⟨c, rest, rfl, letters c List.mem_cons_self⟩

/-- A word does not begin with what is no word character. -/
theorem cons_ne_word {key text rest : List Char} (isWord : IsWord key) {c : Char}
    (notMember : isWordChar c = false) : c :: text ≠ key ++ rest := by
  intro whole
  obtain ⟨d, others, rfl, letter⟩ := isWord_cons isWord
  obtain ⟨rfl, _⟩ := List.cons.inj whole
  rw [letter] at notMember
  contradiction

theorem blank_nil : Blank [] := fun _ member => absurd member List.not_mem_nil

/-- A run of word characters, where no word goes on, is all there is. -/
theorem takeWhile_word {run rest : List Char} (all : ∀ c ∈ run, isWordChar c = true)
    (ends : WordEnds rest) : (run ++ rest).takeWhile isWordChar = run := by
  rw [List.takeWhile_append_of_pos all]
  cases rest with
  | nil => simp
  | cons c rest => simp [ends c rfl]

theorem dropWhile_word {run rest : List Char} (all : ∀ c ∈ run, isWordChar c = true)
    (ends : WordEnds rest) : (run ++ rest).dropWhile isWordChar = rest := by
  rw [List.dropWhile_append_of_pos all]
  cases rest with
  | nil => rfl
  | cons c rest => simp [ends c rfl]

theorem longest_of_wordEnds {text rest : List Char} (isWord : IsWord text) (ends : WordEnds rest) :
    Longest IsWord text rest := by
  obtain ⟨c, more, rfl, start, others⟩ := isWord
  have longest := longest_word start (more ++ rest)
  rwa [takeWhile_word others ends, dropWhile_word others ends] at longest

theorem Longest.wordEnds {text rest : List Char} (longest : Longest IsWord text rest) :
    WordEnds rest := by
  intro c member
  obtain ⟨more, rfl⟩ : ∃ more, rest = c :: more := by
    cases rest with
    | nil => contradiction
    | cons d more => exact ⟨more, by rw [Option.mem_some.mp member]⟩
  cases letter : isWordChar c with
  | false => rfl
  | true =>
    obtain ⟨d, others, rfl, start, letters⟩ := longest.1
    have longer : IsWord (d :: (others ++ [c])) :=
      ⟨d, others ++ [c], rfl, start, List.forall_mem_append.mpr ⟨letters, by simpa using letter⟩⟩
    have bound := longest.2 _ ⟨more, by simp⟩ longer
    simp only [List.length_cons, List.length_append, List.length_nil] at bound
    omega

/-! ## Pieces -/

inductive Piece where
  | word (name : String)
  | mark (symbol : Symbol)
  | text (content : String)

namespace Piece

def token : Piece → Token
  | .word name => Written.word name
  | .mark symbol => Written.mark symbol
  | .text content => Written.quoted content

def spelling : Piece → List Char
  | .word name => name.toList
  | .mark symbol => [symbol.char]
  | .text content => '"' :: (content.toList ++ ['"'])

/-- Words are words, and texts can stand between quotation marks as they are. -/
def Readable : Piece → Prop
  | .word name => IsWord name.toList
  | .mark _ => True
  | .text content => '"' ∉ content.toList ∧ '\\' ∉ content.toList ∧ '\n' ∉ content.toList

/-- Whether a text may follow the piece: a word must not run into another one. -/
def MayPrecede : Piece → List Char → Prop
  | .word _, following => WordEnds following
  | _, _ => True

instance : (piece : Piece) → (following : List Char) → Decidable (piece.MayPrecede following)
  | .word _, following => inferInstanceAs (Decidable (WordEnds following))
  | .mark _, _ => .isTrue trivial
  | .text _, _ => .isTrue trivial

theorem escaped_verbatim {content : List Char} (noMark : '"' ∉ content) (noEscape : '\\' ∉ content)
    (noBreak : '\n' ∉ content) : Escaped '"' content content := by
  induction content with
  | nil => exact .empty
  | cons c content ih =>
    simp only [List.mem_cons, not_or] at noMark noEscape noBreak
    exact .plain (Ne.symm noMark.1) (Ne.symm noEscape.1) (Ne.symm noBreak.1)
      (ih noMark.2 noEscape.2 noBreak.2)

theorem spelled {piece : Piece} (readable : piece.Readable) {rest : List Char}
    (fits : piece.MayPrecede rest) :
    Spelled rest piece.token.kind piece.token.value piece.spelling := by
  cases piece with
  | mark symbol => exact .symbol symbol
  | text content =>
    obtain ⟨noMark, noEscape, noBreak⟩ := readable
    have spelled : Spelled rest _ _ _ := .string (.inl rfl) (escaped_verbatim noMark noEscape noBreak)
    rwa [String.ofList_toList] at spelled
  | word name =>
    have longest := longest_of_wordEnds readable fits
    cases found : Keyword.ofSpelling? name with
    | some keyword =>
      have same := spelling_of_ofSpelling? found
      subst same
      have spelled := Spelled.keyword keyword longest
      simpa [token, spelling, Written.word, Written.token, Lexeme.wordKind, found] using spelled
    | none =>
      have free (keyword : Keyword) : keyword.spelling ≠ String.ofList name.toList := by
        intro same
        rw [String.ofList_toList] at same
        rw [← same, keyword_ofSpelling?] at found
        contradiction
      have spelled := Spelled.identifier longest free
      simpa [token, spelling, Written.word, Written.token, Lexeme.wordKind, found] using spelled

end Piece

/-! ## Rows -/

/-- What may stand before a piece. -/
inductive Space where
  /-- Any blanks. -/
  | free
  | tight
  /-- Blanks, but no line break. -/
  | inLine
  /-- Such blanks, at least one. -/
  | apart
  /-- Blanks with a line break among them. -/
  | newLine

def Space.Fits : Space → List Char → Prop
  | .free, gap => Blank gap
  | .tight, gap => gap = []
  | .inLine, gap => Blank gap ∧ '\n' ∉ gap
  | .apart, gap => Blank gap ∧ gap ≠ [] ∧ '\n' ∉ gap
  | .newLine, gap => Blank gap ∧ '\n' ∈ gap

instance : (space : Space) → (gap : List Char) → Decidable (space.Fits gap)
  | .free, gap => inferInstanceAs (Decidable (Blank gap))
  | .tight, gap => inferInstanceAs (Decidable (gap = []))
  | .inLine, gap => inferInstanceAs (Decidable (Blank gap ∧ '\n' ∉ gap))
  | .apart, gap => inferInstanceAs (Decidable (Blank gap ∧ gap ≠ [] ∧ '\n' ∉ gap))
  | .newLine, gap => inferInstanceAs (Decidable (Blank gap ∧ '\n' ∈ gap))

theorem Space.Fits.blank {space : Space} {gap : List Char} (fits : space.Fits gap) : Blank gap := by
  cases space with
  | free => exact fits
  | tight =>
    obtain rfl : gap = [] := fits
    exact fun c member => absurd member List.not_mem_nil
  | inLine | apart | newLine => exact fits.1

abbrev Row := List (Space × Piece)

namespace Row

def tokens (row : Row) : List Token := row.map fun spaced => spaced.2.token

def Readable (row : Row) : Prop := ∀ spaced ∈ row, spaced.2.Readable

/-- What follows the row in a text that begins with a layout of it. -/
def after? : Row → List Char → Option (List Char)
  | [], text => some text
  | (space, piece) :: row, text =>
    match piece.spelling.isPrefixOf? (text.dropWhile isBlank) with
    | none => none
    | some after =>
      if space.Fits (text.takeWhile isBlank) ∧ piece.MayPrecede after then after? row after
      else none

end Row

/-- A text begins with a row, laid out with blanks, and goes on with a rest. -/
inductive Spaced : Row → List Char → List Char → Prop where
  | nil {rest : List Char} : Spaced [] rest rest
  | cons {space : Space} {piece : Piece} {row : Row} {gap text rest : List Char}
    (fits : space.Fits gap) (mayPrecede : piece.MayPrecede text) (tail : Spaced row text rest) :
    Spaced ((space, piece) :: row) (gap ++ (piece.spelling ++ text)) rest

namespace Spaced

variable {row more : Row} {text rest : List Char}

theorem cons_iff {space : Space} {piece : Piece} : Spaced ((space, piece) :: row) text rest ↔
    ∃ gap after, text = gap ++ (piece.spelling ++ after) ∧ space.Fits gap ∧
      piece.MayPrecede after ∧ Spaced row after rest := by
  constructor
  · intro spaced
    cases spaced with
    | cons fits mayPrecede tail => exact ⟨_, _, rfl, fits, mayPrecede, tail⟩
  · rintro ⟨gap, after, rfl, fits, mayPrecede, tail⟩
    exact .cons fits mayPrecede tail

theorem append_iff : Spaced (row ++ more) text rest ↔
    ∃ middle, Spaced row text middle ∧ Spaced more middle rest := by
  constructor
  · intro spaced
    induction row generalizing text with
    | nil => exact ⟨text, .nil, spaced⟩
    | cons first row ih =>
      cases spaced with
      | cons fits mayPrecede tail =>
        obtain ⟨middle, before, after⟩ := ih tail
        exact ⟨middle, .cons fits mayPrecede before, after⟩
  · rintro ⟨middle, before, after⟩
    induction before with
    | nil => exact after
    | cons fits mayPrecede _ ih => exact .cons fits mayPrecede (ih after)

theorem ofAfter? (reached : row.after? text = some rest) : Spaced row text rest := by
  fun_induction Row.after? row text with
  | case1 text =>
    obtain rfl := Option.some.inj reached
    exact .nil
  | case2 => contradiction
  | case3 space piece row text after found fits ih =>
    have whole : text = text.takeWhile isBlank ++ (piece.spelling ++ after) := by
      rw [List.isPrefixOf?_eq_some_iff_append_eq] at found
      rw [found, List.takeWhile_append_dropWhile]
    rw [whole]
    exact .cons fits.1 fits.2 (ih reached)
  | case4 => contradiction

/-- The part of the text that lays out the row. -/
theorem part (spaced : Spaced row text rest) :
    ∃ front, text = front ++ rest ∧ Spaced row front [] := by
  induction spaced with
  | nil => exact ⟨[], rfl, .nil⟩
  | @cons space piece row gap text rest fits mayPrecede _ ih =>
    obtain ⟨front, rfl, laid⟩ := ih
    refine ⟨gap ++ (piece.spelling ++ front), by simp, .cons fits ?_ laid⟩
    cases piece with
    | mark | text => trivial
    | word name => exact WordEnds.front mayPrecede

/-- No word goes on behind a row that ends with a word. -/
theorem wordEnds {space : Space} {name : String}
    (spaced : Spaced (row ++ [(space, .word name)]) text rest) : WordEnds rest := by
  obtain ⟨middle, _, last⟩ := append_iff.mp spaced
  obtain ⟨gap, after, _, _, ends, ended⟩ := cons_iff.mp last
  cases ended
  exact ends

theorem piece_isInfix (spaced : Spaced row text rest) {space : Space} {piece : Piece}
    (member : (space, piece) ∈ row) : piece.spelling <:+: text := by
  induction spaced with
  | nil => contradiction
  | @cons _ first row gap text rest _ _ _ ih =>
    rcases List.mem_cons.mp member with same | later
    · obtain ⟨rfl, rfl⟩ := Prod.mk.inj same
      exact ⟨gap, text, by simp⟩
    · have behind : text <:+ gap ++ (first.spelling ++ text) := ⟨gap ++ first.spelling, by simp⟩
      exact (ih later).trans behind.isInfix

/-- A character of the text that is no blank belongs to a piece. -/
theorem mem_part (spaced : Spaced row text []) {c : Char} (member : c ∈ text)
    (notBlank : isBlank c = false) : ∃ spaced ∈ row, c ∈ spaced.2.spelling := by
  generalize ended : ([] : List Char) = rest at spaced
  induction spaced with
  | nil =>
    rw [← ended] at member
    contradiction
  | @cons space piece row gap text rest fits _ _ ih =>
    rcases List.mem_append.mp member with inGap | member
    · rw [fits.blank c inGap] at notBlank
      contradiction
    · rcases List.mem_append.mp member with inPiece | inText
      · exact ⟨(space, piece), List.mem_cons_self, inPiece⟩
      · obtain ⟨spaced, inRow, inPiece⟩ := ih inText ended
        exact ⟨spaced, List.mem_cons_of_mem _ inRow, inPiece⟩

end Spaced

/-! ## The tokens of a text -/

theorem gap_of_blank {gap : List Char} (blank : Blank gap) : Gap gap := by
  induction gap with
  | nil => exact .empty
  | cons c gap ih =>
    exact .blank (blank c List.mem_cons_self) (ih fun d member => blank d (List.mem_cons_of_mem c member))

theorem tiled_spaced {row : Row} {text last : List Char} (spaced : Spaced row text last)
    (readable : row.Readable) (blank : Blank last) :
    ∃ tiles, text = tilesText tiles last ∧ Tiled tiles last ∧
      ∀ place, SameTokens (placed place tiles) row.tokens := by
  induction spaced with
  | nil => exact ⟨[], rfl, .last (.inl (gap_of_blank blank)), fun _ => .nil⟩
  | @cons space piece row gap text rest fits mayPrecede _ ih =>
    obtain ⟨tiles, rfl, tiled, same⟩ :=
      ih (fun other later => readable other (List.mem_cons_of_mem _ later)) blank
    have spelled := Piece.spelled (readable _ List.mem_cons_self) mayPrecede
    exact ⟨⟨gap, piece.token.kind, piece.token.value, piece.spelling⟩ :: tiles, rfl,
      .tile (gap_of_blank fits.blank) spelled tiled, fun place => .cons ⟨rfl, rfl⟩ (same _)⟩

/-- A text that lays out a row is read as its tokens. -/
theorem tokensOf_spaced {row : Row} {source : String} {last : List Char}
    (spaced : Spaced row source.toList last) (readable : row.Readable) (blank : Blank last) :
    SameTokens (tokensOf source) row.tokens := by
  obtain ⟨tiles, whole, tiled, same⟩ := tiled_spaced spaced readable blank
  rw [tokensOf_tiled whole tiled]
  exact same .start

end Blueprint
