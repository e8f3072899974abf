import Blueprint.Extraction
import Blueprint.Proofs.Fragments
import Blueprint.Proofs.Scanning

/-!
Looking for a key with its colon, and for a word, in a laid out text. A key is found where it stands,
unless something before it may be taken for it; a word that occurs in a text occurs in one of the
pieces that are laid out.
-/
set_option autoImplicit false

namespace Blueprint

open Text

variable {α : Type}

/-! ## First answers -/

section FirstMatch

variable {read : List Char → Option α} {front text : List Char}

theorem firstMatch_found {answer : α} (found : read text = some answer) :
    firstMatch read text = some answer := by
  cases text with
  | nil => exact found
  | cons c text =>
    rw [firstMatch, found]
    rfl

theorem firstMatch_none {c : Char} (silent : read (c :: text) = none) :
    firstMatch read (c :: text) = firstMatch read text := by
  rw [firstMatch, silent]
  rfl

theorem firstMatch_silent (silent : ∀ before c after, front = before ++ c :: after →
    read (c :: (after ++ text)) = none) : firstMatch read (front ++ text) = firstMatch read text := by
  induction front with
  | nil => rfl
  | cons c front ih =>
    rw [List.cons_append, firstMatch_none (silent [] c front rfl)]
    apply ih
    intro before d after whole
    exact silent (c :: before) d after (congrArg (c :: ·) whole)

end FirstMatch

/-! ## Readers that look for a key -/

/-- The text goes on with a colon, after any blanks. -/
def ColonNext (text : List Char) : Prop := ∃ gap more, Blank gap ∧ text = gap ++ ':' :: more

theorem ColonNext.wordEnds {text : List Char} (colon : ColonNext text) : WordEnds text := by
  obtain ⟨gap, more, blank, rfl⟩ := colon
  exact blank.wordEnds (by decide) more

theorem not_colonNext_gap {gap : List Char} {c : Char} {rest : List Char} (blank : Blank gap)
    (notBlank : isBlank c = false) (notColon : c ≠ ':') : ¬ ColonNext (gap ++ c :: rest) := by
  rintro ⟨gap', more, blank', same⟩
  have after := congrArg afterBlanks same
  rw [afterBlanks_gap blank (begins_cons notBlank rest),
    afterBlanks_gap blank' (begins_cons (by decide) more)] at after
  exact notColon (List.cons.inj after).1

/-- The reader answers only where the key stands with a colon. -/
structure AnswersKey (key : String) (read : List Char → Option α) : Prop where
  isWord : IsWord key.toList
  answer : ∀ {text : List Char} {found : α}, read text = some found →
    ∃ after, text = key.toList ++ after ∧ ColonNext after

theorem afterKey?_append (key : String) {gap : List Char} (blank : Blank gap) (rest : List Char) :
    Extraction.afterKey? key (key.toList ++ (gap ++ ':' :: rest)) = some rest := by
  rw [Extraction.afterKey?, afterLiteral?_append, Option.bind_some,
    afterMark?_gap (by decide) blank]

/-- The text behind a key, a gap and a colon. -/
theorem afterKey?_eq_some_iff {key : String} {text rest : List Char} :
    Extraction.afterKey? key text = some rest ↔
      ∃ gap, Blank gap ∧ text = key.toList ++ (gap ++ ':' :: rest) := by
  constructor
  · intro found
    obtain ⟨after, literal, marked⟩ := Option.bind_eq_some_iff.mp found
    obtain ⟨gap, blank, rfl⟩ := afterMark?_eq_some marked
    exact ⟨gap, blank, afterLiteral?_eq_some literal⟩
  · rintro ⟨gap, blank, rfl⟩
    exact afterKey?_append key blank rest

theorem afterKey?_eq_some {key : String} {text rest : List Char}
    (found : Extraction.afterKey? key text = some rest) :
    ∃ after, text = key.toList ++ after ∧ ColonNext after := by
  obtain ⟨gap, blank, rfl⟩ := afterKey?_eq_some_iff.mp found
  exact ⟨_, rfl, gap, rest, blank, rfl⟩

/-- A reader that begins with a key answers only where it stands. -/
theorem AnswersKey.ofBind {key : String} {next : List Char → Option α}
    (isWord : IsWord key.toList) :
    AnswersKey key fun text => (Extraction.afterKey? key text).bind next where
  isWord := isWord
  answer found := by
    obtain ⟨rest, known, _⟩ := Option.bind_eq_some_iff.mp found
    exact afterKey?_eq_some known

theorem AnswersKey.bind {β : Type} {key : String} {read : List Char → Option α}
    (answers : AnswersKey key read) (next : α → Option β) :
    AnswersKey key fun text => (read text).bind next where
  isWord := answers.isWord
  answer found := by
    obtain ⟨middle, known, _⟩ := Option.bind_eq_some_iff.mp found
    exact answers.answer known

/-- A piece that cannot be taken for the key, whatever follows. -/
def Piece.Unkeyed (key : String) : Piece → Prop
  | .word name => ¬ key.toList <:+ name.toList
  | .mark _ => True
  | .text content => ':' ∉ content.toList

namespace AnswersKey

variable {key : String} {read : List Char → Option α} {text rest : List Char}

theorem silent_of_not_wordChar (answers : AnswersKey key read) {c : Char}
    (notMember : isWordChar c = false) : read (c :: text) = none := by
  cases found : read (c :: text) with
  | none => rfl
  | some result =>
    obtain ⟨after, whole, _⟩ := answers.answer found
    exact absurd whole (cons_ne_word answers.isWord notMember)

theorem read_nil (answers : AnswersKey key read) : read [] = none := by
  cases found : read [] with
  | none => rfl
  | some result =>
    obtain ⟨after, whole, _⟩ := answers.answer found
    obtain ⟨d, others, letters, _⟩ := isWord_cons answers.isWord
    simp [letters] at whole

theorem firstMatch_gap (answers : AnswersKey key read) {gap : List Char}
    (apart : ∀ c ∈ gap, isWordChar c = false) :
    firstMatch read (gap ++ text) = firstMatch read text :=
  firstMatch_silent fun before c after whole =>
    answers.silent_of_not_wordChar (apart c (by simp [whole]))

/-- A word is passed over that does not end in the key or that no colon follows. -/
theorem firstMatch_word (answers : AnswersKey key read) {name : String}
    (isWord : IsWord name.toList) (ends : WordEnds text)
    (apart : ¬ key.toList <:+ name.toList ∨ ¬ ColonNext text) :
    firstMatch read (name.toList ++ text) = firstMatch read text := by
  apply firstMatch_silent
  intro before c after whole
  cases found : read (c :: (after ++ text)) with
  | none => rfl
  | some result =>
    obtain ⟨after', same, colon⟩ := answers.answer found
    -- what is left of the word is as long as it can be, and so is the key
    have letters : ∀ d ∈ c :: after, isWordChar d = true := by
      intro d member
      refine isWordChar_of_isWord isWord d ?_
      rw [whole]
      exact List.mem_append_right before member
    obtain ⟨isKey, rfl⟩ := word_unique letters (isWordChar_of_isWord answers.isWord) ends
      colon.wordEnds same
    rcases apart with notKey | noColon
    · exact absurd ⟨before, by rw [whole, isKey]⟩ notKey
    · exact absurd colon noColon

theorem firstMatch_text (answers : AnswersKey key read) {content : String}
    (free : ':' ∉ content.toList) :
    firstMatch read ((Piece.text content).spelling ++ text) = firstMatch read text := by
  have mark (rest : List Char) : firstMatch read ('"' :: rest) = firstMatch read rest :=
    firstMatch_none (answers.silent_of_not_wordChar isWordChar_quote)
  have contents : firstMatch read (content.toList ++ '"' :: text) = firstMatch read ('"' :: text) := by
    apply firstMatch_silent
    intro before c after whole
    cases found : read (c :: (after ++ '"' :: text)) with
    | none => rfl
    | some result =>
      obtain ⟨after', same, gap, more, blank, rfl⟩ := answers.answer found
      have unquoted : '"' ∉ key.toList ++ gap := by
        intro member
        rcases List.mem_append.mp member with member | member
        · have letter := isWordChar_of_isWord answers.isWord _ member
          rw [isWordChar_quote] at letter
          contradiction
        · have blanks := blank _ member
          contradiction
      rw [← List.append_assoc, ← List.cons_append] at same
      obtain ⟨middle, inside⟩ := beyond same unquoted (by decide)
      exact absurd (by simp [whole, inside]) free
  have whole : (Piece.text content).spelling ++ text =
      '"' :: (content.toList ++ '"' :: text) := by simp [Piece.spelling]
  rw [whole, mark, contents, mark]

/-- A row that cannot be taken for the key is passed over. -/
theorem firstMatch_row (answers : AnswersKey key read) {row : Row} (readable : row.Readable)
    (unkeyed : ∀ spaced ∈ row, spaced.2.Unkeyed key) (spaced : Spaced row text rest) :
    firstMatch read text = firstMatch read rest := by
  induction spaced with
  | nil => rfl
  | @cons space piece row gap text rest fits mayPrecede _ ih =>
    have tail := ih (fun other later => readable other (List.mem_cons_of_mem _ later))
      (fun other later => unkeyed other (List.mem_cons_of_mem _ later))
    have isReadable := readable _ List.mem_cons_self
    have isUnkeyed := unkeyed _ List.mem_cons_self
    rw [answers.firstMatch_gap fits.blank.notWordChar, ← tail]
    cases piece with
    | word name => exact answers.firstMatch_word isReadable mayPrecede (.inl isUnkeyed)
    | mark symbol =>
      exact firstMatch_none (answers.silent_of_not_wordChar (isWordChar_symbol symbol))
    | text content => exact answers.firstMatch_text isUnkeyed

end AnswersKey

/-! ## Words that occur in a text -/

theorem occursIn_iff {part text : List Char} : occursIn part text = true ↔ part <:+: text := by
  induction text with
  | nil => simp [occursIn]
  | cons c text ih =>
    rw [occursIn, Bool.or_eq_true, List.isPrefixOf_iff_prefix, ih, List.infix_cons_iff]

theorem isPrefix_of_free {part front rest : List Char} {c : Char} (free : c ∉ part)
    (start : part <+: front ++ c :: rest) : part <+: front := by
  induction part generalizing front with
  | nil => exact List.nil_prefix
  | cons d part ih =>
    simp only [List.mem_cons, not_or] at free
    cases front with
    | nil => exact absurd (List.cons_prefix_cons.mp start).1.symm free.1
    | cons e front =>
      rw [List.cons_append] at start
      obtain ⟨rfl, tails⟩ := List.cons_prefix_cons.mp start
      exact List.cons_prefix_cons.mpr ⟨rfl, ih free.2 tails⟩

/-- What occurs in a text lies before or behind a character that it does not hold. -/
theorem isInfix_split {part front rest : List Char} {c : Char} (free : c ∉ part)
    (inside : part <:+: front ++ c :: rest) : part <:+: front ∨ part <:+: rest := by
  induction front with
  | nil =>
    rcases List.infix_cons_iff.mp inside with start | later
    · exact .inl (isPrefix_of_free free start).isInfix
    · exact .inr later
  | cons d front ih =>
    rcases List.infix_cons_iff.mp inside with start | later
    · exact .inl (isPrefix_of_free free start).isInfix
    · rcases ih later with before | behind
      · exact .inl (List.infix_cons before)
      · exact .inr behind

/-- The characters of a piece without its marks. -/
def Piece.core : Piece → List Char
  | .word name => name.toList
  | .mark _ => []
  | .text content => content.toList

theorem Piece.core_isInfix (piece : Piece) : piece.core <:+: piece.spelling := by
  cases piece with
  | word name => exact List.infix_rfl
  | mark symbol => exact List.nil_infix
  | text content => exact ⟨['"'], ['"'], by simp [core, spelling]⟩

section Infix

variable {part text : List Char} (isWord : IsWord part)

include isWord

theorem isInfix_gap {gap : List Char} (apart : ∀ c ∈ gap, isWordChar c = false)
    (inside : part <:+: gap ++ text) : part <:+: text := by
  induction gap with
  | nil => exact inside
  | cons c gap ih =>
    have free : c ∉ part := by
      intro member
      have letter := isWordChar_of_isWord isWord c member
      rw [apart c List.mem_cons_self] at letter
      contradiction
    have split : part <:+: [] ++ c :: (gap ++ text) := inside
    rcases isInfix_split free split with before | behind
    · rw [List.infix_nil.mp before]
      exact List.nil_infix
    · exact ih (fun d member => apart d (List.mem_cons_of_mem c member)) behind

theorem occursIn_gap {gap : List Char} (apart : ∀ c ∈ gap, isWordChar c = false) :
    occursIn part (gap ++ text) = occursIn part text := by
  rw [Bool.eq_iff_iff, occursIn_iff, occursIn_iff]
  constructor
  · exact isInfix_gap isWord apart
  · intro inside
    exact inside.trans (List.suffix_append gap text).isInfix

theorem isInfix_piece {piece : Piece} (fits : piece.MayPrecede text)
    (inside : part <:+: piece.spelling ++ text) : part <:+: piece.core ∨ part <:+: text := by
  have letters := isWordChar_of_isWord isWord
  cases piece with
  | word name =>
    cases text with
    | nil =>
      rw [List.append_nil] at inside
      exact .inl inside
    | cons c text =>
      have free : c ∉ part := by
        intro member
        have letter := letters c member
        rw [fits c rfl] at letter
        contradiction
      rcases isInfix_split free inside with before | behind
      · exact .inl before
      · exact .inr (List.infix_cons behind)
  | mark symbol =>
    have lone : ∀ c ∈ [symbol.char], isWordChar c = false :=
      List.forall_mem_singleton.mpr (isWordChar_symbol symbol)
    exact .inr (isInfix_gap isWord lone inside)
  | text content =>
    have unquoted : '"' ∉ part := by
      intro member
      have letter := letters _ member
      rw [isWordChar_quote] at letter
      contradiction
    have opened : part <:+: ['"'] ++ (content.toList ++ '"' :: text) := by
      simpa [Piece.spelling] using inside
    have quote : ∀ c ∈ ['"'], isWordChar c = false := List.forall_mem_singleton.mpr isWordChar_quote
    exact isInfix_split unquoted (isInfix_gap isWord quote opened)

theorem isInfix_row {row : Row} {rest : List Char} (spaced : Spaced row text rest)
    (ended : rest = []) (inside : part <:+: text) : ∃ spaced ∈ row, part <:+: spaced.2.core := by
  induction spaced with
  | nil =>
    subst ended
    obtain ⟨c, others, rfl, _⟩ := isWord_cons isWord
    exact absurd (List.infix_nil.mp inside) (List.cons_ne_nil c others)
  | @cons space piece row gap text rest fits mayPrecede _ ih =>
    have behind := isInfix_gap isWord fits.blank.notWordChar inside
    rcases isInfix_piece isWord mayPrecede behind with here | later
    · exact ⟨(space, piece), List.mem_cons_self, here⟩
    · obtain ⟨other, member, inOther⟩ := ih ended later
      exact ⟨other, List.mem_cons_of_mem _ member, inOther⟩

/-- A word occurs in a laid out text just where it occurs in one of the pieces. -/
theorem occursIn_row {row : Row} (spaced : Spaced row text []) :
    occursIn part text = true ↔ ∃ spaced ∈ row, part <:+: spaced.2.core := by
  rw [occursIn_iff]
  constructor
  · exact isInfix_row isWord spaced rfl
  · intro occurs
    obtain ⟨⟨space, piece⟩, member, inside⟩ := occurs
    exact inside.trans (piece.core_isInfix.trans (spaced.piece_isInfix member))

end Infix

end Blueprint
