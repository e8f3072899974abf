import Blueprint.Proofs.Spacing
import Blueprint.Text.Scan
import Blueprint.Text.Trim

/-!
Readers that are tried at one place of a laid out text after another. `Finds` says which answers a
reader gives on the layout of a row, from left to right; rows that hold nothing for it are passed over,
and rows with answers compose.
-/
set_option autoImplicit false

namespace Blueprint

open Text

variable {α β : Type}

/-! ## Words and marks in a text -/

theorem isWordChar_symbol (symbol : Symbol) : isWordChar symbol.char = false := by
  cases symbol <;> decide

theorem isWordChar_quote : isWordChar '"' = false := by decide

/-- A run of word characters is as long as it can be, so that a text has only one at its start. -/
theorem word_unique {run run' rest rest' : List Char} (all : ∀ c ∈ run, isWordChar c = true)
    (all' : ∀ c ∈ run', isWordChar c = true) (ends : WordEnds rest) (ends' : WordEnds rest')
    (same : run ++ rest = run' ++ rest') : run = run' ∧ rest = rest' := by
  have runs : run = run' := by
    rw [← takeWhile_word all ends, same, takeWhile_word all' ends']
  subst runs
  exact ⟨rfl, List.append_cancel_left same⟩

/-- A mark that is not among the first characters lies beyond them. -/
theorem beyond {front more : List Char} {mark other : Char} {text rest : List Char}
    (same : text ++ other :: rest = front ++ mark :: more) (free : other ∉ front)
    (differs : other ≠ mark) : ∃ middle, text = front ++ mark :: middle := by
  induction front generalizing text with
  | nil =>
    cases text with
    | nil => exact absurd (List.cons.inj same).1 differs
    | cons c text =>
      rw [List.cons_append] at same
      obtain ⟨rfl, _⟩ := List.cons.inj same
      exact ⟨text, rfl⟩
  | cons d front ih =>
    simp only [List.mem_cons, not_or] at free
    cases text with
    | nil => exact absurd (List.cons.inj same).1 free.1
    | cons c text =>
      rw [List.cons_append, List.cons_append] at same
      obtain ⟨rfl, tails⟩ := List.cons.inj same
      obtain ⟨middle, rfl⟩ := ih tails free.2
      exact ⟨middle, rfl⟩

/-! ## Answers from left to right -/

/-- Whether the last of some characters is one of a word; if there are none, what was so before. -/
def endsInWord (earlier : Bool) (front : List Char) : Bool :=
  front.foldl (fun _ c => isWordChar c) earlier

theorem endsInWord_append (earlier : Bool) (front : List Char) (c : Char) :
    endsInWord earlier (front ++ [c]) = isWordChar c := by
  rw [endsInWord, List.foldl_append]
  rfl

theorem endsInWord_parts (earlier : Bool) (front more : List Char) :
    endsInWord earlier (front ++ more) = endsInWord (endsInWord earlier front) more :=
  List.foldl_append

/-- No word goes on where a text is entered. -/
def Fresh (insideWord : Bool) (text : List Char) : Prop := insideWord = true → WordEnds text

theorem fresh_false (text : List Char) : Fresh false text := by
  intro inside
  contradiction

theorem Fresh.eq_false {insideWord : Bool} {c : Char} {text : List Char}
    (fresh : Fresh insideWord (c :: text)) (member : isWordChar c = true) : insideWord = false := by
  cases insideWord with
  | false => rfl
  | true =>
    have ends := fresh rfl c rfl
    rw [member] at ends
    contradiction

section Matches

variable {read : WordReader α} {insideWord : Bool} {front text : List Char}

theorem matchesFrom_taken (read : WordReader α) (insideWord : Bool) (front text : List Char) :
    matchesFrom read insideWord front.length (front ++ text) =
      matchesFrom read (endsInWord insideWord front) 0 text := by
  induction front generalizing insideWord with
  | nil => rfl
  | cons c front ih => exact ih (isWordChar c)

theorem matchesFrom_none {c : Char} (silent : read insideWord (c :: text) = none) :
    matchesFrom read insideWord 0 (c :: text) = matchesFrom read (isWordChar c) 0 text := by
  rw [matchesFrom, silent]

/-- Characters at none of which there is an answer are passed over. -/
theorem matchesFrom_silent (silent : ∀ before c after, front = before ++ c :: after →
      read (endsInWord insideWord before) (c :: (after ++ text)) = none) :
    matchesFrom read insideWord 0 (front ++ text) =
      matchesFrom read (endsInWord insideWord front) 0 text := by
  induction front generalizing insideWord with
  | nil => rfl
  | cons c front ih =>
    have first : read insideWord (c :: (front ++ text)) = none := silent [] c front rfl
    rw [List.cons_append, matchesFrom_none first]
    apply ih
    intro before d after whole
    exact silent (c :: before) d after (congrArg (c :: ·) whole)

/-- After an answer, reading goes on behind what it takes. -/
theorem matchesFrom_found {answer : α} (some : front ≠ [])
    (found : read insideWord (front ++ text) = Option.some (answer, text)) :
    matchesFrom read insideWord 0 (front ++ text) =
      answer :: matchesFrom read (endsInWord insideWord front) 0 text := by
  cases front with
  | nil => contradiction
  | cons c front =>
    have taken : (front ++ text).length - text.length = front.length := by
      rw [List.length_append]
      omega
    rw [List.cons_append] at found ⊢
    rw [matchesFrom, found]
    simp only [taken, matchesFrom_taken]
    rfl

end Matches

/-! ## Readers that look for a keyword -/

/-- The reader answers only at a keyword, outside of any word, from which no quotation mark leads up
to an opening brace; and if it is so required, there are blanks in between. -/
structure AnswersAt (keyword : String) (spaced : Bool) (read : WordReader α) : Prop where
  isWord : IsWord keyword.toList
  answer : ∀ {insideWord : Bool} {text : List Char} {found : α × List Char},
    read insideWord text = some found → insideWord = false ∧ ∃ between more,
      text = keyword.toList ++ (between ++ '\x7b' :: more) ∧
        WordEnds (between ++ '\x7b' :: more) ∧ '"' ∉ between ∧
        (spaced = true → ∃ c ∈ between, isBlank c = true)

/-- A piece that holds nothing for such a reader. -/
def Piece.Quiet (keyword : String) (spaced : Bool) : Piece → Prop
  | .word name => name ≠ keyword
  | .mark _ => True
  | .text content => '\x7b' ∉ content.toList ∨
      (spaced = true ∧ ∀ c ∈ content.toList, isBlank c = false)

namespace AnswersAt

variable {keyword : String} {spaced insideWord : Bool} {read : WordReader α} {text : List Char}

theorem silent_of_not_wordChar (answers : AnswersAt keyword spaced read) {c : Char}
    (notMember : isWordChar c = false) : read insideWord (c :: text) = none := by
  cases found : read insideWord (c :: text) with
  | none => rfl
  | some result =>
    obtain ⟨_, between, more, whole, _⟩ := answers.answer found
    exact absurd whole (cons_ne_word answers.isWord notMember)

theorem silent_inside (answers : AnswersAt keyword spaced read) : read true text = none := by
  cases found : read true text with
  | none => rfl
  | some result =>
    obtain ⟨outside, _⟩ := answers.answer found
    contradiction

theorem silent_word (answers : AnswersAt keyword spaced read) {name : String}
    (isWord : IsWord name.toList) (differs : name ≠ keyword) (ends : WordEnds text)
    (insideWord : Bool) : read insideWord (name.toList ++ text) = none := by
  cases found : read insideWord (name.toList ++ text) with
  | none => rfl
  | some result =>
    obtain ⟨_, between, more, whole, ends', _⟩ := answers.answer found
    have same := (word_unique (isWordChar_of_isWord isWord)
      (isWordChar_of_isWord answers.isWord) ends ends' whole).1
    exact absurd (String.toList_inj.mp same) differs

theorem silent_content (answers : AnswersAt keyword spaced read) {content : String}
    (quiet : (Piece.text content).Quiet keyword spaced) {before after : List Char}
    (whole : content.toList = before ++ after) :
    read insideWord (after ++ '"' :: text) = none := by
  cases found : read insideWord (after ++ '"' :: text) with
  | none => rfl
  | some result =>
    obtain ⟨_, between, more, same, _, unquoted, blanks⟩ := answers.answer found
    have free : '"' ∉ keyword.toList ++ between := by
      intro member
      rcases List.mem_append.mp member with member | member
      · have letter := isWordChar_of_isWord answers.isWord _ member
        rw [isWordChar_quote] at letter
        contradiction
      · exact unquoted member
    rw [← List.append_assoc] at same
    -- without a quotation mark on the way, the brace belongs to the content
    obtain ⟨middle, rfl⟩ := beyond same free (by decide)
    rcases quiet with braceless | ⟨required, solid⟩
    · exact absurd (by simp [whole]) braceless
    · obtain ⟨c, member, blank⟩ := blanks required
      have notBlank := solid c (by simp [whole, member])
      rw [blank] at notBlank
      contradiction

theorem passes_gap (answers : AnswersAt keyword spaced read) {gap : List Char} (blank : Blank gap)
    (fresh : Fresh insideWord (gap ++ text)) : ∃ insideWord', Fresh insideWord' text ∧
      matchesFrom read insideWord 0 (gap ++ text) = matchesFrom read insideWord' 0 text := by
  induction gap generalizing insideWord with
  | nil => exact ⟨insideWord, fresh, rfl⟩
  | cons c gap ih =>
    have notMember := not_isWordChar_of_isBlank (blank c List.mem_cons_self)
    rw [List.cons_append, matchesFrom_none (answers.silent_of_not_wordChar notMember), notMember]
    exact ih (fun d member => blank d (List.mem_cons_of_mem c member)) (fresh_false _)

theorem passes_word (answers : AnswersAt keyword spaced read) {name : String}
    (isWord : IsWord name.toList) (differs : name ≠ keyword) (ends : WordEnds text)
    (insideWord : Bool) : matchesFrom read insideWord 0 (name.toList ++ text) =
      matchesFrom read (endsInWord insideWord name.toList) 0 text := by
  apply matchesFrom_silent
  intro before c after whole
  have letters := isWordChar_of_isWord isWord
  rw [whole] at letters
  -- at its start it is another word, and behind that a word goes on
  rcases List.eq_nil_or_concat before with rfl | ⟨earlier, d, rfl⟩
  · have silent := answers.silent_word isWord differs ends insideWord
    rwa [whole] at silent
  · have inside : isWordChar d = true := letters d (by simp)
    rw [List.concat_eq_append, endsInWord_append, inside]
    exact answers.silent_inside

theorem passes_text (answers : AnswersAt keyword spaced read) {content : String}
    (quiet : (Piece.text content).Quiet keyword spaced) (insideWord : Bool) :
    matchesFrom read insideWord 0 ((Piece.text content).spelling ++ text) =
      matchesFrom read false 0 text := by
  have contents : matchesFrom read false 0 (content.toList ++ '"' :: text) =
      matchesFrom read (endsInWord false content.toList) 0 ('"' :: text) :=
    matchesFrom_silent fun before c after whole => answers.silent_content quiet whole
  have whole : (Piece.text content).spelling ++ text =
      '"' :: (content.toList ++ '"' :: text) := by simp [Piece.spelling]
  have mark {insideWord : Bool} {rest : List Char} : matchesFrom read insideWord 0 ('"' :: rest) =
      matchesFrom read false 0 rest :=
    matchesFrom_none (answers.silent_of_not_wordChar isWordChar_quote)
  rw [whole, mark, contents, mark]

theorem passes_piece (answers : AnswersAt keyword spaced read) {piece : Piece}
    (readable : piece.Readable) (quiet : piece.Quiet keyword spaced)
    (fits : piece.MayPrecede text) (insideWord : Bool) : ∃ insideWord', Fresh insideWord' text ∧
      matchesFrom read insideWord 0 (piece.spelling ++ text) = matchesFrom read insideWord' 0 text := by
  cases piece with
  | word name => exact ⟨_, fun _ => fits, answers.passes_word readable quiet fits insideWord⟩
  | mark symbol =>
    have notMember := isWordChar_symbol symbol
    refine ⟨false, fresh_false _, ?_⟩
    rw [← notMember]
    exact matchesFrom_none (answers.silent_of_not_wordChar notMember)
  | text content => exact ⟨false, fresh_false _, answers.passes_text quiet insideWord⟩

/-- A reader comes through blanks to the keyword. -/
theorem matchesFrom_keyword (answers : AnswersAt keyword spaced read) {gap others : List Char}
    (blank : Blank gap) (fresh : Fresh insideWord (gap ++ (keyword.toList ++ others))) :
    matchesFrom read insideWord 0 (gap ++ (keyword.toList ++ others)) =
      matchesFrom read false 0 (keyword.toList ++ others) := by
  obtain ⟨c, letters, whole, letter⟩ := isWord_cons answers.isWord
  obtain ⟨inside, fresh', gaps⟩ := answers.passes_gap blank fresh
  have outside : inside = false := by
    rw [whole] at fresh'
    exact fresh'.eq_false letter
  rw [gaps, outside]

/-- An answer behind blanks, where the text goes on with the keyword. -/
theorem matchesFrom_gap (answers : AnswersAt keyword spaced read) {gap others : List Char}
    (blank : Blank gap) {answer : α}
    (found : read false (keyword.toList ++ others ++ text) = some (answer, text))
    (fresh : Fresh insideWord (gap ++ (keyword.toList ++ others ++ text))) :
    matchesFrom read insideWord 0 (gap ++ (keyword.toList ++ others ++ text)) =
      answer :: matchesFrom read (endsInWord false (keyword.toList ++ others)) 0 text := by
  obtain ⟨c, letters, whole, _⟩ := isWord_cons answers.isWord
  have some : keyword.toList ++ others ≠ [] := by simp [whole]
  rw [← matchesFrom_found some found]
  rw [List.append_assoc] at fresh ⊢
  exact answers.matchesFrom_keyword blank fresh

/-- The first answer behind blanks, wherever the reader stops. -/
theorem head?_matchesFrom (answers : AnswersAt keyword spaced read) {gap others after : List Char}
    (blank : Blank gap) {answer : α}
    (found : read false (keyword.toList ++ others) = some (answer, after))
    (fresh : Fresh insideWord (gap ++ (keyword.toList ++ others))) :
    (matchesFrom read insideWord 0 (gap ++ (keyword.toList ++ others))).head? = some answer := by
  obtain ⟨c, letters, whole, _⟩ := isWord_cons answers.isWord
  rw [answers.matchesFrom_keyword blank fresh]
  rw [whole, List.cons_append] at found ⊢
  rw [matchesFrom, found]
  rfl

/-- There is no answer in blanks at the end. -/
theorem matchesFrom_blank (answers : AnswersAt keyword spaced read) {last : List Char}
    (blank : Blank last) (insideWord : Bool) : matchesFrom read insideWord 0 last = [] := by
  induction last generalizing insideWord with
  | nil => rfl
  | cons c last ih =>
    have notMember := not_isWordChar_of_isBlank (blank c List.mem_cons_self)
    rw [matchesFrom_none (answers.silent_of_not_wordChar notMember)]
    exact ih (fun d member => blank d (List.mem_cons_of_mem c member)) _

end AnswersAt

/-! ## Rows -/

/-- On any layout of the row, the reader gives the answers, and goes on with the rest. -/
def Finds (read : WordReader α) (view : α → β) (row : Row) (answers : List β) : Prop :=
  ∀ insideWord text rest, Fresh insideWord text → Spaced row text rest →
    ∃ insideWord', Fresh insideWord' rest ∧ (matchesFrom read insideWord 0 text).map view =
      answers ++ (matchesFrom read insideWord' 0 rest).map view

namespace Finds

variable {read : WordReader α} {view : α → β} {row more : Row} {answers others : List β}

theorem append (first : Finds read view row answers) (second : Finds read view more others) :
    Finds read view (row ++ more) (answers ++ others) := by
  intro insideWord text rest fresh spaced
  obtain ⟨middle, before, after⟩ := Spaced.append_iff.mp spaced
  obtain ⟨insideWord', fresh', found⟩ := first insideWord text middle fresh before
  obtain ⟨insideWord'', fresh'', found'⟩ := second insideWord' middle rest fresh' after
  exact ⟨insideWord'', fresh'', by rw [found, found', List.append_assoc]⟩

theorem flatMap {γ : Type} {write : γ → Row} {answer : γ → β} {items : List γ}
    (each : ∀ item ∈ items, Finds read view (write item) [answer item]) :
    Finds read view (items.flatMap write) (items.map answer) := by
  induction items with
  | nil =>
    intro insideWord text rest fresh spaced
    cases spaced
    exact ⟨insideWord, fresh, rfl⟩
  | cons item items ih =>
    rw [List.flatMap_cons, List.map_cons]
    exact append (each item List.mem_cons_self)
      (ih fun other later => each other (List.mem_cons_of_mem item later))

theorem nothing {keyword : String} {spaced : Bool} (answersAt : AnswersAt keyword spaced read)
    (readable : row.Readable) (quiet : ∀ spacedPiece ∈ row, spacedPiece.2.Quiet keyword spaced) :
    Finds read view row [] := by
  intro insideWord text rest fresh spaced
  induction spaced generalizing insideWord with
  | nil => exact ⟨insideWord, fresh, rfl⟩
  | @cons space piece row gap text rest fits mayPrecede _ ih =>
    obtain ⟨middle, fresh', gaps⟩ := answersAt.passes_gap fits.blank fresh
    obtain ⟨middle', fresh'', pieces⟩ := answersAt.passes_piece (readable _ List.mem_cons_self)
      (quiet _ List.mem_cons_self) mayPrecede middle
    rw [gaps, pieces]
    exact ih (fun other later => readable other (List.mem_cons_of_mem _ later))
      (fun other later => quiet other (List.mem_cons_of_mem _ later)) _ fresh''

/-- The answers on a whole text that lays out the row. -/
theorem whole {keyword : String} {spaced : Bool} (answersAt : AnswersAt keyword spaced read)
    (finds : Finds read view row answers) {text last : List Char} (laid : Spaced row text last)
    (blank : Blank last) : (allMatches read text).map view = answers := by
  obtain ⟨insideWord, _, found⟩ := finds false text last (fresh_false text) laid
  rw [allMatches, found, answersAt.matchesFrom_blank blank, List.map_nil, List.append_nil]

end Finds

end Blueprint
