import Blueprint.Proofs.Spacing
import Blueprint.Text.Scan

/-!
What the readers of raw text take: each lemma on a laid out text says that a fragment is read as it
stands there, each lemma on an answer says which text there must have been.
-/
set_option autoImplicit false

namespace Blueprint

open Text

/-! ## Blanks -/

theorem Blank.notWordChar {gap : List Char} (blank : Blank gap) :
    ∀ c ∈ gap, isWordChar c = false :=
  fun c member => not_isWordChar_of_isBlank (blank c member)

theorem Blank.wordEnds {gap : List Char} (blank : Blank gap) {c : Char}
    (notLetter : isWordChar c = false) (rest : List Char) : WordEnds (gap ++ c :: rest) := by
  cases gap with
  | nil => exact wordEnds_cons notLetter rest
  | cons d gap => exact .ofBlank (blank d List.mem_cons_self) _

/-- No blank stands at the start of the text. -/
def Begins (text : List Char) : Prop := ∀ c ∈ text.head?, isBlank c = false

theorem begins_cons {c : Char} (notBlank : isBlank c = false) (rest : List Char) :
    Begins (c :: rest) := by
  intro d member
  obtain rfl : c = d := by simpa using member
  exact notBlank

theorem begins_word {text : List Char} (isWord : IsWord text) (rest : List Char) :
    Begins (text ++ rest) := by
  obtain ⟨c, others, rfl, start, _⟩ := isWord
  exact begins_cons (not_isBlank_of_isWordStart start) _

theorem afterBlanks_gap {gap rest : List Char} (blank : Blank gap) (begins : Begins rest) :
    afterBlanks (gap ++ rest) = rest := by
  rw [afterBlanks, List.dropWhile_append_of_pos blank]
  cases rest with
  | nil => rfl
  | cons c rest => simp [begins c rfl]

/-- The blanks that are passed over. -/
theorem gap_of_afterBlanks (text : List Char) : ∃ gap, Blank gap ∧ text = gap ++ afterBlanks text :=
  ⟨text.takeWhile isBlank, takeWhile_all isBlank text, (List.takeWhile_append_dropWhile).symm⟩

theorem begins_afterBlanks (text : List Char) : Begins (afterBlanks text) := by
  intro c member
  have head := List.head?_dropWhile_not isBlank text
  rw [show (text.dropWhile isBlank).head? = some c from member] at head
  exact head

theorem afterSomeBlanks?_gap {gap rest : List Char} (blank : Blank gap) (some : gap ≠ [])
    (begins : Begins rest) : afterSomeBlanks? (gap ++ rest) = Option.some rest := by
  cases gap with
  | nil => contradiction
  | cons c gap =>
    rw [List.cons_append, afterSomeBlanks?, if_pos (blank c List.mem_cons_self),
      afterBlanks_gap (fun d member => blank d (List.mem_cons_of_mem c member)) begins]

theorem afterSomeBlanks?_eq_some {text rest : List Char}
    (found : afterSomeBlanks? text = some rest) :
    ∃ gap, Blank gap ∧ gap ≠ [] ∧ text = gap ++ rest := by
  cases text with
  | nil => contradiction
  | cons c text =>
    rw [afterSomeBlanks?] at found
    split at found
    · next blank =>
      obtain rfl := Option.some.inj found
      obtain ⟨gap, blanks, whole⟩ := gap_of_afterBlanks text
      exact ⟨c :: gap, List.forall_mem_cons.mpr ⟨blank, blanks⟩, List.cons_ne_nil c gap,
        congrArg (c :: ·) whole⟩
    · contradiction

/-! ## Marks and literals -/

theorem afterMark?_gap {mark : Char} (notBlank : isBlank mark = false) {gap : List Char}
    (blank : Blank gap) (rest : List Char) : afterMark? mark (gap ++ mark :: rest) = some rest := by
  rw [afterMark?, afterBlanks_gap blank (begins_cons notBlank rest)]
  simp

theorem afterMark?_eq_some {mark : Char} {text rest : List Char}
    (found : afterMark? mark text = some rest) : ∃ gap, Blank gap ∧ text = gap ++ mark :: rest := by
  obtain ⟨gap, blank, whole⟩ := gap_of_afterBlanks text
  rw [afterMark?] at found
  cases after : afterBlanks text with
  | nil => simp [after] at found
  | cons c others =>
    simp only [after] at found
    split at found
    · next same =>
      obtain rfl := Option.some.inj found
      rw [beq_iff_eq] at same
      subst same
      rw [after] at whole
      exact ⟨gap, blank, whole⟩
    · contradiction

theorem afterLiteral?_append (literal : String) (rest : List Char) :
    afterLiteral? literal (literal.toList ++ rest) = some rest := by
  rw [afterLiteral?, List.isPrefixOf?_eq_some_iff_append_eq]

theorem afterLiteral?_eq_some {literal : String} {text rest : List Char}
    (found : afterLiteral? literal text = some rest) : text = literal.toList ++ rest := by
  rw [afterLiteral?, List.isPrefixOf?_eq_some_iff_append_eq] at found
  exact found.symm

theorem upTo?_append {mark : Char} {front : List Char} (free : mark ∉ front) (rest : List Char) :
    upTo? mark (front ++ mark :: rest) = some (front, rest) := by
  induction front with
  | nil => simp [upTo?]
  | cons c front ih =>
    simp only [List.mem_cons, not_or] at free
    rw [List.cons_append, upTo?, if_neg (by simpa using Ne.symm free.1), ih free.2]
    rfl

theorem upTo?_eq_some {mark : Char} {text front rest : List Char}
    (found : upTo? mark text = some (front, rest)) : text = front ++ mark :: rest ∧ mark ∉ front := by
  induction text generalizing front with
  | nil => contradiction
  | cons c text ih =>
    rw [upTo?] at found
    split at found
    · next same =>
      obtain ⟨rfl, rfl⟩ := Prod.mk.inj (Option.some.inj found)
      exact ⟨by rw [beq_iff_eq.mp same]; rfl, List.not_mem_nil⟩
    · next differs =>
      obtain ⟨⟨before, after⟩, later, same⟩ := Option.map_eq_some_iff.mp found
      obtain ⟨rfl, rfl⟩ := Prod.mk.inj same
      obtain ⟨rfl, free⟩ := ih later
      refine ⟨rfl, List.not_mem_cons_of_ne_of_not_mem ?_ free⟩
      exact Ne.symm (by simpa using differs)

/-- The text between a literal, if the text starts with it, and the next mark. -/
def between? (literal : String) (mark : Char) (text : List Char) : Option (List Char) := do
  let (inside, _) ← upTo? mark (← afterLiteral? literal text)
  return inside

theorem between?_append (literal : String) {mark : Char} {inside : List Char} (free : mark ∉ inside)
    (rest : List Char) :
    between? literal mark (literal.toList ++ (inside ++ mark :: rest)) = some inside := by
  simp [between?, afterLiteral?_append, upTo?_append free]

/-! ## Words and quotations -/

theorem word?_append {run rest : List Char} (isWord : IsWord run) (ends : WordEnds rest) :
    word? (run ++ rest) = some (run, rest) := by
  have letters := isWordChar_of_isWord isWord
  obtain ⟨c, others, rfl, _⟩ := isWord
  rw [word?, takeWhile_word letters ends, dropWhile_word letters ends]

theorem word?_eq_some {text run rest : List Char} (found : word? text = some (run, rest)) :
    text = run ++ rest ∧ ∀ c ∈ run, isWordChar c = true := by
  rw [word?] at found
  cases letters : text.takeWhile isWordChar with
  | nil => simp [letters] at found
  | cons c others =>
    simp only [letters, Option.some.injEq, Prod.mk.injEq] at found
    obtain ⟨rfl, rfl⟩ := found
    rw [← letters]
    exact ⟨(List.takeWhile_append_dropWhile).symm, takeWhile_all isWordChar text⟩

theorem word?_ne_nil {text run rest : List Char} (found : word? text = some (run, rest)) :
    run ≠ [] := by
  rintro rfl
  unfold word? at found
  split at found <;> simp_all

theorem wordEnds_dropWhile (text : List Char) : WordEnds (text.dropWhile isWordChar) := by
  intro c member
  have head := List.head?_dropWhile_not isWordChar text
  rw [show (text.dropWhile isWordChar).head? = some c from member] at head
  exact head

/-- What is read as a word is a run of word characters, all of it. -/
theorem word?_eq_some_iff {text run rest : List Char} : word? text = some (run, rest) ↔
    text = run ++ rest ∧ run ≠ [] ∧ (∀ c ∈ run, isWordChar c = true) ∧ WordEnds rest := by
  constructor
  · intro found
    obtain ⟨whole, letters⟩ := word?_eq_some found
    refine ⟨whole, word?_ne_nil found, letters, ?_⟩
    rw [word?] at found
    split at found
    · contradiction
    · obtain ⟨_, rfl⟩ := Prod.mk.inj (Option.some.inj found)
      exact wordEnds_dropWhile text
  · rintro ⟨rfl, some, letters, ends⟩
    obtain ⟨c, others, rfl⟩ := List.exists_cons_of_ne_nil some
    rw [word?, takeWhile_word letters ends, dropWhile_word letters ends]

theorem begins_run {run : List Char} (some : run ≠ []) (letters : ∀ c ∈ run, isWordChar c = true)
    (rest : List Char) : Begins (run ++ rest) := by
  obtain ⟨c, others, rfl⟩ := List.exists_cons_of_ne_nil some
  exact begins_cons (not_isBlank_of_isWordChar (letters c List.mem_cons_self)) _

theorem quotation?_gap {gap content : List Char} (blank : Blank gap) (free : '"' ∉ content)
    (rest : List Char) :
    quotation? (gap ++ '"' :: (content ++ '"' :: rest)) = some (content, rest) := by
  rw [quotation?, afterMark?_gap (by decide) blank, Option.bind_some, upTo?_append free]

theorem quotation?_eq_some {text content rest : List Char}
    (found : quotation? text = some (content, rest)) :
    ∃ gap, Blank gap ∧ '"' ∉ content ∧ text = gap ++ '"' :: (content ++ '"' :: rest) := by
  obtain ⟨opened, marked, closed⟩ := Option.bind_eq_some_iff.mp found
  obtain ⟨gap, blank, rfl⟩ := afterMark?_eq_some marked
  obtain ⟨rfl, free⟩ := upTo?_eq_some closed
  exact ⟨gap, blank, free, rfl⟩

end Blueprint
