import Blueprint.Extraction
import Blueprint.Proofs.Fragments

/-!
Texts that are read line by line: blanks around a text, the lines of a text and the properties on
them, and rows that are laid out on one line.
-/
set_option autoImplicit false

namespace Blueprint

open Text Extraction

/-! ## Blanks around a text -/

/-- No blank stands at the end of the text. -/
def Ends (text : List Char) : Prop := ∀ c ∈ text.getLast?, isBlank c = false

theorem ends_concat (front : List Char) {c : Char} (notBlank : isBlank c = false) :
    Ends (front ++ [c]) := by
  intro d member
  obtain rfl : c = d := by simpa using member
  exact notBlank

theorem Ends.append {text : List Char} (ends : Ends text) (some : text ≠ []) (front : List Char) :
    Ends (front ++ text) := by
  intro c member
  rw [List.getLast?_append_of_ne_nil front some] at member
  exact ends c member

theorem Ends.behind {front text : List Char} (ends : Ends (front ++ text)) : Ends text := by
  intro c member
  refine ends c ?_
  rw [List.getLast?_append, show text.getLast? = some c from member]
  rfl

theorem dropEndWhile_gap (text : List Char) {gap : List Char} (blank : Blank gap) :
    dropEndWhile isBlank (text ++ gap) = dropEndWhile isBlank text := by
  have reversed : ∀ c ∈ gap.reverse, isBlank c = true :=
    fun c member => blank c (List.mem_reverse.mp member)
  rw [dropEndWhile, List.reverse_append, List.dropWhile_append_of_pos reversed]
  rfl

theorem trimChars_gap {gap : List Char} (blank : Blank gap) (text : List Char) :
    trimChars (gap ++ text) = trimChars text := by
  rw [trimChars, List.dropWhile_append_of_pos blank]
  rfl

theorem trimChars_gap_end {gap : List Char} (blank : Blank gap) (text : List Char) :
    trimChars (text ++ gap) = trimChars text := by
  by_cases all : Blank text
  · have nothing : trimChars gap = trimChars [] := by
      have same := trimChars_gap blank []
      rwa [List.append_nil] at same
    have nothing' : trimChars text = trimChars [] := by
      have same := trimChars_gap all []
      rwa [List.append_nil] at same
    rw [trimChars_gap all, nothing, nothing']
  · have remains : (text.dropWhile isBlank).isEmpty = false := by
      rw [List.isEmpty_eq_false_iff]
      intro none
      obtain ⟨gap, blanks, whole⟩ := gap_of_afterBlanks text
      rw [afterBlanks, none, List.append_nil] at whole
      exact all (whole ▸ blanks)
    rw [trimChars, List.dropWhile_append, remains]
    simp only [Bool.false_eq_true, if_false]
    exact dropEndWhile_gap _ blank

theorem trimChars_self {text : List Char} (begins : Begins text) (ends : Ends text) :
    trimChars text = text := by
  have front : text.dropWhile isBlank = text := by
    have after := afterBlanks_gap blank_nil begins
    exact after
  rw [trimChars, front]
  rcases List.eq_nil_or_concat text with rfl | ⟨others, c, rfl⟩
  · rfl
  · have notBlank : isBlank c = false := ends c (by simp)
    simp [dropEndWhile, notBlank]

theorem ends_dropEndWhile (text : List Char) : Ends (dropEndWhile isBlank text) := by
  intro c member
  rw [dropEndWhile, List.getLast?_reverse] at member
  have head := List.head?_dropWhile_not isBlank text.reverse
  rw [show (text.reverse.dropWhile isBlank).head? = some c from member] at head
  exact head

theorem begins_trimChars (text : List Char) : Begins (trimChars text) := by
  intro c member
  refine begins_afterBlanks text c ?_
  have front : trimChars text <+: afterBlanks text := by
    rw [trimChars, dropEndWhile, ← List.reverse_suffix, List.reverse_reverse]
    exact List.dropWhile_suffix isBlank
  obtain ⟨gap, whole⟩ := front
  rw [← whole, List.head?_append, show (trimChars text).head? = some c from member]
  rfl

/-- Only a text without blanks at its ends is left as it is. -/
theorem trimChars_eq_self_iff {text : List Char} :
    trimChars text = text ↔ Begins text ∧ Ends text := by
  constructor
  · intro same
    rw [← same]
    exact ⟨begins_trimChars text, ends_dropEndWhile _⟩
  · rintro ⟨begins, ends⟩
    exact trimChars_self begins ends

/-! ## Lines -/

theorem splitChars_ne_nil (separator : Char) (text : List Char) : splitChars separator text ≠ [] := by
  induction text with
  | nil => simp [splitChars]
  | cons c text ih =>
    rw [splitChars]
    split
    · simp
    · split <;> simp

theorem splitChars_cons {separator c : Char} (differs : c ≠ separator) (text : List Char) :
    ∃ piece pieces, splitChars separator text = piece :: pieces ∧
      splitChars separator (c :: text) = (c :: piece) :: pieces := by
  cases known : splitChars separator text with
  | nil => exact absurd known (splitChars_ne_nil separator text)
  | cons piece pieces =>
    refine ⟨piece, pieces, rfl, ?_⟩
    rw [splitChars, if_neg (by simpa using differs), known]

theorem splitChars_append (separator : Char) (front rest : List Char) :
    splitChars separator (front ++ separator :: rest) =
      splitChars separator front ++ splitChars separator rest := by
  induction front with
  | nil => simp [splitChars]
  | cons c front ih =>
    by_cases same : c = separator
    · subst same
      simp [splitChars, ih]
    · obtain ⟨piece, pieces, known, whole⟩ := splitChars_cons same front
      obtain ⟨piece', pieces', known', whole'⟩ := splitChars_cons same (front ++ separator :: rest)
      rw [ih, known, List.cons_append] at known'
      obtain ⟨rfl, rfl⟩ := List.cons.inj known'
      rw [List.cons_append, whole', whole, List.cons_append]

theorem splitChars_free {separator : Char} {text : List Char} (free : separator ∉ text) :
    splitChars separator text = [text] := by
  induction text with
  | nil => rfl
  | cons c text ih =>
    simp only [List.mem_cons, not_or] at free
    obtain ⟨piece, pieces, known, whole⟩ := splitChars_cons (Ne.symm free.1) text
    rw [ih free.2] at known
    obtain ⟨rfl, rfl⟩ := List.cons.inj known
    exact whole

/-- The properties on the lines of a text. -/
def propertiesOf (text : List Char) : List Property :=
  (splitChars '\n' text).filterMap lineProperty?

theorem lineProperty?_congr {line line' : List Char} (same : trimChars line = trimChars line') :
    lineProperty? line = lineProperty? line' := by
  rw [lineProperty?, same]
  rfl

theorem lineProperty?_nil : lineProperty? [] = none := rfl

theorem propertiesOf_append (front rest : List Char) :
    propertiesOf (front ++ '\n' :: rest) = propertiesOf front ++ propertiesOf rest := by
  rw [propertiesOf, splitChars_append, List.filterMap_append]
  rfl

theorem propertiesOf_free {line : List Char} (free : '\n' ∉ line) :
    propertiesOf line = (lineProperty? line).toList := by
  rw [propertiesOf, splitChars_free free]
  cases found : lineProperty? line <;> simp [found]

/-- Blanks before a text do not matter. -/
theorem propertiesOf_gap {gap : List Char} (blank : Blank gap) (text : List Char) :
    propertiesOf (gap ++ text) = propertiesOf text := by
  induction gap with
  | nil => rfl
  | cons c gap ih =>
    rw [List.cons_append, ← ih fun d member => blank d (List.mem_cons_of_mem c member)]
    by_cases isBreak : c = '\n'
    · subst isBreak
      exact propertiesOf_append [] (gap ++ text)
    · obtain ⟨line, lines, known, whole⟩ := splitChars_cons isBreak (gap ++ text)
      have lone : Blank [c] := List.forall_mem_singleton.mpr (blank c List.mem_cons_self)
      have same : lineProperty? (c :: line) = lineProperty? line :=
        lineProperty?_congr (trimChars_gap lone line)
      rw [propertiesOf, propertiesOf, whole, known, List.filterMap_cons, List.filterMap_cons, same]

/-- A line that blanks with a line break follow. -/
theorem propertiesOf_line {line gap : List Char} (free : '\n' ∉ line) (blank : Blank gap)
    (breaks : '\n' ∈ gap) (text : List Char) : propertiesOf (line ++ (gap ++ text)) =
      (lineProperty? line).toList ++ propertiesOf text := by
  obtain ⟨before, after, rfl, first⟩ := List.eq_append_cons_of_mem breaks
  have blanks := List.forall_mem_append.mp blank
  have later : Blank after := fun c member => blanks.2 c (List.mem_cons_of_mem _ member)
  have oneLine : '\n' ∉ line ++ before := by
    intro member
    rcases List.mem_append.mp member with member | member
    · exact free member
    · exact first member
  have whole : line ++ (before ++ '\n' :: after ++ text) =
      (line ++ before) ++ '\n' :: (after ++ text) := by simp
  rw [whole, propertiesOf_append, propertiesOf_gap later, propertiesOf_free oneLine,
    lineProperty?_congr (trimChars_gap_end blanks.1 line)]

/-- A line that nothing but blanks follow. -/
theorem propertiesOf_lastLine {line gap : List Char} (free : '\n' ∉ line) (blank : Blank gap) :
    propertiesOf (line ++ gap) = (lineProperty? line).toList := by
  by_cases breaks : '\n' ∈ gap
  · have known := propertiesOf_line free blank breaks []
    rwa [List.append_nil, propertiesOf_free List.not_mem_nil, lineProperty?_nil, Option.toList_none,
      List.append_nil] at known
  · have oneLine : '\n' ∉ line ++ gap := by
      intro member
      rcases List.mem_append.mp member with member | member
      · exact free member
      · exact breaks member
    rw [propertiesOf_free oneLine, lineProperty?_congr (trimChars_gap_end blank line)]

/-! ## The pieces of a line -/

def Space.InLine : Space → Prop
  | .free | .newLine => False
  | .tight | .inLine | .apart => True

theorem Space.Fits.unbroken {space : Space} {gap : List Char} (fits : space.Fits gap)
    (inLine : space.InLine) : '\n' ∉ gap := by
  cases space with
  | free | newLine => exact inLine.elim
  | tight =>
    obtain rfl : gap = [] := fits
    exact List.not_mem_nil
  | inLine => exact fits.2
  | apart => exact fits.2.2

theorem Piece.unbroken {piece : Piece} (readable : piece.Readable) : '\n' ∉ piece.spelling := by
  cases piece with
  | word name =>
    intro member
    have letter := isWordChar_of_isWord readable _ member
    contradiction
  | mark symbol => cases symbol <;> decide
  | text content => simp [Piece.spelling, readable.2.2]

theorem Piece.spelling_ne_nil {piece : Piece} (readable : piece.Readable) : piece.spelling ≠ [] := by
  cases piece with
  | word name =>
    obtain ⟨c, others, letters, _⟩ := readable
    simp [Piece.spelling, letters]
  | mark symbol => exact List.cons_ne_nil _ _
  | text content => exact List.cons_ne_nil _ _

theorem Piece.ends {piece : Piece} (readable : piece.Readable) : Ends piece.spelling := by
  cases piece with
  | word name =>
    intro c member
    exact not_isBlank_of_isWordChar (isWordChar_of_isWord readable c (List.mem_of_getLast? member))
  | mark symbol =>
    have notBlank : isBlank symbol.char = false := by cases symbol <;> decide
    exact ends_concat [] notBlank
  | text content => exact ends_concat ('"' :: content.toList) (by decide)

theorem Spaced.unbroken {row : Row} {text : List Char} (spaced : Spaced row text [])
    (readable : row.Readable) (inLine : ∀ spaced ∈ row, spaced.1.InLine) : '\n' ∉ text := by
  generalize ended : ([] : List Char) = rest at spaced
  induction spaced with
  | nil =>
    rw [← ended]
    exact List.not_mem_nil
  | @cons space piece row gap text rest fits _ _ ih =>
    have tail := ih (fun other later => readable other (List.mem_cons_of_mem _ later))
      (fun other later => inLine other (List.mem_cons_of_mem _ later)) ended
    have first := fits.unbroken (inLine _ List.mem_cons_self)
    have second := Piece.unbroken (readable _ List.mem_cons_self)
    simp only [List.mem_append, not_or]
    exact ⟨first, second, tail⟩

theorem Spaced.ends {row : Row} {text : List Char} (spaced : Spaced row text [])
    (readable : row.Readable) : Ends text := by
  generalize ended : ([] : List Char) = rest at spaced
  induction spaced with
  | nil =>
    intro c member
    rw [← ended] at member
    contradiction
  | @cons space piece row gap text rest _ _ _ ih =>
    have isReadable := readable _ List.mem_cons_self
    have tail := ih (fun other later => readable other (List.mem_cons_of_mem _ later)) ended
    cases text with
    | nil =>
      rw [List.append_nil]
      exact (Piece.ends isReadable).append (Piece.spelling_ne_nil isReadable) gap
    | cons c text =>
      rw [← List.append_assoc]
      exact tail.append (List.cons_ne_nil c text) _

end Blueprint
