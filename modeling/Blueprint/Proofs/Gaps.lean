import Blueprint.Token.Lexer

/-!
What stands between two tokens: blanks, comments that run up to a line break, and comments between
marks. `splitGap_gap` says that the scanner passes over every gap, `gap_of_splitGap` that it passes
over nothing else, so that what it stops at begins a token or ends the source.
-/
set_option autoImplicit false

namespace Blueprint

open Text

def closingMark : List Char := ['*', '/']

/-- A gap that may stand before a token: every comment in it is closed. -/
inductive Gap : List Char → Prop where
  | empty : Gap []
  | blank {c : Char} {gap : List Char} (isBlank : isBlank c = true) (tail : Gap gap) :
    Gap (c :: gap)
  | lineComment {text gap : List Char} (oneLine : '\n' ∉ text) (tail : Gap gap) :
    Gap ('/' :: '/' :: (text ++ '\n' :: gap))
  | blockComment {text gap : List Char} (inside : ¬ closingMark <:+: text) (tail : Gap gap) :
    Gap ('/' :: '*' :: (text ++ '*' :: '/' :: gap))

/-- A gap whose last comment begins with a mark and is not closed. -/
def OpenBlock (gap : List Char) : Prop :=
  ∃ before text, Gap before ∧ ¬ closingMark <:+: text ∧ gap = before ++ '/' :: '*' :: text

/-- A gap that ends inside a comment of one line. -/
def OpenLine (gap : List Char) : Prop :=
  ∃ before text, Gap before ∧ '\n' ∉ text ∧ gap = before ++ '/' :: '/' :: text

/-- A gap that may end a source: its last comment need not be closed. -/
def LastGap (gap : List Char) : Prop :=
  Gap gap ∨ OpenLine gap ∨ OpenBlock gap

/-- A text begins a comment. -/
def StartsComment : List Char → Prop
  | '/' :: c :: _ => c = '/' ∨ c = '*'
  | _ => False

/-- A text at whose start no gap can be read: it is empty or begins a token. -/
def NoGap : List Char → Prop
  | [] => True
  | c :: rest => isBlank c = false ∧ ¬ StartsComment (c :: rest)

theorem Gap.append {gap more : List Char} (first : Gap gap) (second : Gap more) :
    Gap (gap ++ more) := by
  induction first with
  | empty => exact second
  | blank isBlank _ ih => exact .blank isBlank ih
  | lineComment oneLine _ ih =>
    simp only [List.cons_append, List.append_assoc]
    exact .lineComment oneLine ih
  | blockComment inside _ ih =>
    simp only [List.cons_append, List.append_assoc]
    exact .blockComment inside ih

theorem Gap.openBlock {gap more : List Char} (first : Gap gap) (second : OpenBlock more) :
    OpenBlock (gap ++ more) := by
  obtain ⟨before, text, closed, inside, rfl⟩ := second
  exact ⟨gap ++ before, text, first.append closed, inside, by simp⟩

theorem Gap.openLine {gap more : List Char} (first : Gap gap) (second : OpenLine more) :
    OpenLine (gap ++ more) := by
  obtain ⟨before, text, closed, oneLine, rfl⟩ := second
  exact ⟨gap ++ before, text, first.append closed, oneLine, by simp⟩

theorem Gap.lastGap {gap more : List Char} (first : Gap gap) (second : LastGap more) :
    LastGap (gap ++ more) := by
  rcases second with closed | openLine | openBlock
  · exact .inl (first.append closed)
  · exact .inr (.inl (first.openLine openLine))
  · exact .inr (.inr (first.openBlock openBlock))

/-! ## The scanner passes over every gap -/

/-- The split with some characters put in front of the gap. -/
def afterGap (gap : List Char) (split : List Char × List Char) : List Char × List Char :=
  (gap ++ split.1, split.2)

/-- Inside a comment up to the end of its line, a character that does not end it is passed. -/
theorem splitGap_line_cons {c : Char} (notBreak : c ≠ '\n') (rest : List Char) :
    splitGap .line (c :: rest) = afterGap [c] (splitGap .line rest) := by
  have other : (c == '\n') = false := beq_eq_false_iff_ne.mpr notBreak
  simp only [splitGap, other, Bool.false_eq_true, if_false, afterGap, List.singleton_append]

theorem splitGap_line {text : List Char} (oneLine : '\n' ∉ text) (rest : List Char) :
    splitGap .line (text ++ '\n' :: rest) = afterGap (text ++ ['\n']) (splitGap .blank rest) := by
  induction text with
  | nil => simp [splitGap, afterGap]
  | cons c text ih =>
    obtain ⟨notBreak, others⟩ := List.ne_and_not_mem_of_not_mem_cons oneLine
    rw [List.cons_append, splitGap_line_cons notBreak.symm, ih others]
    rfl

theorem splitGap_line_open {text : List Char} (oneLine : '\n' ∉ text) :
    splitGap .line text = (text, []) := by
  induction text with
  | nil => rfl
  | cons c text ih =>
    obtain ⟨notBreak, others⟩ := List.ne_and_not_mem_of_not_mem_cons oneLine
    rw [splitGap_line_cons notBreak.symm, ih others]
    rfl

theorem closingMark_infix_cons {c : Char} {text : List Char} (inside : ¬ closingMark <:+: c :: text) :
    ¬ closingMark <:+: text ∧ ¬ (c = '*' ∧ ∃ rest, text = '/' :: rest) := by
  constructor
  · exact fun found => inside (found.trans (List.suffix_cons c text).isInfix)
  · rintro ⟨rfl, rest, rfl⟩
    exact inside ⟨[], rest, rfl⟩

/-- Inside a comment with marks, a character that does not begin the closing mark is passed. -/
theorem splitGap_block_cons {c : Char} {rest : List Char}
    (noMark : ¬ (c = '*' ∧ ∃ more, rest = '/' :: more)) :
    splitGap .block (c :: rest) = afterGap [c] (splitGap .block rest) := by
  rw [splitGap.eq_def]
  split
  all_goals try contradiction
  · next more _ same =>
    simp only [List.cons.injEq] at same
    exact absurd ⟨same.1, more, same.2⟩ noMark
  · next d more _ _ same =>
    simp only [List.cons.injEq] at same
    obtain ⟨rfl, rfl⟩ := same
    rfl

theorem splitGap_block {text : List Char} (inside : ¬ closingMark <:+: text) (rest : List Char) :
    splitGap .block (text ++ '*' :: '/' :: rest) =
      afterGap (text ++ ['*', '/']) (splitGap .blank rest) := by
  induction text with
  | nil => simp [splitGap, afterGap]
  | cons c text ih =>
    obtain ⟨tail, noMark⟩ := closingMark_infix_cons inside
    have noMark : ¬ (c = '*' ∧ ∃ more, text ++ '*' :: '/' :: rest = '/' :: more) := by
      rintro ⟨rfl, more, same⟩
      cases text with
      | nil => simp at same
      | cons d text =>
        simp only [List.cons_append, List.cons.injEq] at same
        exact noMark ⟨rfl, text, by rw [same.1]⟩
    rw [List.cons_append, splitGap_block_cons noMark, ih tail]
    rfl

theorem splitGap_block_open {text : List Char} (inside : ¬ closingMark <:+: text) :
    splitGap .block text = (text, []) := by
  induction text with
  | nil => rfl
  | cons c text ih =>
    obtain ⟨tail, noMark⟩ := closingMark_infix_cons inside
    rw [splitGap_block_cons noMark, ih tail]
    rfl

theorem splitGap_blank {c : Char} (blank : isBlank c = true) (rest : List Char) :
    splitGap .blank (c :: rest) = afterGap [c] (splitGap .blank rest) := by
  have noSlash : c ≠ '/' := by
    rintro rfl
    revert blank
    decide
  rw [splitGap.eq_def]
  split <;> simp_all [afterGap]

/-- The scanner passes over a gap and goes on after it. -/
theorem splitGap_gap {gap : List Char} (isGap : Gap gap) (rest : List Char) :
    splitGap .blank (gap ++ rest) = afterGap gap (splitGap .blank rest) := by
  induction isGap with
  | empty => rfl
  | @blank c gap isBlank _ ih => rw [List.cons_append, splitGap_blank isBlank, ih]; rfl
  | @lineComment text gap oneLine _ ih =>
    simp only [List.cons_append, List.append_assoc, splitGap, splitGap_line oneLine, ih, afterGap,
      List.nil_append]
  | @blockComment text gap inside _ ih =>
    simp only [List.cons_append, List.append_assoc, splitGap, splitGap_block inside, ih, afterGap,
      List.nil_append]

/-- Where no gap starts, the scanner stays. -/
theorem splitGap_noGap {text : List Char} (noGap : NoGap text) : splitGap .blank text = ([], text) := by
  cases text with
  | nil => rfl
  | cons c rest =>
    obtain ⟨notBlank, noComment⟩ := noGap
    rw [splitGap.eq_def]
    split <;> simp_all [StartsComment]

/-- The scanner takes a gap that ends the source up to the end. -/
theorem splitGap_lastGap {gap : List Char} (isLast : LastGap gap) :
    splitGap .blank gap = (gap, []) := by
  rcases isLast with closed | ⟨before, text, closed, oneLine, rfl⟩ | ⟨before, text, closed, inside, rfl⟩
  · have whole := splitGap_gap closed []
    rw [List.append_nil] at whole
    rw [whole]
    simp [splitGap, afterGap]
  · rw [splitGap_gap closed]
    simp [splitGap, splitGap_line_open oneLine, afterGap]
  · rw [splitGap_gap closed]
    simp [splitGap, splitGap_block_open inside, afterGap]

/-! ## The scanner passes over nothing else -/

/-- A gap, or, where the source ends with it, the last one. -/
def GapBefore (rest gap : List Char) : Prop :=
  Gap gap ∨ rest = [] ∧ LastGap gap

/-- What the scanner has read when it started between comments or inside one. -/
def ReadFrom (rest : List Char) : GapMode → List Char → Prop
  | .blank, gap => GapBefore rest gap
  | .line, gap =>
    (∃ text more, '\n' ∉ text ∧ GapBefore rest more ∧ gap = text ++ '\n' :: more) ∨
      rest = [] ∧ '\n' ∉ gap
  | .block, gap =>
    (∃ text more, ¬ closingMark <:+: text ∧ GapBefore rest more ∧
      gap = text ++ '*' :: '/' :: more) ∨ rest = [] ∧ ¬ closingMark <:+: gap

theorem GapBefore.after {rest gap more : List Char} (first : Gap gap) (second : GapBefore rest more) :
    GapBefore rest (gap ++ more) := by
  rcases second with closed | ⟨atEnd, last⟩
  · exact .inl (first.append closed)
  · exact .inr ⟨atEnd, first.lastGap last⟩

theorem gapBefore_lineComment {rest gap : List Char} (read : ReadFrom rest .line gap) :
    GapBefore rest ('/' :: '/' :: gap) := by
  rcases read with ⟨text, more, oneLine, tail, rfl⟩ | ⟨atEnd, oneLine⟩
  · have comment : Gap ('/' :: '/' :: (text ++ ['\n'])) := .lineComment oneLine .empty
    have whole := GapBefore.after comment tail
    simpa using whole
  · exact .inr ⟨atEnd, .inr (.inl ⟨[], gap, .empty, oneLine, rfl⟩)⟩

theorem gapBefore_blockComment {rest gap : List Char} (read : ReadFrom rest .block gap) :
    GapBefore rest ('/' :: '*' :: gap) := by
  rcases read with ⟨text, more, inside, tail, rfl⟩ | ⟨atEnd, inside⟩
  · have comment : Gap ('/' :: '*' :: (text ++ ['*', '/'])) := .blockComment inside .empty
    have whole := GapBefore.after comment tail
    simpa using whole
  · exact .inr ⟨atEnd, .inr (.inr ⟨[], gap, .empty, inside, rfl⟩)⟩

theorem not_closingMark_infix_cons {c : Char} {text : List Char} (inside : ¬ closingMark <:+: text)
    (noMark : ∀ more, c = '*' → text = '/' :: more → False) : ¬ closingMark <:+: c :: text := by
  intro found
  rcases List.infix_cons_iff.mp found with starts | later
  · obtain ⟨more, same⟩ := starts
    simp only [closingMark, List.cons_append, List.nil_append, List.cons.injEq] at same
    exact noMark more same.1.symm same.2.symm
  · exact inside later

theorem ReadFrom.line_cons {c : Char} {rest gap : List Char} (notBreak : c ≠ '\n')
    (read : ReadFrom rest .line gap) : ReadFrom rest .line (c :: gap) := by
  rcases read with ⟨text, more, oneLine, tail, rfl⟩ | ⟨atEnd, oneLine⟩
  · exact .inl ⟨c :: text, more, by simp [oneLine, notBreak.symm], tail, rfl⟩
  · exact .inr ⟨atEnd, by simp [oneLine, notBreak.symm]⟩

theorem ReadFrom.block_cons {c : Char} {rest gap : List Char}
    (noMark : ∀ more, c = '*' → gap ++ rest = '/' :: more → False)
    (read : ReadFrom rest .block gap) : ReadFrom rest .block (c :: gap) := by
  rcases read with ⟨text, more, inside, tail, rfl⟩ | ⟨rfl, inside⟩
  · refine .inl ⟨c :: text, more, not_closingMark_infix_cons inside ?_, tail, rfl⟩
    rintro later isStar rfl
    exact noMark _ isStar rfl
  · rw [List.append_nil] at noMark
    exact .inr ⟨rfl, not_closingMark_infix_cons inside noMark⟩

theorem readFrom_splitGap (mode : GapMode) (text : List Char) :
    ReadFrom (splitGap mode text).2 mode (splitGap mode text).1 ∧ NoGap (splitGap mode text).2 := by
  fun_induction splitGap mode text with
  | case1 rest gap after call ih =>
    rw [call] at ih
    exact ⟨gapBefore_lineComment ih.1, ih.2⟩
  | case2 rest gap after call ih =>
    rw [call] at ih
    exact ⟨gapBefore_blockComment ih.1, ih.2⟩
  | case3 c rest _ _ blank gap after call ih =>
    rw [call] at ih
    exact ⟨GapBefore.after (.blank blank .empty) ih.1, ih.2⟩
  | case4 c rest noLine noBlock notBlank =>
    refine ⟨.inl .empty, by simpa using notBlank, ?_⟩
    intro starts
    unfold StartsComment at starts
    split at starts
    · next d more same =>
      simp only [List.cons.injEq] at same
      rcases starts with rfl | rfl
      · exact noLine more same.1 same.2
      · exact noBlock more same.1 same.2
    · exact starts
  | case5 c rest gap after call ih =>
    rw [call] at ih
    refine ⟨?_, ih.2⟩
    by_cases isBreak : c = '\n'
    · subst isBreak
      exact .inl ⟨[], gap, by simp, ih.1, rfl⟩
    · have stays : (c == '\n') = false := by simpa using isBreak
      rw [stays] at ih
      exact ih.1.line_cons isBreak
  | case6 rest gap after call ih =>
    rw [call] at ih
    exact ⟨.inl ⟨[], gap, by simp [closingMark], ih.1, rfl⟩, ih.2⟩
  | case7 c rest noMark gap after call ih =>
    have whole := splitGap_append .block rest
    rw [call] at ih whole
    exact ⟨ih.1.block_cons fun more isStar same => noMark more isStar (whole ▸ same), ih.2⟩
  | case8 mode =>
    refine ⟨?_, trivial⟩
    cases mode with
    | blank => exact .inl .empty
    | line => exact .inr ⟨rfl, by simp⟩
    | block => exact .inr ⟨rfl, by simp [closingMark]⟩

/-- The scanner reads a gap, and stops only where a token begins or the source ends. -/
theorem gap_of_splitGap (text : List Char) :
    GapBefore (splitGap .blank text).2 (splitGap .blank text).1 ∧ NoGap (splitGap .blank text).2 :=
  readFrom_splitGap .blank text

end Blueprint
