import Blueprint.Text.CharClass

/-!
The character classes do not meet: no character is both a letter and a digit, and no blank belongs
to a word or a number. Each class is a rule on ASCII and a table of ranges beyond, so two classes are
apart when their rules are apart and their tables are.
-/
set_option autoImplicit false

namespace Blueprint.Text

/-- No range of one table meets a range of another. -/
def rangesApart (ranges others : List (Nat × Nat)) : Bool :=
  ranges.all fun range => others.all fun other => range.2 < other.1 || other.2 < range.1

/-- No ASCII character obeys both rules. -/
def rulesApart (rule other : Char → Bool) : Bool :=
  (List.range 0x80).all fun code => !(rule (Char.ofNat code) && other (Char.ofNat code))

theorem not_inRanges_of_apart {ranges others : List (Nat × Nat)} {code : Nat}
    (apart : rangesApart ranges others = true) (member : inRanges ranges code = true) :
    inRanges others code = false := by
  simp only [inRanges, List.any_eq_true, Bool.and_eq_true, decide_eq_true_eq] at member
  obtain ⟨range, inTable, lower, upper⟩ := member
  simp only [rangesApart, List.all_eq_true] at apart
  simp only [inRanges, List.any_eq_false, Bool.and_eq_true, decide_eq_true_eq, not_and]
  intro other inOther reached
  have separate := apart range inTable other inOther
  simp only [Bool.or_eq_true, decide_eq_true_eq] at separate
  omega

theorem not_inClass_of_apart {rule other : Char → Bool} {ranges others : List (Nat × Nat)} {c : Char}
    (rules : rulesApart rule other = true) (tables : rangesApart ranges others = true)
    (member : inClass rule ranges c = true) : inClass other others c = false := by
  unfold inClass at member ⊢
  by_cases ascii : c.toNat < 0x80
  · rw [if_pos ascii] at member ⊢
    have separate := List.all_eq_true.mp rules c.toNat (List.mem_range.mpr ascii)
    rw [Char.ofNat_toNat, member] at separate
    simpa using separate
  · rw [if_neg ascii] at member ⊢
    exact not_inRanges_of_apart tables member

theorem not_isLetter_of_isDigit {c : Char} (digit : isDigit c = true) : isLetter c = false :=
  not_inClass_of_apart (by decide +kernel) (by decide +kernel) digit

theorem not_isBlank_of_isDigit {c : Char} (digit : isDigit c = true) : isBlank c = false :=
  not_inClass_of_apart (by decide +kernel) (by decide +kernel) digit

theorem not_isBlank_of_isLetter {c : Char} (letter : isLetter c = true) : isBlank c = false :=
  not_inClass_of_apart (by decide +kernel) (by decide +kernel) letter

theorem not_isDigit_of_isWordStart {c : Char} (start : isWordStart c = true) : isDigit c = false := by
  simp only [isWordStart, Bool.or_eq_true, beq_iff_eq] at start
  rcases start with rfl | letter
  · decide
  · cases digit : isDigit c with
    | false => rfl
    | true => rw [not_isLetter_of_isDigit digit] at letter; contradiction

theorem not_isBlank_of_isWordStart {c : Char} (start : isWordStart c = true) : isBlank c = false := by
  simp only [isWordStart, Bool.or_eq_true, beq_iff_eq] at start
  rcases start with rfl | letter
  · decide
  · exact not_isBlank_of_isLetter letter

theorem not_isBlank_of_numeric {c : Char} (numeric : inClass Char.isDigit numericRanges c = true) :
    isBlank c = false :=
  not_inClass_of_apart (by decide +kernel) (by decide +kernel) numeric

theorem not_isBlank_of_isWordChar {c : Char} (member : isWordChar c = true) : isBlank c = false := by
  simp only [isWordChar, Bool.or_eq_true, beq_iff_eq] at member
  rcases member with (rfl | letter) | numeric
  · decide
  · exact not_isBlank_of_isLetter letter
  · exact not_isBlank_of_numeric numeric

end Blueprint.Text
