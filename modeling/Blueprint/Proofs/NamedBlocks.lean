import Mathlib
import Blueprint.Extraction
import Blueprint.Proofs.Fragments
import Blueprint.Proofs.Scanning

/-!
Named blocks in a text, by the characters that lay them out. A block has one closing brace, at its
end, so that none reaches beyond a closing brace behind which it does not begin; what is extracted
from two texts, of which the first ends at a closing brace, is extracted from each of them.
-/
set_option autoImplicit false

namespace Blueprint

open Text Extraction

/-! ## Blocks as they are laid out -/

/-- A block by its characters: a keyword, blanks, a name of word characters, a brace, and all up to
the first closing brace. -/
inductive LaidBlock (keyword : String) : NamedBlock → Prop where
  | block {gap run gap' body : List Char} (blank : Blank gap) (apart : gap ≠ [])
    (letters : ∀ c ∈ run, isWordChar c = true) (some : run ≠ []) (blank' : Blank gap')
    (closed : '\x7d' ∉ body) :
    LaidBlock keyword ⟨String.ofList run, body,
      keyword.toList ++ (gap ++ (run ++ (gap' ++ '\x7b' :: (body ++ ['\x7d']))))⟩

/-- What is read as a block is one, outside of any word, and every one is read. -/
theorem namedBlock_eq_some_iff {keyword : String} {insideWord : Bool} {text rest : List Char}
    {block : NamedBlock} : namedBlock keyword insideWord text = some (block, rest) ↔
      insideWord = false ∧ LaidBlock keyword block ∧ text = block.whole ++ rest := by
  have taken (front : List Char) : (front ++ rest).take ((front ++ rest).length - rest.length) =
      front := by simp
  cases insideWord with
  | true => simp [namedBlock, failure]
  | false =>
    simp only [namedBlock, Bool.false_eq_true, if_false, Option.bind_eq_bind,
      Option.bind_eq_some_iff, true_and]
    constructor
    · rintro ⟨_, literal, _, blanks, ⟨run, _⟩, named, _, brace, ⟨body, behind⟩, closed, same⟩
      obtain rfl := afterLiteral?_eq_some literal
      obtain ⟨gap, blank, apart, rfl⟩ := afterSomeBlanks?_eq_some blanks
      obtain ⟨rfl, some, letters, _⟩ := word?_eq_some_iff.mp named
      obtain ⟨gap', blank', rfl⟩ := afterMark?_eq_some brace
      obtain ⟨rfl, free⟩ := upTo?_eq_some closed
      obtain ⟨rfl, rfl⟩ := Prod.mk.inj (Option.some.inj same)
      have whole : keyword.toList ++ (gap ++ (run ++ (gap' ++ '\x7b' :: (body ++ '\x7d' :: behind)))) =
          keyword.toList ++ (gap ++ (run ++ (gap' ++ '\x7b' :: (body ++ ['\x7d'])))) ++ behind := by simp
      rw [whole, taken]
      exact ⟨.block blank apart letters some blank' free, rfl⟩
    · rintro ⟨@⟨gap, run, gap', body, blank, apart, letters, some, blank', free⟩, rfl⟩
      have inner : (body ++ ['\x7d']) ++ rest = body ++ '\x7d' :: rest := by simp
      refine ⟨_, ?_, _, afterSomeBlanks?_gap blank apart (begins_run some letters _), (run, _),
        word?_eq_some_iff.mpr ⟨rfl, some, letters, blank'.wordEnds (by decide) _⟩, _,
        afterMark?_gap (by decide) blank' _, (body, rest), upTo?_append free rest, ?_⟩
      · rw [← inner, ← afterLiteral?_append keyword]
        simp
      · rw [taken]
        rfl

section Closed

variable {keyword : String} {insideWord : Bool} {block : NamedBlock} {text : List Char} {c : Char}

/-- The only closing brace of a block is its last character. -/
theorem LaidBlock.closing (laid : LaidBlock keyword block) (isWord : IsWord keyword.toList) :
    ∃ front, block.whole = front ++ ['\x7d'] ∧ '\x7d' ∉ front := by
  obtain @⟨gap, run, gap', body, blank, _, letters, _, blank', closed⟩ := laid
  refine ⟨keyword.toList ++ (gap ++ (run ++ (gap' ++ '\x7b' :: body))), by simp, ?_⟩
  have inKeyword : '\x7d' ∉ keyword.toList :=
    fun member => absurd (isWordChar_of_isWord isWord _ member) (by decide)
  have inGap : '\x7d' ∉ gap := fun member => absurd (blank _ member) (by decide)
  have inRun : '\x7d' ∉ run := fun member => absurd (letters _ member) (by decide)
  have inGap' : '\x7d' ∉ gap' := fun member => absurd (blank' _ member) (by decide)
  simp [inKeyword, inGap, inRun, inGap', closed]

/-- No block begins at a character that is not one of a word. -/
theorem namedBlock_silent (isWord : IsWord keyword.toList) (notLetter : isWordChar c = false) :
    namedBlock keyword insideWord (c :: text) = none := by
  cases read : namedBlock keyword insideWord (c :: text) with
  | none => rfl
  | some answer =>
    obtain ⟨block, rest⟩ := answer
    obtain ⟨_, laid, whole⟩ := namedBlock_eq_some_iff.mp read
    obtain ⟨d, others, letters, letter⟩ := isWord_cons isWord
    cases laid
    rw [letters] at whole
    obtain ⟨rfl, _⟩ := List.cons.inj whole
    rw [letter] at notLetter
    contradiction

/-- What is read at the start of a text with a closing brace lies within it, whatever stands behind
it. -/
theorem namedBlock_append (isWord : IsWord keyword.toList) (closed : '\x7d' ∈ text)
    (more : List Char) : namedBlock keyword insideWord (text ++ more) =
      (namedBlock keyword insideWord text).map fun answer => (answer.1, answer.2 ++ more) := by
  cases read : namedBlock keyword insideWord text with
  | some answer =>
    obtain ⟨outside, laid, rfl⟩ := namedBlock_eq_some_iff.mp read
    exact namedBlock_eq_some_iff.mpr ⟨outside, laid, List.append_assoc _ _ _⟩
  | none =>
    cases longer : namedBlock keyword insideWord (text ++ more) with
    | none => rfl
    | some answer =>
      obtain ⟨outside, laid, whole⟩ := namedBlock_eq_some_iff.mp longer
      obtain ⟨front, ends, free⟩ := laid.closing isWord
      obtain ⟨front', behind, rfl, free'⟩ := List.eq_append_cons_of_mem closed
      -- both end at the first closing brace, the block and the front of the text
      have first := upTo?_append free answer.2
      have first' := upTo?_append free' (behind ++ more)
      rw [ends, List.append_assoc, List.append_assoc] at whole
      change front' ++ '\x7d' :: (behind ++ more) = front ++ '\x7d' :: answer.2 at whole
      rw [whole, first] at first'
      obtain ⟨rfl, _⟩ := Prod.mk.inj (Option.some.inj first')
      have within : front ++ '\x7d' :: behind = answer.1.whole ++ behind := by simp [ends]
      rw [namedBlock_eq_some_iff.mpr ⟨outside, laid, within⟩] at read
      contradiction

end Closed

/-! ## Texts behind each other -/

/-- Where no answer in the front of a text depends on what is behind it, the answers behind it are
those of a text on its own. -/
theorem matchesFrom_append {α : Type} {read : WordReader α} {front more : List Char}
    (within : ∀ before c after, front = before ++ c :: after → ∀ insideWord,
      read insideWord (c :: (after ++ more)) =
        (read insideWord (c :: after)).map fun answer => (answer.1, answer.2 ++ more))
    (insideWord : Bool) {taken : Nat} (bound : taken ≤ front.length) :
    matchesFrom read insideWord taken (front ++ more) =
      matchesFrom read insideWord taken front ++
        matchesFrom read (endsInWord insideWord front) 0 more := by
  induction front generalizing insideWord taken with
  | nil =>
    obtain rfl : taken = 0 := Nat.le_zero.mp bound
    rfl
  | cons c front ih =>
    have later (insideWord : Bool) {taken : Nat} := @ih
      (fun before d after whole => within (c :: before) d after (congrArg (c :: ·) whole))
      insideWord taken
    cases taken with
    | succ taken => exact later (isWordChar c) (Nat.le_of_succ_le_succ bound)
    | zero =>
      have here := within [] c front rfl insideWord
      rw [List.cons_append, matchesFrom, here, matchesFrom]
      cases read insideWord (c :: front) with
      | none => exact later (isWordChar c) (Nat.zero_le _)
      | some answer =>
        have taken : (front ++ more).length - (answer.2 ++ more).length =
            front.length - answer.2.length := by
          rw [List.length_append, List.length_append]
          omega
        simp only [Option.map_some, taken, List.cons_append]
        exact congrArg (answer.1 :: ·) (later (isWordChar c) (Nat.sub_le _ _))

/-- Reading blocks begins anew behind a closing brace and a line break. -/
theorem allMatches_closed {keyword : String} (isWord : IsWord keyword.toList)
    (front second : List Char) :
    allMatches (namedBlock keyword) (front ++ ['\x7d', '\n'] ++ second) =
      allMatches (namedBlock keyword) (front ++ ['\x7d', '\n']) ++
        allMatches (namedBlock keyword) second := by
  have atBrace : ∀ before c after, front ++ ['\x7d'] = before ++ c :: after →
      '\x7d' ∈ c :: after := by
    intro before c after whole
    have last := congrArg List.getLast? whole
    rw [List.getLast?_append, List.getLast?_append_of_ne_nil _ (List.cons_ne_nil c after)] at last
    exact List.mem_of_getLast? last.symm
  have beyond (more : List Char) := @matchesFrom_append _ (namedBlock keyword) (front ++ ['\x7d'])
    ('\n' :: more) (fun before c after whole _ =>
      namedBlock_append isWord (atBrace before c after whole) _) false 0 (Nat.zero_le _)
  have lineBreak (more : List Char) : matchesFrom (namedBlock keyword) false 0 ('\n' :: more) =
      matchesFrom (namedBlock keyword) false 0 more :=
    matchesFrom_none (namedBlock_silent isWord (by decide))
  have notInside : endsInWord false (front ++ ['\x7d']) = false := endsInWord_append _ _ _
  simp only [notInside, lineBreak] at beyond
  have whole (more : List Char) : front ++ ['\x7d', '\n'] ++ more =
      front ++ ['\x7d'] ++ '\n' :: more := by simp
  have alone := whole []
  rw [List.append_nil] at alone
  unfold allMatches
  rw [whole, alone, beyond, beyond, matchesFrom, List.append_nil]

/-- The extraction composes: of two texts behind each other, it finds the models and the screens of
the first and then those of the second, if the first is empty or ends with a closing brace and a line
break. -/
theorem extraction_composes {first second : String}
    (closed : first = "" ∨ ∃ front, first = front ++ "\x7d\n") :
    modelsOf (first ++ second) = modelsOf first ++ modelsOf second ∧
      screensOf (first ++ second) = screensOf first ++ screensOf second := by
  have blocks {keyword : String} (isWord : IsWord keyword.toList) :
      allMatches (namedBlock keyword) (first ++ second).toList =
        allMatches (namedBlock keyword) first.toList ++
          allMatches (namedBlock keyword) second.toList := by
    rw [String.toList_append]
    rcases closed with rfl | ⟨front, rfl⟩
    · rfl
    · rw [String.toList_append]
      exact allMatches_closed isWord front.toList second.toList
  unfold modelsOf screensOf
  rw [blocks (by decide), blocks (by decide), List.map_append, List.map_append]
  exact ⟨rfl, rfl⟩

/-- A text that ends at a closing brace, with a screen in it that has no opening one. -/
def cutShort : String := "model A \x7b screen B \x7d\n"

/-- A text that begins with a body, as if a head stood before it. -/
def headless : String := "\x7b \x7d model C \x7b \x7d screen D \x7b \x7d"

/-- The head at the end of one text does not take the body at the start of the other. -/
theorem extraction_composes_cutShort :
    (modelsOf (cutShort ++ headless) = modelsOf cutShort ++ modelsOf headless ∧
        screensOf (cutShort ++ headless) = screensOf cutShort ++ screensOf headless) ∧
      (modelsOf cutShort).map Model.name = ["A"] ∧ (modelsOf headless).map Model.name = ["C"] ∧
      (screensOf cutShort).map Screen.name = [] ∧ (screensOf headless).map Screen.name = ["D"] := by
  have closed : cutShort = "model A \x7b screen B " ++ "\x7d\n" := by decide
  refine ⟨extraction_composes (.inr ⟨_, closed⟩), ?_, ?_, ?_, ?_⟩
  · cbv
  · cbv
  · cbv
  · cbv

end Blueprint
