import Blueprint.Proofs.CharClasses
import Blueprint.Proofs.Gaps

/-!
The spellings of tokens. `Spelled` says which characters spell a token of a kind and a value, given
the characters that follow: numbers and words are the longest of their class, a quotation mark opens
a text if reading escapes in pairs from it meets its partner, and is unknown otherwise.
`spelled_read` and `read_spelled` say that the reader of tokens obeys these rules and that the
rules leave it no choice.
-/
set_option autoImplicit false

namespace Blueprint

open Text

def IsDigits (text : List Char) : Prop :=
  text ≠ [] ∧ ∀ c ∈ text, isDigit c = true

/-- A decimal number: digits, a minus sign before them or not, a point and digits after them or not. -/
def IsNumber (text : List Char) : Prop :=
  ∃ sign whole fraction, text = sign ++ whole ++ fraction ∧ (sign = [] ∨ sign = ['-']) ∧
    IsDigits whole ∧ (fraction = [] ∨ ∃ digits, fraction = '.' :: digits ∧ IsDigits digits)

/-- A letter or an underscore, and any characters of words after it. -/
def IsWord (text : List Char) : Prop :=
  ∃ c rest, text = c :: rest ∧ isWordStart c = true ∧ ∀ d ∈ rest, isWordChar d = true

instance : DecidablePred IsWord := fun text =>
  match text with
  | [] => .isFalse fun ⟨_, _, same, _⟩ => List.cons_ne_nil _ _ same.symm
  | c :: rest =>
    decidable_of_iff (isWordStart c = true ∧ rest.all isWordChar = true)
      ⟨fun ⟨start, others⟩ => ⟨c, rest, rfl, start, List.all_eq_true.mp others⟩,
        fun ⟨_, _, same, start, others⟩ => by
          obtain ⟨rfl, rfl⟩ := List.cons.inj same
          exact ⟨start, List.all_eq_true.mpr others⟩⟩

theorem isWord_keyword (keyword : Keyword) : IsWord keyword.spelling.toList := by
  cases keyword <;> decide

/-- A text of a class such that no longer text of the class stands in its place. -/
def Longest (member : List Char → Prop) (text rest : List Char) : Prop :=
  member text ∧ ∀ other, other <+: text ++ rest → member other → other.length ≤ text.length

theorem Longest.unique {member : List Char → Prop} {text rest text' rest' : List Char}
    (first : Longest member text rest) (second : Longest member text' rest')
    (same : text ++ rest = text' ++ rest') : text = text' ∧ rest = rest' := by
  have shorter : text.length ≤ text'.length :=
    second.2 text (by rw [← same]; exact List.prefix_append ..) first.1
  have longer : text'.length ≤ text.length :=
    first.2 text' (by rw [same]; exact List.prefix_append ..) second.1
  exact List.append_inj same (Nat.le_antisymm shorter longer)

def IsQuote (mark : Char) : Prop :=
  mark = '"' ∨ mark = '\''

instance (mark : Char) : Decidable (IsQuote mark) :=
  inferInstanceAs (Decidable (mark = '"' ∨ mark = '\''))

/-- The characters between two quotation marks and the text that they stand for: a backslash and the
character after it are one pair, and outside of pairs there is no mark, no backslash and no line
break. -/
inductive Escaped (mark : Char) : List Char → List Char → Prop where
  | empty : Escaped mark [] []
  | plain {c : Char} {body content : List Char} (notMark : c ≠ mark) (notEscape : c ≠ '\\')
    (notBreak : c ≠ '\n') (tail : Escaped mark body content) :
    Escaped mark (c :: body) (c :: content)
  | pair {c : Char} {body content : List Char} (tail : Escaped mark body content) :
    Escaped mark ('\\' :: c :: body) (unescape c :: content)

/-- Reading escapes in pairs meets a line break outside of them, or the end of the source, before the
quotation mark. -/
inductive Unquoted (mark : Char) : List Char → Prop where
  | ended : Unquoted mark []
  | endedInPair : Unquoted mark ['\\']
  | broken {rest : List Char} : Unquoted mark ('\n' :: rest)
  | plain {c : Char} {rest : List Char} (notMark : c ≠ mark) (notEscape : c ≠ '\\')
    (notBreak : c ≠ '\n') (tail : Unquoted mark rest) : Unquoted mark (c :: rest)
  | pair {c : Char} {rest : List Char} (tail : Unquoted mark rest) :
    Unquoted mark ('\\' :: c :: rest)

/-- No token and no gap begins with a character, given what follows it. -/
def StartsNothing (c : Char) (rest : List Char) : Prop :=
  (∀ symbol : Symbol, symbol.char ≠ c) ∧ ¬ IsQuote c ∧
    (∀ text, text <+: c :: rest → ¬ IsNumber text ∧ ¬ IsWord text) ∧ NoGap (c :: rest)

/-- The characters that spell a token of a kind and a value where `rest` follows. -/
inductive Spelled (rest : List Char) : TokenKind → String → List Char → Prop where
  | symbol (mark : Symbol) :
    Spelled rest (.symbol mark) (String.ofList [mark.char]) [mark.char]
  | string {mark : Char} {body content : List Char} (quote : IsQuote mark)
    (escaped : Escaped mark body content) :
    Spelled rest .string (String.ofList content) (mark :: (body ++ [mark]))
  | number {text : List Char} (longest : Longest IsNumber text rest) :
    Spelled rest .number (String.ofList text) text
  | keyword (word : Keyword) (longest : Longest IsWord word.spelling.toList rest) :
    Spelled rest (.keyword word) word.spelling word.spelling.toList
  | identifier {text : List Char} (longest : Longest IsWord text rest)
    (free : ∀ word : Keyword, word.spelling ≠ String.ofList text) :
    Spelled rest .identifier (String.ofList text) text
  | openQuote {mark : Char} (quote : IsQuote mark) (unquoted : Unquoted mark rest) :
    Spelled rest .unknown (String.ofList [mark]) [mark]
  | unknown {c : Char} (nothing : StartsNothing c rest) :
    Spelled rest .unknown (String.ofList [c]) [c]

/-! ## Quoted texts -/

theorem IsQuote.ne_escape {mark : Char} (quote : IsQuote mark) : mark ≠ '\\' := by
  rcases quote with rfl | rfl <;> decide

theorem IsQuote.ne_break {mark : Char} (quote : IsQuote mark) : mark ≠ '\n' := by
  rcases quote with rfl | rfl <;> decide

theorem closeQuote?_plain {mark c : Char} (notMark : c ≠ mark) (notEscape : c ≠ '\\')
    (notBreak : c ≠ '\n') (rest : List Char) :
    closeQuote? mark (c :: rest) =
      (closeQuote? mark rest).map fun q => ⟨c :: q.spelling, c :: q.content, q.rest⟩ := by
  rw [closeQuote?.eq_def]
  split
  · contradiction
  · simp_all
  · simp_all
  · next d more _ _ same =>
    simp only [List.cons.injEq] at same
    obtain ⟨rfl, rfl⟩ := same
    simp [notMark, notBreak]

theorem closeQuote?_escaped {mark : Char} {body content : List Char} (quote : IsQuote mark)
    (escaped : Escaped mark body content) (rest : List Char) :
    closeQuote? mark (body ++ mark :: rest) = some ⟨body ++ [mark], content, rest⟩ := by
  induction escaped with
  | empty =>
    have notEscape := quote.ne_escape
    have notBreak := quote.ne_break
    rw [List.nil_append, closeQuote?.eq_def]
    split <;> simp_all
  | plain notMark notEscape notBreak _ ih =>
    rw [List.cons_append, closeQuote?_plain notMark notEscape notBreak, ih]
    rfl
  | pair _ ih => rw [List.cons_append, List.cons_append, closeQuote?, ih]; rfl

theorem closeQuote?_unquoted {mark : Char} {text : List Char} (unquoted : Unquoted mark text) :
    closeQuote? mark text = none := by
  induction unquoted with
  | ended => rfl
  | endedInPair => rfl
  | broken => simp [closeQuote?]
  | plain notMark notEscape notBreak _ ih =>
    rw [closeQuote?_plain notMark notEscape notBreak, ih]
    rfl
  | pair _ ih => rw [closeQuote?, ih]; rfl

/-- A character that is read alone is no backslash. -/
theorem ne_escape_of_alone {c : Char} {rest : List Char}
    (lone : c = '\\' → rest = [] → False)
    (paired : ∀ (d : Char) (more : List Char), c = '\\' → rest = d :: more → False) : c ≠ '\\' := by
  intro isEscape
  cases rest with
  | nil => exact lone isEscape rfl
  | cons d more => exact paired d more isEscape rfl

theorem escaped_of_closeQuote? {mark : Char} {text : List Char} {q : Quotation}
    (closed : closeQuote? mark text = some q) :
    ∃ body, q.spelling = body ++ [mark] ∧ Escaped mark body q.content := by
  fun_induction closeQuote? mark text generalizing q with
  | case1 => contradiction
  | case2 => contradiction
  | case3 c rest ih =>
    obtain ⟨inner, call, rfl⟩ := Option.map_eq_some_iff.mp closed
    obtain ⟨body, spelling, escaped⟩ := ih call
    exact ⟨'\\' :: c :: body, by simp [spelling], .pair escaped⟩
  | case4 => contradiction
  | case5 c rest _ _ _ isMark =>
    simp only [beq_iff_eq] at isMark
    subst isMark
    simp only [Option.some.injEq] at closed
    subst closed
    exact ⟨[], rfl, .empty⟩
  | case6 c rest lone paired notBreak notMark ih =>
    obtain ⟨inner, call, rfl⟩ := Option.map_eq_some_iff.mp closed
    obtain ⟨body, spelling, escaped⟩ := ih call
    have notEscape := ne_escape_of_alone lone paired
    simp only [beq_iff_eq] at notBreak notMark
    exact ⟨c :: body, by simp [spelling], .plain notMark notEscape notBreak escaped⟩

theorem unquoted_of_closeQuote? {mark : Char} {text : List Char}
    (isOpen : closeQuote? mark text = none) : Unquoted mark text := by
  fun_induction closeQuote? mark text with
  | case1 => exact .ended
  | case2 => exact .endedInPair
  | case3 c rest ih => exact .pair (ih (Option.map_eq_none_iff.mp isOpen))
  | case4 c rest _ _ isBreak =>
    simp only [beq_iff_eq] at isBreak
    subst isBreak
    exact .broken
  | case5 => contradiction
  | case6 c rest lone paired notBreak notMark ih =>
    have notEscape := ne_escape_of_alone lone paired
    simp only [beq_iff_eq] at notBreak notMark
    exact .plain notMark notEscape notBreak (ih (Option.map_eq_none_iff.mp isOpen))

/-! ## Numbers and words -/

theorem length_le_takeWhile {p : Char → Bool} {run text : List Char} (start : run <+: text)
    (all : ∀ c ∈ run, p c = true) : run.length ≤ (text.takeWhile p).length := by
  obtain ⟨more, rfl⟩ := start
  rw [List.takeWhile_append_of_pos all, List.length_append]
  omega

theorem takeWhile_all (p : Char → Bool) (text : List Char) : ∀ c ∈ text.takeWhile p, p c = true :=
  List.all_eq_true.mp List.all_takeWhile

/-- The characters of an unsigned number at the start of a text. -/
def unsigned (text : List Char) : List Char :=
  text.takeWhile isDigit ++ (fraction (text.dropWhile isDigit)).1

theorem isDigits_takeWhile {c : Char} {rest : List Char} (digit : isDigit c = true) :
    IsDigits (c :: rest.takeWhile isDigit) := by
  refine ⟨by simp, ?_⟩
  intro d member
  rcases List.mem_cons.mp member with rfl | member
  · exact digit
  · exact takeWhile_all isDigit rest d member

theorem fraction_grammar (text : List Char) :
    (fraction text).1 = [] ∨ ∃ digits, (fraction text).1 = '.' :: digits ∧ IsDigits digits := by
  fun_cases fraction text with
  | case1 d rest digit =>
    exact .inr ⟨_, rfl, isDigits_takeWhile digit⟩
  | case2 => exact .inl rfl
  | case3 => exact .inl rfl

theorem length_le_unsigned {whole fraction text : List Char} (digits : IsDigits whole)
    (decimals : fraction = [] ∨ ∃ more, fraction = '.' :: more ∧ IsDigits more)
    (start : whole ++ fraction <+: text) : (whole ++ fraction).length ≤ (unsigned text).length := by
  obtain ⟨rest, rfl⟩ := start
  rcases decimals with rfl | ⟨more, rfl, nonempty, decimals⟩
  · have wholeRun : whole <+: whole ++ [] ++ rest := by simp
    have bound := length_le_takeWhile wholeRun digits.2
    simp only [unsigned, List.length_append, List.length_nil] at bound ⊢
    omega
  · cases more with
    | nil => contradiction
    | cons d more =>
      simp only [List.mem_cons, forall_eq_or_imp] at decimals
      have point : isDigit '.' = false := by decide
      have runs : (more ++ rest).takeWhile isDigit = more ++ rest.takeWhile isDigit :=
        List.takeWhile_append_of_pos decimals.2
      simp only [unsigned, List.append_assoc, List.cons_append,
        List.takeWhile_append_of_pos digits.2, List.dropWhile_append_of_pos digits.2,
        List.takeWhile_cons, List.dropWhile_cons, point, fraction, decimals.1, runs, if_true,
        Bool.false_eq_true, if_false, List.append_nil, List.length_append, List.length_cons]
      omega

theorem not_startsNumber_of_not {c : Char} {rest : List Char}
    (none : Lexeme.startsNumber c rest = false) {text : List Char} (start : text <+: c :: rest) :
    ¬ IsNumber text := by
  rintro ⟨sign, whole, fraction, rfl, signs, ⟨nonempty, digits⟩, _⟩
  cases whole with
  | nil => contradiction
  | cons d whole =>
    have digit : isDigit d = true := digits d (by simp)
    obtain ⟨more, same⟩ := start
    rcases signs with rfl | rfl
    · simp only [List.nil_append, List.cons_append, List.cons.injEq] at same
      obtain ⟨rfl, _⟩ := same
      simp [Lexeme.startsNumber, digit] at none
    · simp only [List.nil_append, List.cons_append, List.cons.injEq] at same
      obtain ⟨rfl, rfl⟩ := same
      simp [Lexeme.startsNumber, digit] at none

theorem number_spelling (c : Char) (rest : List Char) :
    (Lexeme.number c rest).spelling = c :: unsigned rest := rfl

theorem number_verbatim (c : Char) (rest : List Char) : Lexeme.number c rest =
    Lexeme.verbatim .number (Lexeme.number c rest).spelling (Lexeme.number c rest).rest := rfl

theorem number_append (c : Char) (rest : List Char) :
    (Lexeme.number c rest).spelling ++ (Lexeme.number c rest).rest = c :: rest := by
  change c :: (rest.takeWhile isDigit ++ (fraction (rest.dropWhile isDigit)).1) ++
    (fraction (rest.dropWhile isDigit)).2 = c :: rest
  rw [List.cons_append, List.append_assoc, fraction_append, List.takeWhile_append_dropWhile]

theorem unsigned_cons {c : Char} (digit : isDigit c = true) (rest : List Char) :
    unsigned (c :: rest) = c :: unsigned rest := by
  simp [unsigned, digit]

theorem isDigit_of_number {whole more text rest : List Char} {c : Char}
    (digits : IsDigits whole) (same : whole ++ more ++ rest = c :: text) : isDigit c = true := by
  cases whole with
  | nil => exact absurd rfl digits.1
  | cons d whole =>
    simp only [List.cons_append, List.cons.injEq] at same
    rw [← same.1]
    exact digits.2 d (by simp)

theorem isNumber_unsigned {sign text : List Char} (signs : sign = [] ∨ sign = ['-'])
    (digits : IsDigits (text.takeWhile isDigit)) : IsNumber (sign ++ unsigned text) :=
  ⟨sign, _, _, (List.append_assoc ..).symm, signs, digits, fraction_grammar _⟩

theorem longest_number {c : Char} {rest : List Char} (starts : Lexeme.startsNumber c rest = true) :
    Longest IsNumber (Lexeme.number c rest).spelling (Lexeme.number c rest).rest := by
  unfold Longest
  rw [number_append, number_spelling]
  by_cases digit : isDigit c = true
  · rw [← unsigned_cons digit]
    refine ⟨isNumber_unsigned (.inl rfl) ?_, ?_⟩
    · rw [List.takeWhile_cons_of_pos digit]
      exact isDigits_takeWhile digit
    · rintro other start ⟨sign, number, decimals, rfl, signs, digits, decimalsOk⟩
      rcases signs with rfl | rfl
      · exact length_le_unsigned digits decimalsOk start
      · obtain ⟨more, same⟩ := start
        simp only [List.cons_append, List.cons.injEq] at same
        rw [← same.1] at digit
        exact absurd digit (by decide)
  · simp only [Lexeme.startsNumber, digit, Bool.false_or, Bool.and_eq_true, beq_iff_eq] at starts
    obtain ⟨rfl, next⟩ := starts
    refine ⟨isNumber_unsigned (.inr rfl) ?_, ?_⟩
    · cases rest with
      | nil => simp at next
      | cons d rest =>
        rw [List.takeWhile_cons_of_pos (by simpa using next)]
        exact isDigits_takeWhile (by simpa using next)
    · rintro other start ⟨sign, number, decimals, rfl, signs, digits, decimalsOk⟩
      rcases signs with rfl | rfl
      · obtain ⟨more, same⟩ := start
        exact absurd (isDigit_of_number digits same) digit
      · have tail : number ++ decimals <+: rest := (List.cons_prefix_cons.mp start).2
        have bound := length_le_unsigned digits decimalsOk tail
        simp only [List.cons_append, List.nil_append, List.length_cons]
        omega

theorem longest_word {c : Char} (start : isWordStart c = true) (rest : List Char) :
    Longest IsWord (c :: rest.takeWhile isWordChar) (rest.dropWhile isWordChar) := by
  refine ⟨⟨c, _, rfl, start, takeWhile_all isWordChar rest⟩, ?_⟩
  rintro other starts ⟨d, more, rfl, _, chars⟩
  rw [List.cons_append, List.takeWhile_append_dropWhile] at starts
  have tail : more <+: rest := (List.cons_prefix_cons.mp starts).2
  have bound := length_le_takeWhile tail chars
  simp only [List.length_cons]
  omega

/-! ## Reading a token -/

theorem symbol_ofChar? (mark : Symbol) : Symbol.ofChar? mark.char = some mark := by
  cases mark <;> rfl

theorem char_of_ofChar? {c : Char} {mark : Symbol} (found : Symbol.ofChar? c = some mark) :
    mark.char = c := by
  have holds := List.find?_some found
  simpa using holds

theorem ofChar?_eq_none {c : Char} (free : ∀ mark : Symbol, mark.char ≠ c) :
    Symbol.ofChar? c = none := by
  rw [Symbol.ofChar?, List.find?_eq_none]
  intro mark _
  simpa using free mark

theorem keyword_ofSpelling? (word : Keyword) : Keyword.ofSpelling? word.spelling = some word := by
  cases word <;> decide

theorem spelling_of_ofSpelling? {text : String} {word : Keyword}
    (found : Keyword.ofSpelling? text = some word) : word.spelling = text := by
  have holds := List.find?_some found
  simpa using holds

theorem ofSpelling?_eq_none {text : String} (free : ∀ word : Keyword, word.spelling ≠ text) :
    Keyword.ofSpelling? text = none := by
  rw [Keyword.ofSpelling?, List.find?_eq_none]
  intro word _
  simpa using free word

theorem noGap_of_ne_slash {c : Char} (notBlank : isBlank c = false) (notSlash : c ≠ '/')
    (rest : List Char) : NoGap (c :: rest) := by
  refine ⟨notBlank, ?_⟩
  intro comment
  unfold StartsComment at comment
  split at comment <;> simp_all

/-- No symbol and no quotation mark is a member of a class, and neither is the slash. -/
structure Plain (p : Char → Bool) : Prop where
  symbols : ∀ mark : Symbol, p mark.char = false
  quotes : ∀ mark, IsQuote mark → p mark = false
  slash : p '/' = false

theorem plain_isDigit : Plain isDigit where
  symbols := by intro mark; cases mark <;> decide
  quotes := by rintro mark (rfl | rfl) <;> decide
  slash := by decide

theorem plain_isWordStart : Plain isWordStart where
  symbols := by intro mark; cases mark <;> decide
  quotes := by rintro mark (rfl | rfl) <;> decide
  slash := by decide

theorem Plain.ofChar? {p : Char → Bool} (plain : Plain p) {c : Char} (member : p c = true) :
    Symbol.ofChar? c = none := by
  apply ofChar?_eq_none
  rintro mark rfl
  rw [plain.symbols mark] at member
  contradiction

theorem Plain.not_isQuote {p : Char → Bool} (plain : Plain p) {c : Char} (member : p c = true) :
    ¬ IsQuote c := by
  intro quote
  rw [plain.quotes c quote] at member
  contradiction

theorem Plain.noGap {p : Char → Bool} (plain : Plain p) {c : Char} (member : p c = true)
    (notBlank : isBlank c = false) (rest : List Char) : NoGap (c :: rest) := by
  apply noGap_of_ne_slash notBlank
  rintro rfl
  rw [plain.slash] at member
  contradiction

theorem ofChar?_of_isQuote {mark : Char} (quote : IsQuote mark) : Symbol.ofChar? mark = none := by
  rcases quote with rfl | rfl <;> rfl

theorem isQuote_iff {c : Char} : (c == '"' || c == '\'') = true ↔ IsQuote c := by
  simp [IsQuote]

theorem startsNumber_of_isNumber {c : Char} {more : List Char} (number : IsNumber (c :: more))
    (rest : List Char) :
    Lexeme.startsNumber c (more ++ rest) = true ∧ (isDigit c = true ∨ c = '-') := by
  obtain ⟨sign, whole, fraction, same, signs, ⟨nonempty, digits⟩, _⟩ := number
  cases whole with
  | nil => contradiction
  | cons d whole =>
    have digit : isDigit d = true := digits d (by simp)
    rcases signs with rfl | rfl
    · simp only [List.nil_append, List.cons_append, List.cons.injEq] at same
      rw [same.1]
      simp [Lexeme.startsNumber, digit]
    · simp only [List.nil_append, List.cons_append, List.cons.injEq] at same
      rw [same.1, same.2]
      simp [Lexeme.startsNumber, digit]

theorem spelled_literal {mark : Char} (quote : IsQuote mark) (rest : List Char) :
    Spelled (Lexeme.literal mark rest).rest (Lexeme.literal mark rest).kind
      (Lexeme.literal mark rest).value (Lexeme.literal mark rest).spelling := by
  unfold Lexeme.literal
  split
  · next q closed =>
    obtain ⟨body, spelling, escaped⟩ := escaped_of_closeQuote? closed
    rw [spelling]
    exact .string quote escaped
  · next isOpen => exact .openQuote quote (unquoted_of_closeQuote? isOpen)

theorem spelled_word {c : Char} (start : isWordStart c = true) (rest : List Char) :
    Spelled (Lexeme.word c rest).rest (Lexeme.word c rest).kind (Lexeme.word c rest).value
      (Lexeme.word c rest).spelling := by
  have longest := longest_word start rest
  unfold Lexeme.word Lexeme.verbatim Lexeme.wordKind
  simp only
  split
  · next word found =>
    have same := spelling_of_ofSpelling? found
    rw [← same]
    have text := congrArg String.toList same
    rw [String.toList_ofList] at text
    rw [← text] at longest ⊢
    exact .keyword word longest
  · next none =>
    refine .identifier longest ?_
    intro word same
    rw [← same, keyword_ofSpelling?] at none
    contradiction

/-- Where none of the readers of tokens begins, none of the spellings does. -/
theorem startsNothing {c : Char} {rest : List Char} (noGap : NoGap (c :: rest))
    (noSymbol : Symbol.ofChar? c = none) (notQuote : ¬ IsQuote c)
    (noNumber : ¬ Lexeme.startsNumber c rest = true) (noWord : ¬ isWordStart c = true) :
    StartsNothing c rest := by
  refine ⟨?_, notQuote, ?_, noGap⟩
  · rintro mark rfl
    rw [symbol_ofChar?] at noSymbol
    contradiction
  · intro text start
    refine ⟨not_startsNumber_of_not (eq_false_of_ne_true noNumber) start, ?_⟩
    rintro ⟨d, more, rfl, isStart, _⟩
    rw [(List.cons_prefix_cons.mp start).1] at isStart
    exact noWord isStart

/-- The reader obeys the rules of spelling. -/
theorem spelled_read {c : Char} {rest : List Char} (noGap : NoGap (c :: rest)) :
    Spelled (Lexeme.read c rest).rest (Lexeme.read c rest).kind (Lexeme.read c rest).value
      (Lexeme.read c rest).spelling := by
  unfold Lexeme.read
  split
  · next mark found =>
    rw [← char_of_ofChar? found]
    exact .symbol mark
  · next noSymbol =>
    split
    · next quote => exact spelled_literal (isQuote_iff.mp quote) rest
    · next notQuote =>
      rw [isQuote_iff] at notQuote
      split
      · next starts => exact .number (longest_number starts)
      · next noNumber =>
        split
        · next start => exact spelled_word start rest
        · next noWord => exact .unknown (startsNothing noGap noSymbol notQuote noNumber noWord)

/-- What the rules of spelling allow at a place: the reader reads it, and no gap starts there. -/
def ReadsAs (rest : List Char) (kind : TokenKind) (value : String) (spelling : List Char) : Prop :=
  ∃ c more, spelling = c :: more ∧ NoGap (c :: (more ++ rest)) ∧
    Lexeme.read c (more ++ rest) = ⟨kind, value, spelling, rest⟩

theorem readsAs_symbol (mark : Symbol) (rest : List Char) :
    ReadsAs rest (.symbol mark) (String.ofList [mark.char]) [mark.char] := by
  refine ⟨mark.char, [], rfl, noGap_of_ne_slash ?_ ?_ _, ?_⟩
  · cases mark <;> decide
  · cases mark <;> decide
  · unfold Lexeme.read
    rw [symbol_ofChar?]
    rfl

theorem noGap_of_isQuote {mark : Char} (quote : IsQuote mark) (rest : List Char) :
    NoGap (mark :: rest) := by
  rcases quote with rfl | rfl <;> exact noGap_of_ne_slash (by decide) (by decide) rest

theorem read_of_isQuote {mark : Char} (quote : IsQuote mark) (rest : List Char) :
    Lexeme.read mark rest = Lexeme.literal mark rest := by
  unfold Lexeme.read
  rw [ofChar?_of_isQuote quote]
  simp only [isQuote_iff.mpr quote, if_true]

theorem readsAs_string {mark : Char} {body content rest : List Char} (quote : IsQuote mark)
    (escaped : Escaped mark body content) :
    ReadsAs rest .string (String.ofList content) (mark :: (body ++ [mark])) := by
  refine ⟨mark, body ++ [mark], rfl, noGap_of_isQuote quote _, ?_⟩
  rw [read_of_isQuote quote, Lexeme.literal, List.append_assoc, List.singleton_append,
    closeQuote?_escaped quote escaped]

theorem readsAs_openQuote {mark : Char} {rest : List Char} (quote : IsQuote mark)
    (unquoted : Unquoted mark rest) : ReadsAs rest .unknown (String.ofList [mark]) [mark] := by
  refine ⟨mark, [], rfl, noGap_of_isQuote quote _, ?_⟩
  rw [read_of_isQuote quote, Lexeme.literal, List.nil_append, closeQuote?_unquoted unquoted]
  rfl

theorem read_of_startsNumber {c : Char} {rest : List Char}
    (starts : Lexeme.startsNumber c rest = true) (first : isDigit c = true ∨ c = '-') :
    Lexeme.read c rest = Lexeme.number c rest := by
  have noSymbol : Symbol.ofChar? c = none := by
    rcases first with digit | rfl
    · exact plain_isDigit.ofChar? digit
    · rfl
  have notQuote : ¬ (c == '"' || c == '\'') = true := by
    rw [isQuote_iff]
    rcases first with digit | rfl
    · exact plain_isDigit.not_isQuote digit
    · decide
  unfold Lexeme.read
  simp only [noSymbol, if_neg notQuote, starts, if_true]

theorem readsAs_number {text rest : List Char} (longest : Longest IsNumber text rest) :
    ReadsAs rest .number (String.ofList text) text := by
  cases text with
  | nil =>
    obtain ⟨sign, whole, fraction, same, _, digits, _⟩ := longest.1
    have empty := List.append_eq_nil_iff.mp (List.append_eq_nil_iff.mp same.symm).1
    exact absurd empty.2 digits.1
  | cons c more =>
    obtain ⟨starts, first⟩ := startsNumber_of_isNumber longest.1 rest
    refine ⟨c, more, rfl, ?_, ?_⟩
    · rcases first with digit | rfl
      · exact plain_isDigit.noGap digit (not_isBlank_of_isDigit digit) _
      · exact noGap_of_ne_slash (by decide) (by decide) _
    · obtain ⟨same, after⟩ := longest.unique (longest_number starts) (number_append ..).symm
      rw [read_of_startsNumber starts first, number_verbatim, ← same, ← after]
      rfl

theorem read_of_isWordStart {c : Char} (start : isWordStart c = true) (rest : List Char) :
    Lexeme.read c rest = Lexeme.word c rest := by
  have notMinus : c ≠ '-' := by
    rintro rfl
    exact absurd start (by decide)
  have noNumber : Lexeme.startsNumber c rest = false := by
    simp [Lexeme.startsNumber, not_isDigit_of_isWordStart start, notMinus]
  have notQuote : ¬ (c == '"' || c == '\'') = true := by
    rw [isQuote_iff]
    exact plain_isWordStart.not_isQuote start
  unfold Lexeme.read
  simp only [plain_isWordStart.ofChar? start, if_neg notQuote, noNumber, start, if_true,
    Bool.false_eq_true, if_false]

theorem readsAs_word {text rest : List Char} (longest : Longest IsWord text rest) :
    ReadsAs rest (Lexeme.wordKind (String.ofList text)) (String.ofList text) text := by
  obtain ⟨c, more, rfl, start, _⟩ := longest.1
  refine ⟨c, more, rfl, plain_isWordStart.noGap start (not_isBlank_of_isWordStart start) _, ?_⟩
  have whole : c :: more ++ rest = c :: (more ++ rest).takeWhile isWordChar ++
      (more ++ rest).dropWhile isWordChar := by
    rw [List.cons_append, List.cons_append, List.takeWhile_append_dropWhile]
  obtain ⟨same, after⟩ := longest.unique (longest_word start _) whole
  rw [read_of_isWordStart start, Lexeme.word, ← same, ← after]
  rfl

theorem readsAs_unknown {c : Char} {rest : List Char} (nothing : StartsNothing c rest) :
    ReadsAs rest .unknown (String.ofList [c]) [c] := by
  obtain ⟨free, notQuote, noClass, noGap⟩ := nothing
  refine ⟨c, [], rfl, noGap, ?_⟩
  have noNumber : Lexeme.startsNumber c rest = false := by
    cases starts : Lexeme.startsNumber c rest with
    | false => rfl
    | true =>
      have longest := longest_number starts
      have start : (Lexeme.number c rest).spelling <+: c :: rest := ⟨_, number_append c rest⟩
      exact absurd longest.1 (noClass _ start).1
  have noWord : isWordStart c = false := by
    cases start : isWordStart c with
    | false => rfl
    | true =>
      have single : IsWord [c] := ⟨c, [], rfl, start, by simp⟩
      exact absurd single (noClass [c] ⟨rest, rfl⟩).2
  rw [← isQuote_iff] at notQuote
  unfold Lexeme.read
  simp only [List.nil_append, ofChar?_eq_none free, if_neg notQuote, noNumber, noWord,
    Bool.false_eq_true, if_false]
  rfl

/-- The rules of spelling leave the reader no choice. -/
theorem read_spelled {rest spelling : List Char} {kind : TokenKind} {value : String}
    (spelled : Spelled rest kind value spelling) : ReadsAs rest kind value spelling := by
  cases spelled with
  | symbol mark => exact readsAs_symbol mark rest
  | string quote escaped => exact readsAs_string quote escaped
  | number longest => exact readsAs_number longest
  | keyword word longest =>
    have read := readsAs_word longest
    rwa [String.ofList_toList, Lexeme.wordKind, keyword_ofSpelling?] at read
  | identifier longest free =>
    have read := readsAs_word longest
    rwa [Lexeme.wordKind, ofSpelling?_eq_none free] at read
  | openQuote quote unquoted => exact readsAs_openQuote quote unquoted
  | unknown nothing => exact readsAs_unknown nothing

end Blueprint
