import Blueprint.Proofs.KeySearch

/-!
What the search for a path and a method comes to on any text. The path is that of the first entry
with one, and the method that of the first entry behind it: an entry that starts earlier also ends
earlier, so that looking on behind the first path finds no method that was not there before. A search
that succeeds in the front of a text, up to a closing brace, has the same answer in the whole text.
-/
set_option autoImplicit false

namespace Blueprint

open Text Extraction

variable {α β : Type} {front rest text : List Char}

/-! ## First answers -/

/-- At no place in the front of a text is there an answer. -/
def Silent (read : List Char → Option α) (front rest : List Char) : Prop :=
  ∀ before c after, front = before ++ c :: after → read (c :: (after ++ rest)) = none

theorem firstMatch_eq_some {read : List Char → Option α} {answer : α}
    (found : firstMatch read text = some answer) :
    ∃ front rest, text = front ++ rest ∧ Silent read front rest ∧ read rest = some answer := by
  have here {place : List Char} (start : read place = some answer) :
      ∃ front rest, place = front ++ rest ∧ Silent read front rest ∧ read rest = some answer :=
    ⟨[], place, rfl, fun before c after whole => by simp at whole, start⟩
  induction text with
  | nil => exact here found
  | cons c text ih =>
    cases start : read (c :: text) with
    | some first =>
      rw [firstMatch_found start] at found
      exact here (found ▸ start)
    | none =>
      rw [firstMatch_none start] at found
      obtain ⟨front, rest, rfl, silent, last⟩ := ih found
      refine ⟨c :: front, rest, rfl, ?_, last⟩
      rintro (_ | ⟨d, before⟩) e after whole
      · obtain ⟨rfl, rfl⟩ := List.cons.inj whole
        exact start
      · exact silent before e after (List.cons.inj whole).2

theorem firstMatch_eq_none {read : List Char → Option α} :
    firstMatch read text = none ↔ ∀ front rest, text = front ++ rest → read rest = none := by
  induction text with
  | nil =>
    constructor
    · intro silent front rest whole
      obtain ⟨rfl, rfl⟩ := List.nil_eq_append_iff.mp whole
      exact silent
    · intro silent
      exact silent [] [] rfl
  | cons c text ih =>
    constructor
    · intro silent front rest whole
      have start : read (c :: text) = none := by
        by_contra answered
        obtain ⟨answer, start⟩ := Option.ne_none_iff_exists'.mp answered
        rw [firstMatch_found start] at silent
        contradiction
      rw [firstMatch_none start, ih] at silent
      cases front with
      | nil =>
        rw [List.nil_append] at whole
        exact whole ▸ start
      | cons d front => exact silent front rest (List.cons.inj whole).2
    · intro silent
      rw [firstMatch_none (silent [] (c :: text) rfl), ih]
      intro front rest whole
      exact silent (c :: front) rest (congrArg (c :: ·) whole)

/-- Where a later answer cannot be carried on if the first one cannot, it suffices to carry on the
first one. -/
theorem firstMatch_bind {read : List Char → Option α} {next : α → Option β}
    (later : ∀ front rest first last, read (front ++ rest) = some first → read rest = some last →
      next first = none → next last = none) :
    firstMatch (fun place => (read place).bind next) text = (firstMatch read text).bind next := by
  induction text with
  | nil => rfl
  | cons c text ih =>
    cases start : read (c :: text) with
    | none => rw [firstMatch_none start, firstMatch_none (by rw [start]; rfl), ih]
    | some first =>
      rw [firstMatch_found start, Option.bind_some]
      cases carried : next first with
      | some answer => exact firstMatch_found (by rw [start, Option.bind_some, carried])
      | none =>
        rw [firstMatch_eq_none]
        intro front rest whole
        cases last : read rest with
        | none => rfl
        | some answer => exact later front rest first answer (whole ▸ start) last carried

/-- A search that succeeds in the front of a text has the same answer in the whole text, if the answer
stays the same and none comes before it. -/
theorem firstMatch_append {read : List Char → Option (α × List Char)} {answer : α}
    {more behind : List Char}
    (stays : ∀ rest, read rest = some (answer, more) →
      read (rest ++ behind) = some (answer, more ++ behind))
    (first : ∀ front rest, read rest = some (answer, more) → read (front ++ rest) = none →
      read (front ++ rest ++ behind) = none)
    (found : firstMatch read text = some (answer, more)) :
    firstMatch read (text ++ behind) = some (answer, more ++ behind) := by
  obtain ⟨front, rest, rfl, silent, last⟩ := firstMatch_eq_some found
  rw [List.append_assoc, firstMatch_silent]
  · exact firstMatch_found (stays rest last)
  · intro before c after whole
    have none := first (c :: after) rest last (silent before c after whole)
    rwa [List.append_assoc] at none

/-! ## Entries -/

/-- A key, a colon and a text in quotation marks, which is not empty. -/
inductive QuotedEntry (key : String) (content : List Char) : List Char → Prop where
  | entry {gap gap' : List Char} (blank : Blank gap) (blank' : Blank gap') (some : content ≠ [])
    (free : '"' ∉ content) : QuotedEntry key content
      (key.toList ++ (gap ++ ':' :: (gap' ++ '"' :: (content ++ ['"']))))

/-- The key of a method, a colon and a word. -/
inductive MethodEntry (method : List Char) : List Char → Prop where
  | entry {gap gap' : List Char} (blank : Blank gap) (blank' : Blank gap') (some : method ≠ [])
    (letters : ∀ c ∈ method, isWordChar c = true) : MethodEntry method
      ("method".toList ++ (gap ++ ':' :: (gap' ++ method)))

theorem quotedEntry?_eq_some_iff {key : String} {content : List Char} :
    quotedEntry? key text = some (content, rest) ↔
      ∃ entry, QuotedEntry key content entry ∧ text = entry ++ rest := by
  constructor
  · intro found
    obtain ⟨after, keyed, found⟩ := Option.bind_eq_some_iff.mp found
    obtain ⟨⟨inside, behind⟩, quoted, found⟩ := Option.bind_eq_some_iff.mp found
    cases inside with
    | nil => contradiction
    | cons c inside =>
      obtain ⟨rfl, rfl⟩ := Prod.mk.inj (Option.some.inj found)
      obtain ⟨gap, blank, rfl⟩ := afterKey?_eq_some_iff.mp keyed
      obtain ⟨gap', blank', free, rfl⟩ := quotation?_eq_some quoted
      exact ⟨_, .entry blank blank' (List.cons_ne_nil c inside) free, by simp⟩
  · rintro ⟨_, @⟨gap, gap', blank, blank', some, free⟩, rfl⟩
    obtain ⟨c, content, rfl⟩ := List.exists_cons_of_ne_nil some
    have whole : key.toList ++ (gap ++ ':' :: (gap' ++ '"' :: (c :: content ++ ['"']))) ++ rest =
        key.toList ++ (gap ++ ':' :: (gap' ++ '"' :: (c :: content ++ '"' :: rest))) := by simp
    rw [whole, quotedEntry?, afterKey?_append key blank]
    show ((quotation? _).bind _) = _
    rw [quotation?_gap blank' free]
    rfl

theorem methodWord?_eq_some_iff {method : List Char} : methodWord? text = some (method, rest) ↔
    ∃ entry, MethodEntry method entry ∧ WordEnds rest ∧ text = entry ++ rest := by
  constructor
  · intro found
    obtain ⟨after, keyed, word⟩ := Option.bind_eq_some_iff.mp found
    obtain ⟨gap, blank, rfl⟩ := afterKey?_eq_some_iff.mp keyed
    obtain ⟨gap', blank', whole⟩ := gap_of_afterBlanks after
    obtain ⟨named, some, letters, ends⟩ := word?_eq_some_iff.mp word
    rw [whole, named]
    exact ⟨_, .entry blank blank' some letters, ends, by simp⟩
  · rintro ⟨_, @⟨gap, gap', blank, blank', some, letters⟩, ends, rfl⟩
    have whole : "method".toList ++ (gap ++ ':' :: (gap' ++ method)) ++ rest =
        "method".toList ++ (gap ++ ':' :: (gap' ++ (method ++ rest))) := by
      simp only [List.append_assoc, List.cons_append]
    rw [whole, methodWord?, afterKey?_append "method" blank]
    show word? (afterBlanks (gap' ++ (method ++ rest))) = _
    rw [afterBlanks_gap blank' (begins_run some letters rest), word?_eq_some_iff]
    exact ⟨rfl, some, letters, ends⟩

theorem Blank.not_mem {gap : List Char} (blank : Blank gap) {c : Char} (notBlank : isBlank c = false) :
    c ∉ gap := by
  intro member
  rw [blank c member] at notBlank
  contradiction

theorem not_mem_of_isWordChar {run : List Char} (letters : ∀ c ∈ run, isWordChar c = true) {c : Char}
    (notLetter : isWordChar c = false) : c ∉ run := by
  intro member
  rw [letters c member] at notLetter
  contradiction

namespace QuotedEntry

variable {key key' : String} {content content' entry entry' : List Char}

/-- An entry has two quotation marks, and the second one ends it. -/
theorem quotes (isEntry : QuotedEntry key content entry) (isWord : IsWord key.toList) :
    entry.count '"' = 2 ∧ ∃ more, entry = more ++ ['"'] := by
  obtain @⟨gap, gap', blank, blank', some, free⟩ := isEntry
  have keyed := List.count_eq_zero.mpr
    (not_mem_of_isWordChar (isWordChar_of_isWord isWord) isWordChar_quote)
  have inGap := List.count_eq_zero.mpr (blank.not_mem (c := '"') (by decide))
  have inGap' := List.count_eq_zero.mpr (blank'.not_mem (c := '"') (by decide))
  have inContent := List.count_eq_zero.mpr free
  constructor
  · simp [List.count_append, keyed, inGap, inGap', inContent]
  · exact ⟨key.toList ++ (gap ++ ':' :: (gap' ++ '"' :: content)), by simp⟩

/-- An entry that starts later ends later. -/
theorem later {behind : List Char} (isEntry : QuotedEntry key content entry)
    (isEntry' : QuotedEntry key' content' entry') (isWord : IsWord key.toList)
    (isWord' : IsWord key'.toList) (same : entry ++ rest = front ++ (entry' ++ behind)) :
    behind <:+ rest := by
  have inWhole : rest <:+ front ++ (entry' ++ behind) := ⟨entry, same⟩
  have inWhole' : behind <:+ front ++ (entry' ++ behind) := ⟨front ++ entry', by simp⟩
  rcases List.suffix_or_suffix_of_suffix inWhole' inWhole with shorter | ⟨more, rfl⟩
  · exact shorter
  -- else the first entry has both marks of the later one, and its own last one behind them
  obtain ⟨marks, start, ends⟩ := isEntry.quotes isWord
  obtain ⟨marks', _⟩ := isEntry'.quotes isWord'
  have parts : entry = front ++ (entry' ++ more) :=
    List.append_cancel_right (show entry ++ rest = front ++ (entry' ++ more) ++ rest by
      simpa using same)
  have unmarked : '"' ∉ more := by
    rw [← List.count_eq_zero]
    rw [parts, List.count_append, List.count_append] at marks
    omega
  rcases List.eq_nil_or_concat more with rfl | ⟨others, c, rfl⟩
  · exact List.suffix_refl rest
  · have last : c = '"' := by
      rw [parts, List.concat_eq_append, ← List.append_assoc, ← List.append_assoc] at ends
      exact (List.append_inj' ends rfl).2 |> List.cons.inj |>.1
    simp [last] at unmarked

end QuotedEntry

theorem MethodEntry.braceless {method entry : List Char} (isEntry : MethodEntry method entry) :
    '\x7d' ∉ entry := by
  obtain ⟨blank, blank', _, letters⟩ := isEntry
  have inGap := blank.not_mem (c := '\x7d') (by decide)
  have inGap' := blank'.not_mem (c := '\x7d') (by decide)
  have inMethod := not_mem_of_isWordChar letters (c := '\x7d') (by decide)
  simp [inGap, inGap', inMethod]

/-! ## A path and a method -/

/-- The first path in a text, the first method behind that path, and what follows. -/
def pathAndMethod? (text : List Char) : Option ((String × String) × List Char) := do
  let (path, rest) ← firstMatch ( quotedEntry? "path") text
  let (method, rest) ← firstMatch methodWord? rest
  return ((String.ofList path, String.ofList method), rest)

theorem pathAndMethod?_eq_some {path method : String}
    (found : pathAndMethod? text = some ((path, method), rest)) : ∃ pathText methodText more,
      firstMatch ( quotedEntry? "path") text = some (pathText, more) ∧
        firstMatch methodWord? more = some (methodText, rest) ∧
        path = String.ofList pathText ∧ method = String.ofList methodText := by
  obtain ⟨⟨pathText, more⟩, paths, found⟩ := Option.bind_eq_some_iff.mp found
  obtain ⟨⟨methodText, rest'⟩, methods, found⟩ := Option.bind_eq_some_iff.mp found
  cases found
  exact ⟨pathText, methodText, more, paths, methods, rfl, rfl⟩

/-- What follows on a path and a method is the end of the text. -/
theorem pathAndMethod?_suffix {pair : String × String}
    (found : pathAndMethod? text = some (pair, rest)) : rest <:+ text := by
  obtain ⟨path, method⟩ := pair
  obtain ⟨_, _, more, paths, methods, _⟩ := pathAndMethod?_eq_some found
  obtain ⟨front, _, rfl, _, path⟩ := firstMatch_eq_some paths
  obtain ⟨front', _, rfl, _, method⟩ := firstMatch_eq_some methods
  obtain ⟨entry, _, rfl⟩ := quotedEntry?_eq_some_iff.mp path
  obtain ⟨entry', _, _, rfl⟩ := methodWord?_eq_some_iff.mp method
  exact ⟨front ++ (entry ++ (front' ++ entry')), by simp only [List.append_assoc]⟩

/-- If there is no method behind the first path, there is none behind a later one. -/
theorem firstMatch_path {next : List Char × List Char → Option β}
    (carries : ∀ path rest, next (path, rest) = none ↔ firstMatch methodWord? rest = none) :
    firstMatch (fun place => ( quotedEntry? "path" place).bind next) text =
      (firstMatch ( quotedEntry? "path") text).bind next := by
  refine firstMatch_bind fun front rest first last start later silent => ?_
  obtain ⟨path, more⟩ := first
  obtain ⟨path', more'⟩ := last
  obtain ⟨entry, isEntry, whole⟩ := quotedEntry?_eq_some_iff.mp start
  obtain ⟨entry', isEntry', rfl⟩ := quotedEntry?_eq_some_iff.mp later
  obtain ⟨between, rfl⟩ := isEntry.later isEntry' (by decide) (by decide) whole.symm
  rw [carries, firstMatch_eq_none] at silent ⊢
  intro front' rest' parts
  exact silent (between ++ front') rest' (by rw [parts, List.append_assoc])

/-! ## The front of a text -/

/-- The text is at its end or at a closing brace. -/
def AtClosing (text : List Char) : Prop := ∀ c ∈ text.head?, c = '\x7d'

theorem AtClosing.wordEnds {text : List Char} (closing : AtClosing text) : WordEnds text := by
  intro c member
  rw [closing c member]
  decide

theorem WordEnds.append {text behind : List Char} (ends : WordEnds text) (ends' : WordEnds behind) :
    WordEnds (text ++ behind) := by
  cases text with
  | nil => exact ends'
  | cons c text => exact ends

/-- What has no closing brace in it lies before the first one. -/
theorem AtClosing.before {text behind front rest : List Char} (closing : AtClosing behind)
    (free : '\x7d' ∉ front) (same : text ++ behind = front ++ rest) :
    ∃ middle, text = front ++ middle ∧ rest = middle ++ behind := by
  have start : front <+: text := by
    cases behind with
    | nil => exact ⟨rest, by simpa using same.symm⟩
    | cons c behind =>
      obtain rfl := closing c rfl
      exact isPrefix_of_free free ⟨rest, same.symm⟩
  obtain ⟨middle, rfl⟩ := start
  rw [List.append_assoc] at same
  exact ⟨middle, rfl, (List.append_cancel_left same).symm⟩

/-- The first path in the front of a text is the first one in all of it. -/
theorem firstMatch_path_append {path more behind : List Char}
    (found : firstMatch ( quotedEntry? "path") text = some (path, more)) :
    firstMatch ( quotedEntry? "path") (text ++ behind) = some (path, more ++ behind) := by
  refine firstMatch_append (fun rest here => ?_) (fun front rest here silent => ?_) found
  · obtain ⟨entry, isEntry, rfl⟩ := quotedEntry?_eq_some_iff.mp here
    exact quotedEntry?_eq_some_iff.mpr ⟨entry, isEntry, List.append_assoc _ _ _⟩
  · obtain ⟨entry, isEntry, rfl⟩ := quotedEntry?_eq_some_iff.mp here
    cases early : quotedEntry? "path" (front ++ (entry ++ more) ++ behind) with
    | none => rfl
    | some answer =>
      -- an entry that starts before this one ends before it, so that it lies in the front
      obtain ⟨path', rest'⟩ := answer
      obtain ⟨entry', isEntry', same⟩ := quotedEntry?_eq_some_iff.mp early
      have order : entry' ++ rest' = front ++ (entry ++ (more ++ behind)) := by
        simpa using same.symm
      obtain ⟨between, rfl⟩ := isEntry'.later isEntry (by decide) (by decide) order
      have inFront : front ++ (entry ++ more) = entry' ++ (between ++ more) :=
        List.append_cancel_right (show front ++ (entry ++ more) ++ behind =
          entry' ++ (between ++ more) ++ behind by simpa using same)
      rw [quotedEntry?_eq_some_iff.mpr ⟨entry', isEntry', inFront⟩] at silent
      contradiction

/-- The first method in the front of a text, up to a closing brace, is the first one in all of it. -/
theorem firstMatch_method_append {method more behind : List Char} (closing : AtClosing behind)
    (found : firstMatch methodWord? text = some (method, more)) :
    firstMatch methodWord? (text ++ behind) = some (method, more ++ behind) := by
  refine firstMatch_append (fun rest here => ?_) (fun front rest _ silent => ?_) found
  · obtain ⟨entry, isEntry, ends, rfl⟩ := methodWord?_eq_some_iff.mp here
    exact methodWord?_eq_some_iff.mpr
      ⟨entry, isEntry, ends.append closing.wordEnds, List.append_assoc _ _ _⟩
  · cases early : methodWord? (front ++ rest ++ behind) with
    | none => rfl
    | some answer =>
      -- an entry has no brace in it, so that it lies in the front
      obtain ⟨method', rest'⟩ := answer
      obtain ⟨entry, isEntry, ends, same⟩ := methodWord?_eq_some_iff.mp early
      obtain ⟨middle, inFront, rfl⟩ := closing.before isEntry.braceless same
      rw [methodWord?_eq_some_iff.mpr ⟨entry, isEntry, ends.front, inFront⟩] at silent
      contradiction

/-- A path and a method that are found in the front of a text, up to a closing brace, are those of
the whole text. -/
theorem pathAndMethod?_append {pair : String × String} {more behind : List Char}
    (closing : AtClosing behind) (found : pathAndMethod? text = some (pair, more)) :
    pathAndMethod? (text ++ behind) = some (pair, more ++ behind) := by
  obtain ⟨path, method⟩ := pair
  obtain ⟨pathText, methodText, between, paths, methods, rfl, rfl⟩ := pathAndMethod?_eq_some found
  unfold pathAndMethod?
  rw [firstMatch_path_append paths]
  show ((firstMatch methodWord? (between ++ behind)).bind _) = _
  rw [firstMatch_method_append closing methods]
  rfl

end Blueprint
