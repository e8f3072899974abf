import Blueprint.Proofs.Tiling

/-!
Line breaks in quoted literals. A literal may go over the end of its line, but only where a backslash
takes the line break as the second character of a pair. `literal_breaks_escaped` says so, and that a
quotation mark without its partner on the same line is an unknown token unless its line ends in such a
backslash.
-/
set_option autoImplicit false

namespace Blueprint

/-- A text that ends in an odd number of backslashes, of which the last one takes the next character
with it. -/
def EndsInEscape (text : List Char) : Prop :=
  (text.reverse.takeWhile fun c => c == '\\').length % 2 = 1

instance : DecidablePred EndsInEscape := fun text =>
  inferInstanceAs (Decidable ((text.reverse.takeWhile fun c => c == '\\').length % 2 = 1))

/-- The partner of a quotation mark stands in the text behind it. -/
def ClosedIn (mark : Char) (text : List Char) : Prop :=
  ∃ body content rest, text = body ++ mark :: rest ∧ Escaped mark body content

/-- What is left of the line at the start of a text. -/
def lineOf (text : List Char) : List Char := text.takeWhile fun c => c != '\n'

/-! ## Backslashes at the end -/

/-- Pairs that are complete take nothing of what follows with them. -/
theorem endsInEscape_append {front : List Char} (settled : ¬ EndsInEscape front)
    (text : List Char) : EndsInEscape (front ++ text) ↔ EndsInEscape text := by
  unfold EndsInEscape at settled ⊢
  rw [List.reverse_append, List.takeWhile_append]
  split
  · next whole =>
    rw [List.length_append, ← whole]
    omega
  · rfl

theorem not_endsInEscape_single {c : Char} (notEscape : c ≠ '\\') : ¬ EndsInEscape [c] := by
  simp [EndsInEscape, notEscape]

theorem not_endsInEscape_pair (c : Char) : ¬ EndsInEscape ['\\', c] := by
  by_cases isEscape : c = '\\'
  · subst isEscape
    decide
  · simp [EndsInEscape, isEscape]

/-- Between quotation marks, a line break stands behind a backslash that takes it. -/
theorem Escaped.endsInEscape {mark : Char} {body content : List Char}
    (escaped : Escaped mark body content) {front back : List Char}
    (split : body = front ++ '\n' :: back) : EndsInEscape front := by
  -- Each character by itself, and each pair, leaves as many open backslashes as the rest of the front.
  induction escaped generalizing front with
  | empty => simp at split
  | @plain c body content _ notEscape notBreak _ ih =>
    cases front with
    | nil => exact absurd (List.cons.inj split).1 notBreak
    | cons d front =>
      obtain ⟨rfl, later⟩ := List.cons.inj split
      exact (endsInEscape_append (not_endsInEscape_single notEscape) front).mpr (ih later)
  | @pair c body content _ ih =>
    match front with
    | [] => exact absurd (List.cons.inj split).1 (by decide)
    | [d] =>
      obtain ⟨rfl, _⟩ := List.cons.inj split
      decide
    | d :: e :: front =>
      obtain ⟨rfl, behind⟩ := List.cons.inj split
      obtain ⟨rfl, later⟩ := List.cons.inj behind
      exact (endsInEscape_append (not_endsInEscape_pair c) front).mpr (ih later)

/-! ## Lines -/

/-- A text without a line break is the line, or begins it. -/
theorem lineOf_append {text : List Char} (oneLine : '\n' ∉ text) (rest : List Char) :
    lineOf (text ++ rest) = text ++ lineOf rest := by
  refine List.takeWhile_append_of_pos fun c inside => ?_
  rw [bne_iff_ne]
  rintro rfl
  exact oneLine inside

theorem lineOf_cons {c : Char} (notBreak : c ≠ '\n') (rest : List Char) :
    lineOf (c :: rest) = c :: lineOf rest := by
  simp [lineOf, notBreak]

theorem lineOf_break (rest : List Char) : lineOf ('\n' :: rest) = [] := rfl

theorem not_mem_lineOf (text : List Char) : '\n' ∉ lineOf text := by
  intro inside
  have other := takeWhile_all (fun c => c != '\n') text _ inside
  contradiction

theorem lineOf_begins (text : List Char) : ∃ rest, text = lineOf text ++ rest :=
  ⟨_, (List.takeWhile_append_dropWhile).symm⟩

/-! ## Quotation marks -/

/-- A quotation mark that is closed on its line begins a text of one line. -/
theorem closed_on_line {rest spelling more : List Char} {kind : TokenKind} {value : String}
    {mark : Char} (spelled : Spelled rest kind value spelling) (quote : IsQuote mark)
    (starts : spelling = mark :: more) (closed : ClosedIn mark (lineOf (more ++ rest))) :
    kind = .string ∧ '\n' ∉ spelling := by
  obtain ⟨body, content, others, line, escaped⟩ := closed
  obtain ⟨behind, whole⟩ := lineOf_begins (more ++ rest)
  rw [line, List.append_assoc, List.cons_append] at whole
  have oneLine := not_mem_lineOf (more ++ rest)
  rw [line] at oneLine
  rcases spelled.literal_or_open quote starts with
    ⟨isString, body', content', rfl, escaped'⟩ | ⟨_, rfl, unquoted⟩
  · refine ⟨isString, ?_⟩
    -- The mark that closes on the line is the one that the literal ends with.
    have closes := closeQuote?_escaped quote escaped (others ++ behind)
    rw [← whole, List.append_assoc, List.singleton_append, closeQuote?_escaped quote escaped'] at closes
    simp only [Option.some.injEq, Quotation.mk.injEq] at closes
    rw [starts, closes.1]
    simp only [List.mem_append, List.mem_cons, not_or] at oneLine ⊢
    exact ⟨Ne.symm quote.ne_break, oneLine.1, Ne.symm quote.ne_break, List.not_mem_nil⟩
  · rw [List.nil_append] at whole
    rw [whole] at unquoted
    exact absurd unquoted (not_unquoted_of_escaped quote escaped)

/-- A quotation mark that is not closed on its line has no partner, unless the line break is taken. -/
theorem open_on_line {rest spelling more : List Char} {kind : TokenKind} {value : String}
    {mark : Char} (spelled : Spelled rest kind value spelling) (quote : IsQuote mark)
    (starts : spelling = mark :: more) (isOpen : ¬ ClosedIn mark (lineOf (more ++ rest)))
    (settled : ¬ EndsInEscape (lineOf (more ++ rest))) : kind = .unknown := by
  rcases spelled.literal_or_open quote starts with
    ⟨_, body, content, rfl, escaped⟩ | ⟨isUnknown, _⟩
  · rw [List.append_assoc, List.singleton_append] at isOpen settled
    by_cases broken : '\n' ∈ body
    · obtain ⟨front, back, rfl, oneLine⟩ := List.eq_append_cons_of_mem broken
      rw [List.append_assoc, lineOf_append oneLine, List.cons_append, lineOf_break,
        List.append_nil] at settled
      exact absurd (escaped.endsInEscape rfl) settled
    · rw [lineOf_append broken, lineOf_cons quote.ne_break] at isOpen
      exact absurd ⟨body, content, _, rfl, escaped⟩ isOpen
  · exact isUnknown

/-- A line break in a quoted literal stands behind a backslash that takes it. -/
theorem Spelled.endsInEscape {rest spelling : List Char} {value : String}
    (spelled : Spelled rest .string value spelling) {front back : List Char}
    (split : spelling = front ++ '\n' :: back) : EndsInEscape front := by
  cases spelled with
  | @string mark body content quote escaped =>
    cases front with
    | nil => exact absurd (List.cons.inj split).1 quote.ne_break
    | cons c front =>
      simp only [List.cons_append, List.cons.injEq] at split
      obtain ⟨rfl, inside⟩ := split
      rcases List.eq_nil_or_concat back with rfl | ⟨back, d, rfl⟩
      · have ends := List.append_inj' inside rfl
        exact absurd (List.cons.inj ends.2).1 quote.ne_break
      · rw [List.concat_eq_append, ← List.cons_append, ← List.append_assoc] at inside
        have same := (List.append_inj' inside rfl).1
        exact (endsInEscape_append (not_endsInEscape_single quote.ne_escape) front).mpr
          (escaped.endsInEscape same)

/-- Every source is a row of tiles. A line break in the spelling of a quoted literal stands behind an
odd number of backslashes. A quotation mark whose partner is on the same line begins a literal of one
line; and one whose partner is not is an unknown token, unless its line ends in an odd number of
backslashes. -/
theorem literal_breaks_escaped (source : String) :
    ∃ tiles last, source.toList = tilesText tiles last ∧ Tiled tiles last ∧
      tokenize source = tokensAt .start tiles last ∧
      ∀ before tile after, tiles = before ++ tile :: after →
        (tile.kind = .string → ∀ front back, tile.spelling = front ++ '\n' :: back →
          EndsInEscape front) ∧
        ∀ mark more, IsQuote mark → tile.spelling = mark :: more →
          let line := lineOf (more ++ tilesText after last)
          (ClosedIn mark line → tile.kind = .string ∧ '\n' ∉ tile.spelling) ∧
          (¬ ClosedIn mark line → ¬ EndsInEscape line → tile.kind = .unknown) := by
  obtain ⟨tiles, last, whole, tiled⟩ := exists_tiled source.toList
  refine ⟨tiles, last, whole, tiled, ?_, ?_⟩
  · rw [tokenize, Cursor.ofSource, whole]
    exact tokens_tiled tiled .start
  · rintro before tile after rfl
    have spelled := tiled.spelled
    refine ⟨fun isString front back split => ?_, fun mark more quote starts => ⟨?_, ?_⟩⟩
    · rw [isString] at spelled
      exact spelled.endsInEscape split
    · exact closed_on_line spelled quote starts
    · exact open_on_line spelled quote starts

/-- A backslash before its line break carries a literal over to the next line. -/
theorem literal_spans_lines :
    ∃ tiles last, "\"a\\\nb\"".toList = tilesText tiles last ∧ Tiled tiles last ∧
      tokenize "\"a\\\nb\"" = tokensAt .start tiles last ∧
      ∃ tile ∈ tiles, tile.kind = .string ∧ '\n' ∈ tile.spelling := by
  have escaped : Escaped '"' ['a', '\\', '\n', 'b'] ['a', '\n', 'b'] :=
    .plain (by decide) (by decide) (by decide) <| .pair <|
      .plain (by decide) (by decide) (by decide) .empty
  have spelled : Spelled [] .string "a\nb" "\"a\\\nb\"".toList := .string (.inl rfl) escaped
  have tiled : Tiled [⟨[], .string, "a\nb", "\"a\\\nb\"".toList⟩] [] :=
    .tile .empty spelled (.last (.inl .empty))
  exact ⟨_, _, rfl, tiled, tokens_tiled tiled .start, _, List.mem_singleton_self _, rfl, by decide⟩

end Blueprint
