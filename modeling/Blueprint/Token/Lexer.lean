import Blueprint.Text.CharClass
import Blueprint.Token.Basic

/-!
Reading tokens from source text. Between two tokens lies a gap of blanks and comments; a token is
read from its first character on by `Lexeme.read`. Reading never fails: what starts no token becomes
an unknown one. `splitGap_append` and `Lexeme.read_append` say that no character is lost.
-/
set_option autoImplicit false

namespace Blueprint

open Text

/-- Where the reader of a gap stands: between comments, in a comment that the end of its line
closes, or in a comment with a closing mark. -/
inductive GapMode where
  | blank
  | line
  | block
  deriving DecidableEq, Repr

/-- Splits a text into the gap at its start and the rest. A comment with a closing mark that is
missing runs to the end. -/
def splitGap : GapMode → List Char → List Char × List Char
  | .blank, '/' :: '/' :: rest =>
    let (gap, after) := splitGap .line rest
    ('/' :: '/' :: gap, after)
  | .blank, '/' :: '*' :: rest =>
    let (gap, after) := splitGap .block rest
    ('/' :: '*' :: gap, after)
  | .blank, c :: rest =>
    if isBlank c then
      let (gap, after) := splitGap .blank rest
      (c :: gap, after)
    else ([], c :: rest)
  | .line, c :: rest =>
    let (gap, after) := splitGap (if c == '\n' then .blank else .line) rest
    (c :: gap, after)
  | .block, '*' :: '/' :: rest =>
    let (gap, after) := splitGap .blank rest
    ('*' :: '/' :: gap, after)
  | .block, c :: rest =>
    let (gap, after) := splitGap .block rest
    (c :: gap, after)
  | _, [] => ([], [])

theorem splitGap_append (mode : GapMode) (text : List Char) :
    (splitGap mode text).1 ++ (splitGap mode text).2 = text := by
  fun_induction splitGap mode text <;> simp_all

theorem splitGap_length (mode : GapMode) (text : List Char) :
    (splitGap mode text).2.length ≤ text.length := by
  have whole := congrArg List.length (splitGap_append mode text)
  simp only [List.length_append] at whole
  omega

def unescape : Char → Char
  | 'n' => '\n'
  | 't' => '\t'
  | c => c

/-- The content of a quoted literal, after its opening mark. -/
structure Quotation where
  /-- The characters up to and including the closing mark. -/
  spelling : List Char
  /-- The content with its escapes read. -/
  content : List Char
  /-- What follows the closing mark. -/
  rest : List Char

/-- Reads a literal up to its closing mark. A backslash and the character after it are read as a
pair; a line break outside such a pair, or the end of the text, leaves the literal open. -/
def closeQuote? (mark : Char) : List Char → Option Quotation
  | [] => none
  | '\\' :: [] => none
  | '\\' :: c :: rest =>
    (closeQuote? mark rest).map fun q =>
      ⟨'\\' :: c :: q.spelling, unescape c :: q.content, q.rest⟩
  | c :: rest =>
    if c == '\n' then none
    else if c == mark then some ⟨[c], [], rest⟩
    else (closeQuote? mark rest).map fun q => ⟨c :: q.spelling, c :: q.content, q.rest⟩

theorem closeQuote?_append {mark : Char} {text : List Char} {q : Quotation}
    (closed : closeQuote? mark text = some q) : q.spelling ++ q.rest = text := by
  fun_induction closeQuote? mark text generalizing q with
  | case1 => simp at closed
  | case2 => simp at closed
  | case3 c rest ih =>
    cases call : closeQuote? mark rest with
    | none => simp [call] at closed
    | some inner =>
      simp only [call, Option.map_some, Option.some.injEq] at closed
      subst closed
      simp [ih call]
  | case4 => simp at closed
  | case5 c rest =>
    simp only [Option.some.injEq] at closed
    subst closed
    simp
  | case6 c rest _ _ _ _ ih =>
    cases call : closeQuote? mark rest with
    | none => simp [call] at closed
    | some inner =>
      simp only [call, Option.map_some, Option.some.injEq] at closed
      subst closed
      simp [ih call]

/-- The fraction at the start of a text: a point and at least one digit. -/
def fraction : List Char → List Char × List Char
  | '.' :: d :: rest =>
    if isDigit d then ('.' :: d :: rest.takeWhile isDigit, rest.dropWhile isDigit)
    else ([], '.' :: d :: rest)
  | text => ([], text)

theorem fraction_append (text : List Char) : (fraction text).1 ++ (fraction text).2 = text := by
  fun_cases fraction text <;> simp_all [List.takeWhile_append_dropWhile]

/-- A token without its place, with the characters it was read from and the ones after it. -/
structure Lexeme where
  kind : TokenKind
  value : String
  spelling : List Char
  rest : List Char

namespace Lexeme

def verbatim (kind : TokenKind) (spelling rest : List Char) : Lexeme :=
  ⟨kind, String.ofList spelling, spelling, rest⟩

/-- The kind of a word: a reserved word or an identifier. -/
def wordKind (word : String) : TokenKind :=
  match Keyword.ofSpelling? word with
  | some keyword => .keyword keyword
  | none => .identifier

/-- Whether a number starts here: a digit, or a minus sign before one. -/
def startsNumber (c : Char) (rest : List Char) : Bool :=
  isDigit c || (c == '-' && (rest.head?.map isDigit).getD false)

/-- Reads the number that starts here, as long as it goes. -/
def number (c : Char) (rest : List Char) : Lexeme :=
  let (decimals, after) := fraction (rest.dropWhile isDigit)
  verbatim .number (c :: rest.takeWhile isDigit ++ decimals) after

/-- Reads the word that starts here, as long as it goes. -/
def word (c : Char) (rest : List Char) : Lexeme :=
  let spelling := c :: rest.takeWhile isWordChar
  verbatim (wordKind (String.ofList spelling)) spelling (rest.dropWhile isWordChar)

/-- Reads the literal that starts here; an open one leaves its mark as an unknown token. -/
def literal (mark : Char) (rest : List Char) : Lexeme :=
  match closeQuote? mark rest with
  | some q => ⟨.string, String.ofList q.content, mark :: q.spelling, q.rest⟩
  | none => verbatim .unknown [mark] rest

def read (c : Char) (rest : List Char) : Lexeme :=
  match Symbol.ofChar? c with
  | some symbol => verbatim (.symbol symbol) [c] rest
  | none =>
    if c == '"' || c == '\'' then literal c rest
    else if startsNumber c rest then number c rest
    else if isWordStart c then word c rest
    else verbatim .unknown [c] rest

/-- A token takes at least its first character and leaves the rest as it is. -/
theorem read_append (c : Char) (rest : List Char) :
    ∃ more, (read c rest).spelling = c :: more ∧ more ++ (read c rest).rest = rest := by
  unfold read
  split
  · exact ⟨[], rfl, rfl⟩
  · split
    · unfold literal
      split
      · next q closed => exact ⟨q.spelling, rfl, closeQuote?_append closed⟩
      · exact ⟨[], rfl, rfl⟩
    · split
      · refine ⟨rest.takeWhile isDigit ++ (fraction (rest.dropWhile isDigit)).1, rfl, ?_⟩
        change _ ++ (fraction (rest.dropWhile isDigit)).2 = rest
        rw [List.append_assoc, fraction_append, List.takeWhile_append_dropWhile]
      · split
        · exact ⟨rest.takeWhile isWordChar, rfl, List.takeWhile_append_dropWhile⟩
        · exact ⟨[], rfl, rfl⟩

theorem read_length (c : Char) (rest : List Char) : (read c rest).rest.length ≤ rest.length := by
  obtain ⟨more, _, whole⟩ := read_append c rest
  have := congrArg List.length whole
  simp only [List.length_append] at this
  omega

end Lexeme

/-- The part of a source that is still to be read, and the place where it starts. -/
structure Cursor where
  rest : List Char
  place : Position

namespace Cursor

def ofSource (source : String) : Cursor := ⟨source.toList, .start⟩

/-- The next token, and the cursor after it unless the token ends the source. -/
def next (cursor : Cursor) : Token × Option Cursor :=
  let (gap, rest) := splitGap .blank cursor.rest
  let place := cursor.place.after gap
  match rest with
  | [] => (⟨.eof, "", place⟩, none)
  | c :: more =>
    let lexeme := Lexeme.read c more
    (⟨lexeme.kind, lexeme.value, place⟩, some ⟨lexeme.rest, place.after lexeme.spelling⟩)

theorem next_length {cursor after : Cursor} {token : Token}
    (step : cursor.next = (token, some after)) : after.rest.length < cursor.rest.length := by
  have bound := splitGap_length .blank cursor.rest
  unfold next at step
  simp only at step
  split at step
  · simp at step
  · next c more left =>
    simp only [Prod.mk.injEq, Option.some.injEq] at step
    obtain ⟨_, rfl⟩ := step
    have := Lexeme.read_length c more
    rw [left] at bound
    simp only [List.length_cons] at bound
    simp only
    omega

/-- All tokens from a cursor on; the last one ends the source. -/
def tokens (cursor : Cursor) : List Token :=
  match _step : cursor.next with
  | (token, none) => [token]
  | (token, some after) => token :: after.tokens
termination_by cursor.rest.length
decreasing_by exact next_length _step

end Cursor

/-- The tokens of a source text, ending with the one that marks its end. -/
def tokenize (source : String) : List Token :=
  (Cursor.ofSource source).tokens

/-- Why a source cannot be read at all. -/
inductive SourceError where
  /-- The source is a value of another kind than text. -/
  | notText (found : String)
  deriving DecidableEq, Repr

/-- The wording of a source error; it has no better place than the start. -/
def SourceError.message : SourceError → String
  | .notText found =>
    s!"Line {Position.start.line}, column {Position.start.column}: Expected source text, got {found}"

end Blueprint
