import Blueprint.Text.CharClass

/-!
Reading fragments from raw text. A reader takes the characters at some place and answers with what
it read and the characters that remain; `firstMatch` and `allMatches` try a reader at one place after
another.
-/
set_option autoImplicit false

namespace Blueprint.Text

def afterBlanks (text : List Char) : List Char :=
  text.dropWhile isBlank

/-- The characters after a literal, if the text starts with it. -/
def afterLiteral? (literal : String) (text : List Char) : Option (List Char) :=
  literal.toList.isPrefixOf? text

def afterMark? (mark : Char) (text : List Char) : Option (List Char) :=
  match afterBlanks text with
  | [] => none
  | c :: rest => if c == mark then some rest else none

/-- A run of word characters with at least one member, and what follows it. -/
def word? (text : List Char) : Option (List Char × List Char) :=
  match text.takeWhile isWordChar with
  | [] => none
  | run => some (run, text.dropWhile isWordChar)

/-- The characters before the first occurrence of a mark, and those after it. -/
def upTo? (mark : Char) : List Char → Option (List Char × List Char)
  | [] => none
  | c :: rest =>
    if c == mark then some ([], rest)
    else (upTo? mark rest).map fun (before, after) => (c :: before, after)

/-- The characters after at least one blank. -/
def afterSomeBlanks? : List Char → Option (List Char)
  | [] => none
  | c :: rest => if isBlank c then some (afterBlanks rest) else none

/-- A text in quotation marks after optional blanks, and what follows it. -/
def quotation? (text : List Char) : Option (List Char × List Char) :=
  (afterMark? '"' text).bind (upTo? '"')

/-- The answer of a reader at the first place where it gives one. -/
def firstMatch {α : Type} (read : List Char → Option α) : List Char → Option α
  | [] => read []
  | c :: rest => (read (c :: rest)).orElse fun _ => firstMatch read rest

/-- A reader that only starts where a word can start: not directly after a word character. -/
abbrev WordReader (α : Type) := (insideWord : Bool) → List Char → Option (α × List Char)

/-- The answers of a reader at all places, from left to right, each after the end of the one before.
The first argument says whether a word character stands before the text, the second how many
characters still belong to the last answer. -/
def matchesFrom {α : Type} (read : WordReader α) : Bool → Nat → List Char → List α
  | _, _, [] => []
  | _, taken + 1, c :: rest => matchesFrom read (isWordChar c) taken rest
  | insideWord, 0, c :: rest =>
    match read insideWord (c :: rest) with
    | some (answer, after) =>
      answer :: matchesFrom read (isWordChar c) (rest.length - after.length) rest
    | none => matchesFrom read (isWordChar c) 0 rest

/-- The answers of a reader at all places of a text, none overlapping another. -/
def allMatches {α : Type} (read : WordReader α) (text : List Char) : List α :=
  matchesFrom read false 0 text

end Blueprint.Text
