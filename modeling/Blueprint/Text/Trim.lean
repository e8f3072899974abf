import Blueprint.Text.CharClass

/-!
Cutting texts: blanks removed from the ends, a character removed from one end, and splitting at a
character. The list forms hold the rules; the forms on `String` only change the representation.
-/
set_option autoImplicit false

namespace Blueprint.Text

/-- A list without the items at its end that satisfy a test. -/
def dropEndWhile {α : Type} (test : α → Bool) (items : List α) : List α :=
  (items.reverse.dropWhile test).reverse

/-- The characters without blanks at either end. -/
def trimChars (text : List Char) : List Char :=
  dropEndWhile isBlank (text.dropWhile isBlank)

/-- The text without blanks at either end. -/
def trim (text : String) : String :=
  String.ofList (trimChars text.toList)

/-- The text without a character at its start, however often it stands there. -/
def dropLeading (c : Char) (text : String) : String :=
  String.ofList (text.toList.dropWhile (· == c))

/-- The text without a character at its end, however often it stands there. -/
def dropTrailing (c : Char) (text : String) : String :=
  String.ofList (dropEndWhile (· == c) text.toList)

/-- The pieces between the occurrences of a separator; there is always one more piece than
separators. -/
def splitChars (separator : Char) : List Char → List (List Char)
  | [] => [[]]
  | c :: rest =>
    if c == separator then [] :: splitChars separator rest
    else match splitChars separator rest with
      | [] => [[c]]
      | piece :: pieces => (c :: piece) :: pieces

def split (separator : Char) (text : String) : List String :=
  (splitChars separator text.toList).map String.ofList

def occursIn (part : List Char) : List Char → Bool
  | [] => part.isEmpty
  | c :: rest => part.isPrefixOf (c :: rest) || occursIn part rest

/-- A text with every occurrence of a character replaced. -/
def replaceChar (c : Char) (replacement : String) (text : String) : String :=
  String.ofList (text.toList.flatMap fun d => if d == c then replacement.toList else [d])

end Blueprint.Text
