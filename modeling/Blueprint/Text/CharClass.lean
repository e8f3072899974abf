import Blueprint.Text.CharRanges

/-!
The character classes that source text is read by: blanks, letters, decimal digits, the characters
of a word, and the characters that a quoted text shows as they are. Each class is a rule on the
ASCII block and a table of ranges beyond it.
-/
set_option autoImplicit false

namespace Blueprint.Text

def inRanges (ranges : List (Nat × Nat)) (code : Nat) : Bool :=
  ranges.any fun range => range.1 ≤ code && code ≤ range.2

def inClass (ascii : Char → Bool) (ranges : List (Nat × Nat)) (c : Char) : Bool :=
  if c.toNat < 0x80 then ascii c else inRanges ranges c.toNat

/-- White space: tab to carriage return, the four information separators, the space, and the
separators and line breaks beyond ASCII. -/
def isBlank : Char → Bool :=
  inClass (fun c => c.toNat == 0x20 || (9 ≤ c.toNat && c.toNat ≤ 13)
    || (0x1c ≤ c.toNat && c.toNat ≤ 0x1f)) blankRanges

def isLetter : Char → Bool :=
  inClass Char.isAlpha letterRanges

def isDigit : Char → Bool :=
  inClass Char.isDigit decimalRanges

/-- The value of a decimal digit: its distance, modulo ten, from the start of its range. -/
def digitValue (c : Char) : Nat :=
  if c.toNat < 0x80 then c.toNat - 0x30
  else match decimalRanges.find? (fun range => range.1 ≤ c.toNat && c.toNat ≤ range.2) with
    | some range => (c.toNat - range.1) % 10
    | none => 0

/-- The characters of a word: letters, characters with a numeric value, and the underscore. -/
def isWordChar (c : Char) : Bool :=
  c == '_' || isLetter c || inClass Char.isDigit numericRanges c

/-- The characters a word may start with: letters and the underscore. -/
def isWordStart (c : Char) : Bool :=
  c == '_' || isLetter c

/-- The characters a quoted text shows as they are. The space is one, other blanks are not. -/
def isPrintable (c : Char) : Bool :=
  if c.toNat < 0x80 then 0x20 ≤ c.toNat && c.toNat < 0x7f else !inRanges hiddenRanges c.toNat

end Blueprint.Text
