import Blueprint.Text.CharClass
import Blueprint.Text.Hex

/-!
Quoted text for diagnostics. A text is put between apostrophes, or between quotation marks when it
holds an apostrophe and no quotation mark; the delimiter and the backslash are escaped inside, line
breaks and tabs have short escapes, and every other character that is not printable is shown by its
code in two, four or eight hexadecimal digits.
-/
set_option autoImplicit false

namespace Blueprint.Text

def quoteMark (text : List Char) : Char :=
  if text.contains '\'' && !text.contains '"' then '"' else '\''

/-- One character inside a text quoted with `mark`. -/
def quoteChar (mark : Char) (c : Char) : List Char :=
  if c == mark || c == '\\' then ['\\', c]
  else if c == '\n' then ['\\', 'n']
  else if c == '\r' then ['\\', 'r']
  else if c == '\t' then ['\\', 't']
  else if isPrintable c then [c]
  else if c.toNat < 0x100 then '\\' :: 'x' :: hexDigits 2 c.toNat
  else if c.toNat < 0x10000 then '\\' :: 'u' :: hexDigits 4 c.toNat
  else '\\' :: 'U' :: hexDigits 8 c.toNat

def quoteChars (text : List Char) : List Char :=
  let mark := quoteMark text
  mark :: text.flatMap (quoteChar mark) ++ [mark]

def quoted (text : String) : String :=
  String.ofList (quoteChars text.toList)

end Blueprint.Text
