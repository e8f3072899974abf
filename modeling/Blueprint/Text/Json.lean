import Blueprint.Text.Hex

/-!
String literals of JSON in pure ASCII. Quotation mark, backslash and the common controls have short
escapes; everything outside the printable ASCII block is written in UTF-16 units of four hexadecimal
digits.
-/
set_option autoImplicit false

namespace Blueprint.Text

def utf16Units (c : Char) : List Nat :=
  if c.toNat < 0x10000 then [c.toNat]
  else [0xd800 + (c.toNat - 0x10000) / 0x400, 0xdc00 + (c.toNat - 0x10000) % 0x400]

def jsonChar (c : Char) : List Char :=
  if c == '"' then ['\\', '"']
  else if c == '\\' then ['\\', '\\']
  else if c == '\n' then ['\\', 'n']
  else if c == '\r' then ['\\', 'r']
  else if c == '\t' then ['\\', 't']
  else if c == '\x08' then ['\\', 'b']
  else if c == '\x0c' then ['\\', 'f']
  else if 0x20 ≤ c.toNat && c.toNat < 0x7f then [c]
  else (utf16Units c).flatMap fun unit => '\\' :: 'u' :: hexDigits 4 unit

def jsonString (text : String) : String :=
  String.ofList ('"' :: text.toList.flatMap jsonChar ++ ['"'])

end Blueprint.Text
