import Blueprint.Number.Binary64
import Blueprint.Text.CharClass

/-!
The values of decimal numerals. Digits of any script count; the length of an integer literal is
limited, that of a literal with a fraction is not.
-/
set_option autoImplicit false

namespace Blueprint.Numeral

open Blueprint.Text

def natural (digits : List Char) : Nat :=
  digits.foldl (fun total c => 10 * total + digitValue c) 0

/-- The most digits an integer literal may have. -/
def maxDigits : Nat := 4300

def splitSign : List Char → Bool × List Char
  | '-' :: digits => (true, digits)
  | digits => (false, digits)

/-- The value of an integer literal, unless it has too many digits. -/
def int? (text : List Char) : Option Int :=
  let (negative, digits) := splitSign text
  if digits.length > maxDigits then none
  else some (if negative then -(natural digits : Int) else natural digits)

def float (text : List Char) : Binary64 :=
  let (negative, digits) := splitSign text
  let whole := digits.takeWhile (· != '.')
  let fraction := (digits.dropWhile (· != '.')).drop 1
  Binary64.ofDecimal negative (natural (whole ++ fraction)) (-(fraction.length : Int))

end Blueprint.Numeral
