import Blueprint.Number.Binary64

/-!
The decimal text of a floating-point number: the fewest digits that read back as the number, and of
those the nearest to it. The digits are found by trying the two neighbours of the number on ever
finer decimal grids, in exact arithmetic. Positional notation is used for values from 1e-4 up to,
and not including, 1e16.
-/
set_option autoImplicit false

namespace Blueprint

namespace Binary64

/-- The values that round to a number: the fractions between `low / den` and `high / den`, with the
ends when `closed`. The number itself is `value / den`. -/
structure RoundingInterval where
  low : Nat
  value : Nat
  high : Nat
  den : Nat
  closed : Bool

/-- The rounding interval of `significand * 2 ^ exponent`. Below a power of two the neighbour is
half as far away. -/
def roundingInterval (significand : Nat) (exponent : Int) : RoundingInterval :=
  let below := if significand == powerOfTwo 52 && exponent > -1074 then 1 else 2
  let (factor, den) := match exponent - 2 with
    | .ofNat e => (powerOfTwo e, 1)
    | .negSucc e => (1, powerOfTwo (e + 1))
  { low := (4 * significand - below) * factor
    value := 4 * significand * factor
    high := (4 * significand + 2) * factor
    den := den
    closed := significand % 2 == 0 }

namespace RoundingInterval

/-- Whether `digits * 10 ^ exponent` rounds to the number. -/
def contains (interval : RoundingInterval) (digits : Nat) (exponent : Int) : Bool :=
  let (left, right) := match exponent with
    | .ofNat e => (digits * powerOfTen e * interval.den, 1)
    | .negSucc e => (digits * interval.den, powerOfTen (e + 1))
  if interval.closed then interval.low * right ≤ left && left ≤ interval.high * right
  else interval.low * right < left && left < interval.high * right

/-- The number of digits before the decimal point; zero or less for values below one. -/
def decimalPoint (interval : RoundingInterval) : Int :=
  (Nat.toDigits 10 (interval.value * powerOfTen 400 / interval.den)).length - (400 : Int)

/-- The value in units of `10 ^ exponent`, as a fraction. -/
def inUnits (interval : RoundingInterval) (exponent : Int) : Nat × Nat :=
  match exponent with
  | .ofNat e => (interval.value, interval.den * powerOfTen e)
  | .negSucc e => (interval.value * powerOfTen (e + 1), interval.den)

/-- The neighbour of the value on a decimal grid that rounds to the number, if there is one: the
nearer of the two, a tie going to the even one. -/
def onGrid? (interval : RoundingInterval) (exponent : Int) : Option Nat :=
  let (top, bottom) := interval.inUnits exponent
  let floor := top / bottom
  let nearest := roundDiv top bottom
  let other := if nearest == floor then floor + 1 else floor
  if interval.contains nearest exponent then some nearest
  else if interval.contains other exponent then some other
  else none

/-- The shortest decimal that rounds to the number, as digits and an exponent of ten. Seventeen
digits always suffice. -/
def shortest (interval : RoundingInterval) : Nat × Int :=
  let point := interval.decimalPoint
  ((List.range' 1 17).findSome? fun (count : Nat) =>
    let exponent := point - (count : Int)
    (interval.onGrid? exponent).map fun digits => (digits, exponent)).getD (0, 0)

end RoundingInterval

def zeros (count : Nat) : List Char :=
  List.replicate count '0'

/-- Positional notation for `0.d₁d₂… * 10 ^ point`; there is always a digit after the mark. -/
def positional (digits : List Char) (point : Int) : List Char :=
  match point with
  | .negSucc gap => '0' :: '.' :: zeros (gap + 1) ++ digits
  | .ofNat 0 => '0' :: '.' :: digits
  | .ofNat places =>
    if digits.length ≤ places then digits ++ zeros (places - digits.length) ++ ['.', '0']
    else digits.take places ++ '.' :: digits.drop places

/-- An exponent with its sign and at least two digits. -/
def exponentText (exponent : Int) : List Char :=
  let digits := Nat.toDigits 10 exponent.natAbs
  (if exponent < 0 then '-' else '+') :: zeros (2 - digits.length) ++ digits

/-- Scientific notation for `0.d₁d₂… * 10 ^ point`. -/
def scientific (digits : List Char) (point : Int) : List Char :=
  (match digits with
    | [] => []
    | [d] => [d]
    | d :: rest => d :: '.' :: rest) ++ 'e' :: exponentText (point - 1)

def magnitudeText (significand : Nat) (exponent : Int) : List Char :=
  let (number, scale) := (roundingInterval significand exponent).shortest
  let written := Nat.toDigits 10 number
  let point := written.length + scale
  let digits := (written.reverse.dropWhile (· == '0')).reverse
  if -4 < point && point ≤ 16 then positional digits point else scientific digits point

/-- The spellings of the values that have no digits. -/
structure SpecialTexts where
  nan : String
  infinity : String

def text (special : SpecialTexts) : Binary64 → String
  | .nan => special.nan
  | .infinite negative => (if negative then "-" else "") ++ special.infinity
  | .finite negative significand exponent _ =>
    (if negative then "-" else "") ++
      (if significand == 0 then "0.0" else String.ofList (magnitudeText significand exponent))

def plainText : Binary64 → String :=
  text ⟨"nan", "inf"⟩

end Binary64

end Blueprint
