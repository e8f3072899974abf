import Blueprint.Number.Power

/-!
Binary floating-point numbers of 64 bits, given by sign, significand and exponent. `ofDecimal`
rounds a decimal number to the nearest of them, a tie going to the even significand, and to infinity
beyond the largest; the arithmetic is exact, on natural numbers.
-/
set_option autoImplicit false

namespace Blueprint

/-- Whether a significand and an exponent are the canonical form of a number: 53 bits, all of them
used unless the exponent is the least one. -/
def CanonicalParts (significand : Nat) (exponent : Int) : Prop :=
  significand < powerOfTwo 53 ∧ -1074 ≤ exponent ∧ exponent ≤ 971 ∧
    (powerOfTwo 52 ≤ significand ∨ exponent = -1074)

instance (significand : Nat) (exponent : Int) : Decidable (CanonicalParts significand exponent) := by
  unfold CanonicalParts
  infer_instance

/-- A binary floating-point number: `significand * 2 ^ exponent` with a sign, an infinity, or the
result of an undefined operation. -/
inductive Binary64 where
  | nan
  | infinite (negative : Bool)
  | finite (negative : Bool) (significand : Nat) (exponent : Int)
      (canonical : CanonicalParts significand exponent)
  deriving DecidableEq

namespace Binary64

def zero (negative : Bool) : Binary64 :=
  .finite negative 0 (-1074) (by decide)

instance : Inhabited Binary64 := ⟨zero false⟩

/-- A number from its parts; parts out of range stand for infinity. -/
def ofParts (negative : Bool) (significand : Nat) (exponent : Int) : Binary64 :=
  if canonical : CanonicalParts significand exponent then
    .finite negative significand exponent canonical
  else .infinite negative

/-- The quotient rounded to the nearest natural number, a half going to the even neighbour. -/
def roundDiv (num den : Nat) : Nat :=
  let quotient := num / den
  let twice := 2 * (num % den)
  if twice > den || (twice == den && quotient % 2 == 1) then quotient + 1 else quotient

/-- The fraction `num / den` divided by `2 ^ exponent`, as a fraction. -/
def scaleDown (num den : Nat) (exponent : Int) : Nat × Nat :=
  match exponent with
  | .ofNat e => (num, den * powerOfTwo e)
  | .negSucc e => (num * powerOfTwo (e + 1), den)

/-- The exponent at which `num / den` has a significand of 53 bits, or the least exponent. -/
def exponentFor (num den : Nat) : Int :=
  let guess := max ((num.log2 : Int) - den.log2 - 52) (-1074)
  let (top, bottom) := scaleDown num den guess
  if top / bottom < powerOfTwo 52 then max (guess - 1) (-1074) else guess

/-- The number nearest to `num / den`. -/
def ofRatio (negative : Bool) (num den : Nat) : Binary64 :=
  if num == 0 then zero negative
  else
    let exponent := exponentFor num den
    let (top, bottom) := scaleDown num den exponent
    let significand := roundDiv top bottom
    if significand == powerOfTwo 53 then ofParts negative (powerOfTwo 52) (exponent + 1)
    else ofParts negative significand exponent

/-- The number nearest to `digits * 10 ^ exponent`. -/
def ofDecimal (negative : Bool) (digits : Nat) (exponent : Int) : Binary64 :=
  match exponent with
  | .ofNat e => ofRatio negative (digits * powerOfTen e) 1
  | .negSucc e => ofRatio negative digits (powerOfTen (e + 1))

end Binary64

end Blueprint
