import Blueprint.Number.Binary64

/-!
Comparing floating-point numbers by value, with each other and with integers.
-/
set_option autoImplicit false

namespace Blueprint.Binary64

/-- The natural number `significand * 2 ^ exponent`, if it is one. -/
def wholeMagnitude? (significand : Nat) : Int → Option Nat
  | .ofNat e => some (significand * powerOfTwo e)
  | .negSucc e =>
    if significand % powerOfTwo (e + 1) == 0 then some (significand / powerOfTwo (e + 1)) else none

/-- The integer that a number is, if it is one. -/
def toInt? : Binary64 → Option Int
  | .finite negative significand exponent _ =>
    (wholeMagnitude? significand exponent).map fun n => if negative then -(n : Int) else n
  | _ => none

/-- Whether two numbers have the same value: zeros are equal whatever their sign, and an undefined
result equals nothing. -/
def sameValue : Binary64 → Binary64 → Bool
  | .infinite a, .infinite b => a == b
  | .finite a m e _, .finite b n f _ => m == n && e == f && (a == b || m == 0)
  | _, _ => false

end Blueprint.Binary64
