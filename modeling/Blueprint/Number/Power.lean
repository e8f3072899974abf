/-!
Powers of the two bases that numbers are written in.
-/
set_option autoImplicit false

namespace Blueprint

def powerOfTwo (exponent : Nat) : Nat := Nat.pow 2 exponent

def powerOfTen (exponent : Nat) : Nat := Nat.pow 10 exponent

end Blueprint
