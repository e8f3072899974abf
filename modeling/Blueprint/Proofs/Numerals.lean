import Blueprint.Proofs.Rendering

/-!
Numbers that are written and read. An integer is the value of its digits, and a finite floating-point
number is the one nearest to its decimal expansion, which is exact.
-/
set_option autoImplicit false

namespace Blueprint

open Text

/-! ## Digits -/

/-- Digits of the common script only. -/
def Decimal (digits : List Char) : Prop := ∀ c ∈ digits, c.isDigit = true

theorem isDigit_of_decimal {c : Char} (digit : c.isDigit = true) : isDigit c = true := by
  have bounds : 48 ≤ c.toNat ∧ c.toNat ≤ 57 := by
    simpa [Char.isDigit, UInt32.le_iff_toNat_le] using digit
  rw [isDigit, inClass, if_pos (by omega)]
  exact digit

theorem digitValue_of_decimal {c : Char} (digit : c.isDigit = true) :
    digitValue c = c.toNat - 48 := by
  have bounds : 48 ≤ c.toNat ∧ c.toNat ≤ 57 := by
    simpa [Char.isDigit, UInt32.le_iff_toNat_le] using digit
  rw [digitValue, if_pos (by omega)]

theorem Decimal.isDigits {digits : List Char} (decimal : Decimal digits) (some : digits ≠ []) :
    IsDigits digits :=
  ⟨some, fun c member => isDigit_of_decimal (decimal c member)⟩

theorem Decimal.append {digits more : List Char} (first : Decimal digits) (second : Decimal more) :
    Decimal (digits ++ more) :=
  List.forall_mem_append.mpr ⟨first, second⟩

theorem Decimal.not_mem {digits : List Char} (decimal : Decimal digits) {c : Char}
    (other : c.isDigit = false) : c ∉ digits := by
  intro member
  rw [decimal c member] at other
  contradiction

theorem decimal_toDigits (number : Nat) : Decimal (Nat.toDigits 10 number) :=
  fun _ member => Nat.isDigit_of_mem_toDigits (by omega) (by omega) member

theorem decimal_lastDigits (count number : Nat) : Decimal (Written.lastDigits count number) := by
  induction count generalizing number with
  | zero => intro c member; contradiction
  | succ count ih =>
    rw [Written.lastDigits]
    refine (ih _).append ?_
    intro c member
    rw [List.mem_singleton.mp member]
    simp [Nat.mod_lt]

theorem length_lastDigits (count number : Nat) :
    (Written.lastDigits count number).length = count := by
  induction count generalizing number with
  | zero => rfl
  | succ count ih => simp [Written.lastDigits, ih]

/-! ## The value of digits -/

theorem natural_eq {digits : List Char} (decimal : Decimal digits) :
    Numeral.natural digits = Nat.ofDigitChars 10 digits 0 := by
  unfold Numeral.natural Nat.ofDigitChars
  generalize 0 = total
  induction digits generalizing total with
  | nil => rfl
  | cons c digits ih =>
    rw [List.foldl_cons, List.foldl_cons, digitValue_of_decimal (decimal c List.mem_cons_self)]
    exact ih (fun d member => decimal d (List.mem_cons_of_mem c member)) _

theorem natural_toDigits (number : Nat) : Numeral.natural (Nat.toDigits 10 number) = number := by
  rw [natural_eq (decimal_toDigits number), Nat.ofDigitChars_ten_toDigits]

theorem ofDigitChars_lastDigits (count number : Nat) :
    Nat.ofDigitChars 10 (Written.lastDigits count number) 0 = number % 10 ^ count := by
  induction count generalizing number with
  | zero => simp [Written.lastDigits, Nat.mod_one]
  | succ count ih =>
    rw [Written.lastDigits, Nat.ofDigitChars_append, ih,
      Nat.ofDigitChars_cons_digitChar_of_lt_ten (Nat.mod_lt _ (by omega)), Nat.ofDigitChars_nil,
      Nat.pow_succ, Nat.mul_comm (10 ^ count) 10, Nat.mod_mul]
    omega

/-- The digits before the point and those after it make up the whole number. -/
theorem natural_decimal (number places : Nat) :
    Numeral.natural (Nat.toDigits 10 (number / 10 ^ places) ++ Written.lastDigits places number) =
      number := by
  rw [natural_eq ((decimal_toDigits _).append (decimal_lastDigits _ _)), Nat.ofDigitChars_append,
    Nat.ofDigitChars_ten_toDigits, Nat.ofDigitChars_eq_ofDigitChars_zero, length_lastDigits,
    ofDigitChars_lastDigits, Nat.div_add_mod]

/-! ## Integers -/

theorem splitSign_sign (negative : Bool) {digits : List Char} (decimal : Decimal digits) (more : List Char)
    (some : digits ≠ []) :
    Numeral.splitSign (Written.sign negative ++ (digits ++ more)) = (negative, digits ++ more) := by
  cases negative with
  | true => rfl
  | false =>
    cases digits with
    | nil => contradiction
    | cons c digits =>
      have notSign : c ≠ '-' := by
        rintro rfl
        exact absurd (decimal '-' List.mem_cons_self) (by decide)
      simp only [Written.sign, Bool.false_eq_true, if_false, List.nil_append, List.cons_append]
      unfold Numeral.splitSign
      split
      · next same => exact absurd (List.cons.inj same).1 notSign
      · rfl

theorem int?_integer {i : Int} (short : (Nat.toDigits 10 i.natAbs).length ≤ Numeral.maxDigits) :
    Numeral.int? (Written.integer i) = some i := by
  have split := splitSign_sign (i < 0) (decimal_toDigits i.natAbs) [] Nat.toDigits_ne_nil
  rw [List.append_nil] at split
  rw [Written.integer, Numeral.int?, split]
  simp only [Nat.not_lt.mpr short, if_false, natural_toDigits, decide_eq_true_eq, Option.some.injEq]
  split <;> omega

theorem isNumber_integer (i : Int) : IsNumber (Written.integer i) := by
  refine ⟨Written.sign (i < 0), Nat.toDigits 10 i.natAbs, [], by simp [Written.integer], ?_, ?_,
    .inl rfl⟩
  · unfold Written.sign
    split
    · exact .inr rfl
    · exact .inl rfl
  · exact (decimal_toDigits _).isDigits Nat.toDigits_ne_nil

theorem point_not_mem_integer (i : Int) : '.' ∉ Written.integer i := by
  intro inside
  rcases List.mem_append.mp inside with inside | inside
  · unfold Written.sign at inside
    split at inside
    · simp at inside
    · contradiction
  · exact (decimal_toDigits _).not_mem (by decide) inside

end Blueprint
