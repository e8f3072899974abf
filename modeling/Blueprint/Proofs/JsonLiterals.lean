import Blueprint.Text.Json
import Mathlib.Data.List.Basic

/-!
String literals of JSON. A literal stands for a text by its UTF-16 units: a plain character for those
of its own, an escape for one unit. The literal that is written for a text stands for that text.
-/
set_option autoImplicit false

namespace Blueprint.Text

/-! ## Hexadecimal digits -/

/-- The number that hexadecimal digits stand for. -/
def hexNumber? (digits : List Char) : Option Nat :=
  digits.foldlM (fun total c => (hexValue? c).map (total * 16 + ·)) 0

theorem hexValue?_hexDigit {value : Nat} (isDigit : value < 16) :
    hexValue? (hexDigit value) = some value := by
  have each : ∀ value < 16, hexValue? (hexDigit value) = some value := by decide
  exact each value isDigit

theorem length_hexDigits (width value : Nat) : (hexDigits width value).length = width := by
  induction width generalizing value with
  | zero => rfl
  | succ width ih => rw [hexDigits, List.length_append, ih, List.length_singleton]

/-- Four digits of a number that has no more stand for it. -/
theorem hexNumber?_hexDigits {value : Nat} (fits : value < 0x10000) :
    hexNumber? (hexDigits 4 value) = some value := by
  have digit (value : Nat) : hexValue? (hexDigit (value % 16)) = some (value % 16) :=
    hexValue?_hexDigit (Nat.mod_lt _ (by decide))
  simp only [hexNumber?, hexDigits, List.nil_append, List.cons_append, List.foldlM_cons,
    List.foldlM_nil, digit, Option.map_some, Option.bind_eq_bind, Option.bind_some, Option.pure_def]
  exact congrArg some (by omega)

/-! ## Literals -/

/-- The escapes of one character, with the units that they stand for. -/
def shortEscapes : List (Char × Nat) :=
  [('"', 0x22), ('\\', 0x5c), ('/', 0x2f), ('b', 0x08), ('f', 0x0c), ('n', 0x0a), ('r', 0x0d),
    ('t', 0x09)]

/-- What stands between the quotation marks of a literal, with the units that it stands for. -/
inductive SpellsUnits : List Nat → List Char → Prop where
  | nil : SpellsUnits [] []
  | plain {c : Char} {units : List Nat} {rest : List Char} (visible : 0x20 ≤ c.toNat)
    (bare : c ≠ '"' ∧ c ≠ '\\') (later : SpellsUnits units rest) :
    SpellsUnits (utf16Units c ++ units) (c :: rest)
  | short {c : Char} {unit : Nat} {units : List Nat} {rest : List Char}
    (isEscape : (c, unit) ∈ shortEscapes) (later : SpellsUnits units rest) :
    SpellsUnits (unit :: units) ('\\' :: c :: rest)
  | hex {digits : List Char} {unit : Nat} {units : List Nat} {rest : List Char}
    (four : digits.length = 4) (isNumber : hexNumber? digits = some unit)
    (later : SpellsUnits units rest) :
    SpellsUnits (unit :: units) ('\\' :: 'u' :: (digits ++ rest))

/-- A literal in quotation marks stands for a text. -/
def SpellsText (text : String) (literal : List Char) : Prop :=
  ∃ inside, literal = '"' :: (inside ++ ['"']) ∧
    SpellsUnits (text.toList.flatMap utf16Units) inside

namespace SpellsUnits

variable {units more : List Nat} {text rest : List Char}

theorem append (spells : SpellsUnits units text) (later : SpellsUnits more rest) :
    SpellsUnits (units ++ more) (text ++ rest) := by
  induction spells with
  | nil => exact later
  | plain visible bare _ ih =>
    rw [List.append_assoc]
    exact .plain visible bare ih
  | short isEscape _ ih => exact .short isEscape ih
  | hex four isNumber _ ih =>
    rw [List.cons_append, List.cons_append, List.cons_append, List.append_assoc]
    exact .hex four isNumber ih

theorem flatMap_hexDigits (fit : ∀ unit ∈ units, unit < 0x10000) :
    SpellsUnits units (units.flatMap fun unit => '\\' :: 'u' :: hexDigits 4 unit) := by
  induction units with
  | nil => exact .nil
  | cons unit units ih =>
    obtain ⟨fits, fit⟩ := List.forall_mem_cons.mp fit
    exact .hex (length_hexDigits 4 unit) (hexNumber?_hexDigits fits) (ih fit)

end SpellsUnits

theorem utf16Units_lt {c : Char} : ∀ unit ∈ utf16Units c, unit < 0x10000 := by
  have valid : c.toNat < 0x110000 := by
    rcases c.valid with low | ⟨_, high⟩
    · exact Nat.lt_trans low (by decide)
    · exact high
  intro unit member
  unfold utf16Units at member
  split at member
  · simp only [List.mem_singleton] at member
    omega
  · simp only [List.mem_cons, List.not_mem_nil, or_false] at member
    omega

theorem jsonChar_spells (c : Char) : SpellsUnits (utf16Units c) (jsonChar c) := by
  have short {given escape : Char} (same : (c == given) = true)
      (isEscape : (escape, given.toNat) ∈ shortEscapes) (low : given.toNat < 0x10000) :
      SpellsUnits (utf16Units c) ['\\', escape] := by
    rw [beq_iff_eq.mp same, utf16Units, if_pos low]
    exact .short isEscape .nil
  unfold jsonChar
  split_ifs with quote slash newline carriage tab back feed visible
  · exact short quote (by decide) (by decide)
  · exact short slash (by decide) (by decide)
  · exact short newline (by decide) (by decide)
  · exact short carriage (by decide) (by decide)
  · exact short tab (by decide) (by decide)
  · exact short back (by decide) (by decide)
  · exact short feed (by decide) (by decide)
  · simp only [Bool.and_eq_true, decide_eq_true_eq] at visible
    have plain : SpellsUnits (utf16Units c ++ []) [c] :=
      .plain visible.1 ⟨by simpa using quote, by simpa using slash⟩ .nil
    rwa [List.append_nil] at plain
  · exact .flatMap_hexDigits utf16Units_lt

theorem jsonString_spells (text : String) : SpellsText text (jsonString text).toList := by
  have inside : SpellsUnits (text.toList.flatMap utf16Units) (text.toList.flatMap jsonChar) := by
    induction text.toList with
    | nil => exact .nil
    | cons c rest ih => exact (jsonChar_spells c).append ih
  exact ⟨_, String.toList_ofList, inside⟩

end Blueprint.Text
