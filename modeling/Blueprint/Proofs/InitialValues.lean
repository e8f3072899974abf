import Blueprint.Proofs.JsonLiterals
import Blueprint.Proofs.Validity
import Blueprint.Sources.Basic
import Blueprint.Sources.Types

/-!
Initial values of properties in TypeScript. The checks let a default be any text, but for that of an
enumeration, which is one of its values. A default of texts or dates is quoted and so is a literal
whatever it is; a number or a truth value is written as it stands, and a default of `array` or
`object` is quoted like a text. So the initial value of a property has the property's type exactly if
its default, where one is written out, is spelled like a literal of that type.
-/
set_option autoImplicit false

namespace Blueprint

open Text

/-! ## Types and their literals -/

/-- The types of TypeScript that stand for the primitive types. -/
inductive PlainType where
  | text
  | number
  | truth
  | date
  | values
  | record
  deriving DecidableEq, Repr

/-- The types of properties in TypeScript. -/
inductive ValueType where
  | plain (type : PlainType)
  | listOf (type : PlainType)
  | oneOf (texts : List String)
  deriving DecidableEq, Repr

def PlainType.spelling : PlainType → String
  | .text => "string"
  | .number => "number"
  | .truth => "boolean"
  | .date => "Date"
  | .values => "any[]"
  | .record => "Record<string, any>"

def ValueType.spelling : ValueType → String
  | .plain type => type.spelling
  | .listOf type => type.spelling ++ "[]"
  | .oneOf texts => " | ".intercalate (texts.map jsonString)

/-- The exponent of a decimal literal, which may be left out. -/
def isExponent : List Char → Bool
  | [] => true
  | mark :: text =>
    let digits := match text with
      | '+' :: digits | '-' :: digits => digits
      | digits => digits
    (mark == 'e' || mark == 'E') && !digits.isEmpty && digits.all Char.isDigit

/-- A decimal literal without separators: digits, of which the first is no zero in front of others,
then perhaps a fraction and an exponent; or a fraction alone. A minus may stand in front. -/
def isDecimal (text : List Char) : Bool :=
  let digits := match text with
    | '-' :: digits => digits
    | digits => digits
  let whole := digits.takeWhile Char.isDigit
  let plain := whole.head? != some '0' || whole == ['0']
  match digits.dropWhile Char.isDigit with
  | '.' :: text =>
    let fraction := text.takeWhile Char.isDigit
    plain && !(whole ++ fraction).isEmpty && isExponent (text.dropWhile Char.isDigit)
  | text => plain && !whole.isEmpty && isExponent text

example : isDecimal "-0.5e+3".toList = true ∧ isDecimal "007".toList = false := by decide

/-- Parts with commas between them inside brackets. -/
def bracketed (opening : Char) (parts : List (List Char)) (closing : Char) : List Char :=
  opening :: (List.intercalate [',', ' '] parts ++ [closing])

/-- The literals and constructor expressions of a type. -/
inductive Inhabits : ValueType → List Char → Prop where
  | emptyText : Inhabits (.plain .text) ['\'', '\'']
  | text {text : String} {literal : List Char} (spells : SpellsText text literal) :
    Inhabits (.plain .text) literal
  | number {literal : List Char} (decimal : isDecimal literal = true) :
    Inhabits (.plain .number) literal
  | truth (value : Bool) : Inhabits (.plain .truth) (Sources.flag value).toList
  | now : Inhabits (.plain .date) "new Date()".toList
  | date {literal : List Char} (argument : Inhabits (.plain .text) literal) :
    Inhabits (.plain .date) ("new Date(".toList ++ (literal ++ [')']))
  | values {items : List (ValueType × List Char)} (each : ∀ item ∈ items, Inhabits item.1 item.2) :
    Inhabits (.plain .values) (bracketed '[' (items.map Prod.snd) ']')
  | record {entries : List (String × ValueType × List Char)}
    (each : ∀ entry ∈ entries, Inhabits entry.2.1 entry.2.2) :
    Inhabits (.plain .record)
      (bracketed '\x7b' (entries.map fun entry =>
        (jsonString entry.1).toList ++ ':' :: ' ' :: entry.2.2) '\x7d')
  | list {type : PlainType} {items : List (List Char)}
    (each : ∀ item ∈ items, Inhabits (.plain type) item) :
    Inhabits (.listOf type) (bracketed '[' items ']')
  | alternative {texts : List String} {text : String} {literal : List Char} (member : text ∈ texts)
    (spells : SpellsText text literal) : Inhabits (.oneOf texts) literal

namespace Inhabits

variable {literal : List Char}

theorem number_iff : Inhabits (.plain .number) literal ↔ isDecimal literal = true := by
  constructor
  · intro inhabits
    cases inhabits with
    | number decimal => exact decimal
  · exact .number

theorem truth_iff {text : String} :
    Inhabits (.plain .truth) text.toList ↔ text = "true" ∨ text = "false" := by
  constructor
  · intro inhabits
    generalize same : text.toList = literal at inhabits
    cases inhabits with
    | truth value =>
      rw [String.toList_inj] at same
      cases value
      · exact .inr same
      · exact .inl same
  · rintro (rfl | rfl)
    · exact .truth true
    · exact .truth false

theorem values_head (inhabits : Inhabits (.plain .values) literal) : literal.head? = some '[' := by
  cases inhabits with
  | values => rfl

theorem record_head (inhabits : Inhabits (.plain .record) literal) :
    literal.head? = some '\x7b' := by
  cases inhabits with
  | record => rfl

theorem emptyValues : Inhabits (.plain .values) "[]".toList :=
  values (List.forall_mem_nil _)

theorem emptyRecord : Inhabits (.plain .record) "\x7b\x7d".toList :=
  record (List.forall_mem_nil _)

theorem emptyList {type : PlainType} : Inhabits (.listOf type) "[]".toList :=
  list (List.forall_mem_nil _)

end Inhabits

/-! ## Primitive types -/

namespace DataType

def plainType : DataType → PlainType
  | .string => .text
  | .number | .decimal => .number
  | .boolean => .truth
  | .date => .date
  | .array => .values
  | .object => .record

/-- A default of a type is a literal of it where it is written out. -/
def Takes : DataType → String → Prop
  | .string, _ | .date, _ => True
  | .number, text | .decimal, text => isDecimal text.toList = true
  | .boolean, text => text = "true" ∨ text = "false"
  | .array, _ | .object, _ => False

instance decidableTakes : (type : DataType) → (text : String) → Decidable (type.Takes text)
  | .string, _ | .date, _ => inferInstanceAs (Decidable True)
  | .number, text | .decimal, text => inferInstanceAs (Decidable (isDecimal text.toList = true))
  | .boolean, text => inferInstanceAs (Decidable (text = "true" ∨ text = "false"))
  | .array, _ | .object, _ => inferInstanceAs (Decidable False)

theorem spelling_plainType (type : DataType) : type.plainType.spelling = type.typeScript := by
  cases type <;> rfl

theorem initial_inhabits (type : DataType) :
    Inhabits (.plain type.plainType) type.typeScriptInitial.toList := by
  cases type with
  | string => exact .emptyText
  | number | decimal => exact .number rfl
  | boolean => exact .truth false
  | date => exact .now
  | array => exact .emptyValues
  | object => exact .emptyRecord

/-- A quoted text is no literal of lists or records, which begin with a bracket. -/
theorem given_inhabits_iff {type : DataType} {text : String} :
    Inhabits (.plain type.plainType) (Property.typeScriptGiven (some type) text).toList ↔
      type.Takes text := by
  have quoted : Inhabits (.plain .text) (jsonString text).toList := .text (jsonString_spells text)
  have head : (jsonString text).toList.head? = some '"' := by
    rw [jsonString, String.toList_ofList]
    rfl
  cases type with
  | string => exact iff_of_true quoted trivial
  | number | decimal => exact Inhabits.number_iff
  | boolean => exact Inhabits.truth_iff
  | date =>
    have spelling : (Property.typeScriptGiven (some .date) text).toList =
        "new Date(".toList ++ ((jsonString text).toList ++ [')']) := by
      simp [Property.typeScriptGiven, toString]
    rw [spelling]
    exact iff_of_true (.date quoted) trivial
  | array =>
    apply iff_of_false _ id
    intro inhabits
    have bracket : (jsonString text).toList.head? = some '[' := inhabits.values_head
    rw [head] at bracket
    exact absurd bracket (by decide)
  | object =>
    apply iff_of_false _ id
    intro inhabits
    have bracket : (jsonString text).toList.head? = some '\x7b' := inhabits.record_head
    rw [head] at bracket
    exact absurd bracket (by decide)

end DataType

/-! ## Properties -/

namespace Property

variable {property : Property}

/-- The type of a property in TypeScript, if its type is known. -/
def valueType? (property : Property) : Option ValueType :=
  if !property.enumValues.isEmpty && !property.type.isArray then some (.oneOf property.enumValues)
  else property.type.dataType?.map fun type =>
    if property.type.isArray then .listOf type.plainType else .plain type.plainType

/-- The default of a property is a literal of its type, if it is written out at all. -/
def DefaultFits (property : Property) : Prop :=
  property.type.isArray = false → ∀ text ∈ property.defaultValue,
    ∀ type ∈ property.type.dataType?, type.Takes text

instance (property : Property) : Decidable property.DefaultFits :=
  inferInstanceAs (Decidable (_ → _))

theorem spelling_valueType {type : ValueType} (isType : property.valueType? = some type) :
    type.spelling = property.typeScriptType := by
  unfold valueType? at isType
  unfold typeScriptType
  split at isType
  · next enumerated =>
    obtain rfl := Option.some.inj isType
    rw [if_pos enumerated]
    rfl
  · next other =>
    obtain ⟨primitive, isPrimitive, rfl⟩ := Option.map_eq_some_iff.mp isType
    rw [if_neg other, TypeRef.typeScript, TypeRef.baseName, isPrimitive]
    cases property.type.isArray with
    | false => exact primitive.spelling_plainType
    | true => exact congrArg (· ++ "[]") primitive.spelling_plainType

theorem exists_dataType (valid : ValidProperty property) :
    ∃ type, property.type.dataType? = some type := by
  have known := isUnknownType_eq_false_iff.mpr valid.known
  exact Option.isSome_iff_exists.mp (by simpa [Validation.isUnknownType] using known)

theorem typeScriptDefault_of_isArray (isArray : property.type.isArray = true) :
    property.typeScriptDefault = "[]" := by
  rw [typeScriptDefault, if_pos isArray]

/-- The values of an enumeration are texts, so its default is quoted, and it is one of them. -/
theorem enumeration_inhabits (isArray : property.type.isArray = false)
    (enumerated : property.enumValues ≠ []) (valid : ValidEnumeration property) :
    Inhabits (.oneOf property.enumValues) property.typeScriptDefault.toList := by
  have isText : property.type.dataType? = some .string := dataType?_eq_string_iff.mpr valid.texts
  rw [typeScriptDefault, if_neg (by simp [isArray]), isText]
  cases isDefault : property.defaultValue with
  | some text => exact .alternative (valid.holdsDefault text isDefault) (jsonString_spells text)
  | none =>
    obtain ⟨value, rest, values⟩ := List.exists_cons_of_ne_nil enumerated
    rw [values]
    exact .alternative (.head rest) (jsonString_spells value)

theorem plain_inhabits_iff {type : DataType} (isType : property.type.dataType? = some type)
    (isArray : property.type.isArray = false) (plain : property.enumValues = []) :
    Inhabits (.plain type.plainType) property.typeScriptDefault.toList ↔ property.DefaultFits := by
  rw [typeScriptDefault, if_neg (by simp [isArray]), isType, plain, DefaultFits]
  cases property.defaultValue with
  | some text =>
    rw [DataType.given_inhabits_iff]
    simp [isArray, isType]
  | none => exact iff_of_true type.initial_inhabits (by simp)

end Property

/-- The initial value of a property without errors is a literal or a constructor expression of the
property's type exactly if the default that the property has, if any, is one where it is written out:
a decimal literal for numbers, a truth value for `boolean`, any text for texts and dates, and none for
`array` and `object`. -/
theorem initialValue_inhabits_iff {model : Model} {property : Property}
    (errorless : Errorless (Validation.propertyFindings model property)) :
    ∃ type, property.valueType? = some type ∧ type.spelling = property.typeScriptType ∧
      (property.type.isArray = true → property.typeScriptDefault = "[]") ∧
      (Inhabits type property.typeScriptDefault.toList ↔ property.DefaultFits) := by
  have valid := errorless_propertyFindings.mp errorless
  obtain ⟨primitive, isPrimitive⟩ := Property.exists_dataType valid
  suffices ∃ type, property.valueType? = some type ∧
      (Inhabits type property.typeScriptDefault.toList ↔ property.DefaultFits) by
    obtain ⟨type, isType, inhabits⟩ := this
    exact ⟨type, isType, Property.spelling_valueType isType,
      Property.typeScriptDefault_of_isArray, inhabits⟩
  cases isArray : property.type.isArray with
  | true =>
    refine ⟨.listOf primitive.plainType, by simp [Property.valueType?, isArray, isPrimitive], ?_⟩
    rw [Property.typeScriptDefault_of_isArray isArray]
    exact iff_of_true .emptyList (by simp [Property.DefaultFits, isArray])
  | false =>
    by_cases plain : property.enumValues = []
    · refine ⟨.plain primitive.plainType,
        by simp [Property.valueType?, isArray, isPrimitive, plain], ?_⟩
      exact Property.plain_inhabits_iff isPrimitive isArray plain
    · refine ⟨.oneOf property.enumValues, by simp [Property.valueType?, isArray, plain], ?_⟩
      have enumeration := valid.enumeration plain
      have isText := dataType?_eq_string_iff.mpr enumeration.texts
      apply iff_of_true (Property.enumeration_inhabits isArray plain enumeration)
      simp [Property.DefaultFits, isText, DataType.Takes]

/-- A property with a default. -/
def defaulting (type default : String) : Property :=
  { name := "count", type := { name := type }, defaultValue := some default }

theorem initialValue_inhabits_iff_number :
    Errorless (Validation.propertyFindings { name := "M" } (defaulting "number" "-1.5")) ∧
      Inhabits (.plain .number) (defaulting "number" "-1.5").typeScriptDefault.toList := by
  have errorless :
      Errorless (Validation.propertyFindings { name := "M" } (defaulting "number" "-1.5")) := by
    unfold Errorless
    decide
  obtain ⟨type, isType, -, -, inhabits⟩ := initialValue_inhabits_iff errorless
  obtain rfl : ValueType.plain .number = type := Option.some.inj isType
  exact ⟨errorless, inhabits.mpr (by decide)⟩

/-- A word as the default of a number passes the checks and is written as it stands, and a default of
a list is quoted; neither has the type of its property. -/
theorem misfit_default_written :
    Errorless (Validation.propertyFindings { name := "M" } (defaulting "number" "abc")) ∧
      (defaulting "number" "abc").typeScriptType = "number" ∧
      (defaulting "number" "abc").typeScriptDefault = "abc" ∧
      ¬ Inhabits (.plain .number) "abc".toList ∧
      Errorless (Validation.propertyFindings { name := "M" } (defaulting "array" "abc")) ∧
      (defaulting "array" "abc").typeScriptType = "any[]" ∧
      (defaulting "array" "abc").typeScriptDefault = "\"abc\"" ∧
      ¬ Inhabits (.plain .values) "\"abc\"".toList := by
  refine ⟨?_, rfl, rfl, ?_, ?_, rfl, by cbv, ?_⟩
  · unfold Errorless
    decide
  · rw [Inhabits.number_iff]
    decide
  · unfold Errorless
    decide
  · intro inhabits
    exact absurd inhabits.values_head (by decide)

end Blueprint
