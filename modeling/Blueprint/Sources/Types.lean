import Blueprint.Application.Schema
import Blueprint.Text.Json

/-!
The types of properties as each target language spells them, and initial values for them. A name
that is no primitive type is taken for the name of a model and stays as it is.
-/
set_option autoImplicit false

namespace Blueprint

open Text

namespace DataType

def typeScript : DataType → String
  | .string => "string"
  | .number => "number"
  | .decimal => "number"
  | .boolean => "boolean"
  | .date => "Date"
  | .array => "any[]"
  | .object => "Record<string, any>"

def swift : DataType → String
  | .string => "String"
  | .number => "Double"
  | .decimal => "Decimal"
  | .boolean => "Bool"
  | .date => "Date"
  | .array => "[AnyCodable]"
  | .object => "[String: AnyCodable]"

def kotlin : DataType → String
  | .string => "String"
  | .number => "Double"
  | .decimal => "Double"
  | .boolean => "Boolean"
  | .date => "String"
  | .array => "List<Any>"
  | .object => "Map<String, Any>"

def typeScriptInitial : DataType → String
  | .string => "''"
  | .number => "0"
  | .decimal => "0"
  | .boolean => "false"
  | .date => "new Date()"
  | .array => "[]"
  | .object => "\x7b\x7d"

end DataType

namespace TypeRef

/-- The spelling of a type's name, given that of the primitive types. -/
def baseName (spelling : DataType → String) (type : TypeRef) : String :=
  match type.dataType? with
  | some primitive => spelling primitive
  | none => type.name

def typeScript (type : TypeRef) : String :=
  let base := type.baseName DataType.typeScript
  if type.isArray then s!"{base}[]" else base

def swift (type : TypeRef) : String :=
  let base := type.baseName DataType.swift
  if type.isArray then s!"[{base}]" else base

def kotlin (type : TypeRef) : String :=
  let base := type.baseName DataType.kotlin
  if type.isArray then s!"List<{base}>" else base

end TypeRef

namespace Property

/-- The type of a property in TypeScript: the union of its enumerated values, if it has any and is
no array. -/
def typeScriptType (property : Property) : String :=
  if !property.enumValues.isEmpty && !property.type.isArray then
    " | ".intercalate (property.enumValues.map jsonString)
  else property.type.typeScript

/-- The value of a property in TypeScript, given the text of its default. -/
def typeScriptGiven (type : Option DataType) (text : String) : String :=
  match type with
  | some .number | some .decimal | some .boolean => text
  | some .date => s!"new Date({jsonString text})"
  | _ => jsonString text

/-- The initial value of a property in TypeScript: an empty list, the default, the first enumerated
value, or the initial value of its type. -/
def typeScriptDefault (property : Property) : String :=
  if property.type.isArray then "[]"
  else match property.defaultValue, property.enumValues with
    | some text, _ => typeScriptGiven property.type.dataType? text
    | none, value :: _ => jsonString value
    | none, [] =>
      match property.type.dataType? with
      | some primitive => primitive.typeScriptInitial
      | none => "null"

end Property

end Blueprint
