import Blueprint.Application.Schema
import Blueprint.Document.Parser

/-!
The grammar of data models: types, properties with their features, and whole models.
-/
set_option autoImplicit false

namespace Blueprint.Grammar

open Blueprint.Parser

def startsWithBrackets : List Token → Bool
  | opening :: closing :: _ =>
    opening.kind == .symbol .leftBracket && closing.kind == .symbol .rightBracket
  | _ => false

/-- A type: a name, and a pair of brackets for an array. -/
def typeRef : Parser TypeRef := do
  let name ← expectName
  let isArray ← takeIf 2 startsWithBrackets
  return { name := name.value, isArray := isArray }

/-- Whether a token of a kind is a scalar: a quoted text, a number, a truth value or a name. -/
def isScalar (kind : TokenKind) : Bool :=
  [.string, .number, .keyword .true, .keyword .false].contains kind || kind.isName

/-- A scalar, kept as text. -/
def scalarText : Parser String := return (← accept isScalar .defaultValue).value

def enumValues : Parser (List String) := do
  let _ ← expectSymbol .leftBracket
  let values ← commaSeparated scalarText
  let _ ← expectSymbol .rightBracket
  return values

/-- The features a property may have after its type. -/
inductive Feature where
  | required
  | default
  | enumeration
  deriving DecidableEq, Repr

/-- The tokens before the content of a feature: its word, and the colon after it if it has one. -/
def Feature.markLength : Feature → Nat
  | .required => 1
  | .default | .enumeration => 2

/-- The feature that starts here, if one does. The word `required` is one when no colon follows it,
the words `default` and `enum` are when one does; otherwise the word is the next property's name. -/
def featureAt? (tokens : List Token) : Option Feature :=
  match tokens with
  | [] => none
  | token :: rest =>
    let colonFollows := startsWith (.symbol .colon) rest
    if !token.kind.isName then none
    else if token.value == "required" && !colonFollows then some .required
    else if token.value == "default" && colonFollows then some .default
    else if token.value == "enum" && colonFollows then some .enumeration
    else none

def feature (property : Property) : Parser Property := do
  match ← takeFound featureAt? Feature.markLength with
  | none => return property
  | some .required => return { property with required := true }
  | some .default => return { property with defaultValue := some (← scalarText) }
  | some .enumeration => return { property with enumValues := ← enumValues }

/-- A property: its name, its type and its features in any order. -/
def property : Parser Property := do
  let name ← expectKey
  let type ← typeRef
  loop (fun _ tokens => (featureAt? tokens).isSome)
    (fun property => do
      let property ← feature property
      skipCommas
      return property) { name := name.value, type := type }

/-- A model: its name and its properties. -/
def model : Parser Model := do
  let _ ← expect (.keyword .model)
  let name ← expectName
  let _ ← expectSymbol .leftBrace
  let properties ← itemsUntil .rightBrace property
  let _ ← expectSymbol .rightBrace
  return { name := name.value, properties := properties }

end Blueprint.Grammar
