import Blueprint.Document.Parser
import Blueprint.Number.Numeral
import Blueprint.Value

/-!
The grammar of generic values: texts, numbers, truth values, dotted names, lists and objects.
-/
set_option autoImplicit false

namespace Blueprint.Grammar

open Blueprint.Parser

def number (text : String) : Parser Value :=
  let digits := text.toList
  if digits.contains '.' then return .float (Numeral.float digits)
  else match Numeral.int? digits with
    | some i => return .int i
    | none => failOversized

def startsWithPart : List Token → Bool
  | dot :: name :: _ => dot.kind == .symbol .dot && name.kind.isName
  | _ => false

/-- Names joined by dots, as one text. -/
def dottedName : Parser String := do
  let first ← expectName
  let parts ← loop (fun _ tokens => startsWithPart tokens)
    (fun parts => do
      let _ ← expectSymbol .dot
      let name ← expectName
      return parts ++ [name.value]) [first.value]
  return ".".intercalate parts

/-- A key of an object: a quoted text or a name. -/
def objectKey : Parser String := do
  if ← isAt .string then expectText
  else return (← expectName).value

/-- What follows a key: a colon and a value, or nothing, which sets the key as a flag. -/
def entryContent (value : Parser Value) : Parser Value := do
  if ← option (.symbol .colon) then value else return .bool true

def objectOf (value : Parser Value) : Parser (Fields Value) := do
  let _ ← expectSymbol .leftBrace
  let fields ← untilClosed .rightBrace (fun fields => do
    let key ← objectKey
    let content ← entryContent value
    skipCommas
    return Fields.insert key content fields) []
  let _ ← expectSymbol .rightBrace
  return fields

def listOf (value : Parser Value) : Parser (List Value) := do
  let _ ← expectSymbol .leftBracket
  let items ← commaSeparated value
  let _ ← expectSymbol .rightBracket
  return items

/-- A value, with a parser for the values inside a group. -/
def valueOf (inner : Parser Value) : Parser Value := do
  let token ← current
  match token.kind with
  | .string => return .text (← expectText)
  | .number => number (← expect .number).value
  | .keyword .true | .keyword .false => return .bool (← expectFlag)
  | .symbol .leftBrace => return .object (← objectOf inner)
  | .symbol .leftBracket => return .list (← listOf inner)
  | kind => if kind.isName then return .text (← dottedName) else unexpected .value

/-- A value whose groups are nested at most `depth` deep. -/
def valueWithin : Nat → Parser Value
  | 0 => unexpected .value
  | depth + 1 => valueOf (valueWithin depth)

/-- A value. Every group takes a token, so groups are nested no deeper than there are tokens. -/
def value : Parser Value := fun stop tokens => valueWithin (tokens.length + 1) stop tokens

def object : Parser (Fields Value) := objectOf value

def objectList : Parser (List (Fields Value)) := do
  let _ ← expectSymbol .leftBracket
  let objects ← itemsUntil .rightBracket object
  let _ ← expectSymbol .rightBracket
  return objects

end Blueprint.Grammar
