import Blueprint.Application.Api
import Blueprint.Application.Screens
import Blueprint.Text.Scan
import Blueprint.Text.Trim

/-!
Recovering models, screens and the interface directly from source text, without its grammar. Blocks
are found wherever they stand, even in comments; one that has not the expected shape is passed over.
The body of a block ends at its first closing brace, so a model with braces inside is cut short
there.
-/
set_option autoImplicit false

namespace Blueprint

open Text

/-- What was recovered from a source text. -/
structure Extraction where
  models : List Model := []
  screens : List Screen := []
  api : Option Api := none

namespace Extraction

/-- A block with a name: its name, the text between its braces, and all of it. -/
structure NamedBlock where
  name : String
  body : List Char
  whole : List Char

/-- Reads a block that starts with a keyword, blanks, a name and an opening brace. -/
def namedBlock (keyword : String) : WordReader NamedBlock := fun insideWord text => do
  if insideWord then failure
  let rest ← afterSomeBlanks? (← afterLiteral? keyword text)
  let (name, rest) ← word? rest
  let (body, rest) ← upTo? '\x7d' (← afterMark? '\x7b' rest)
  return (⟨String.ofList name, body, text.take (text.length - rest.length)⟩, rest)

/-- A text without quotes of either kind. -/
def unquote (text : List Char) : List Char :=
  text.filter fun c => c != '"' && c != '\''

def afterKey? (key : String) (text : List Char) : Option (List Char) :=
  (afterLiteral? key text).bind (afterMark? ':')

/-- The text between the brackets after the word `enum` and a colon. -/
def enumText? (text : List Char) : Option (List Char) := do
  let (inside, _) ← upTo? ']' (← afterMark? '[' (← afterKey? "enum" text))
  return inside

/-- The enumerated values in the features of a property; without quotes, and none of them empty. -/
def enumValues (features : List Char) : List String :=
  match firstMatch enumText? features with
  | none => []
  | some inside =>
    ((splitChars ',' inside).map fun value => String.ofList (unquote (trimChars value))).filter
      fun value => !value.isEmpty

/-- The text after the word `default` and a colon, up to a comma or a blank. -/
def defaultText? (text : List Char) : Option (List Char) := do
  match (afterBlanks (← afterKey? "default" text)).takeWhile fun c => c != ',' && !isBlank c with
  | [] => none
  | found => some found

/-- Reads a trimmed line as a property: a name, a colon, a type, and features in free order. -/
def property? (line : List Char) : Option Property := do
  let (name, rest) ← word? line
  let (type, rest) ← word? (afterBlanks (← afterMark? ':' rest))
  let rest := trimChars rest
  let (isArray, features) := match rest with
    | '[' :: ']' :: more => (true, trimChars more)
    | _ => (false, rest)
  return {
    name := String.ofList name
    type := { name := String.ofList type, isArray := isArray }
    required := occursIn "required".toList features
    defaultValue := (firstMatch defaultText? features).map fun found => String.ofList (unquote found)
    enumValues := enumValues features }

/-- The property on a line, unless the line is empty, a comment, or of another shape. -/
def lineProperty? (line : List Char) : Option Property :=
  match trimChars line with
  | [] => none
  | '/' :: '/' :: _ => none
  | line => property? line

/-- The model that a block describes: a property on each of its lines. -/
def NamedBlock.model (block : NamedBlock) : Model :=
  { name := block.name, properties := (splitChars '\n' block.body).filterMap lineProperty? }

def modelsOf (source : String) : List Model :=
  (allMatches (namedBlock "model") source.toList).map NamedBlock.model

/-- The text in quotation marks after the word `title` and a colon. -/
def titleText? (text : List Char) : Option (List Char) := do
  let (title, _) ← quotation? (← afterKey? "title" text)
  return title

/-- The screen that a block describes. It is initial if the word occurs anywhere in the block, and
its layout is a stack. -/
def NamedBlock.screen (block : NamedBlock) : Screen :=
  { name := block.name
    title := match firstMatch titleText? block.whole with
      | some title => String.ofList title
      | none => block.name
    isInitial := occursIn "initial".toList block.whole
    layout := some {} }

def screensOf (source : String) : List Screen :=
  (allMatches (namedBlock "screen") source.toList).map NamedBlock.screen

/-- A text that is not empty, in quotation marks after a word and a colon, and what follows it. -/
def quotedEntry? (key : String) (text : List Char) : Option (List Char × List Char) := do
  match ← quotation? (← afterKey? key text) with
  | ([], _) => none
  | found => some found

/-- Reads the base address of an interface block: the first one after its opening brace that has a
closing brace somewhere after it. -/
def apiBlock : WordReader String := fun insideWord text => do
  if insideWord then failure
  let rest ← afterMark? '\x7b' (← afterLiteral? "api" text)
  firstMatch (fun place => do
    let (baseUrl, rest) ← quotedEntry? "baseUrl" place
    let (_, rest) ← upTo? '\x7d' rest
    return (String.ofList baseUrl, rest)) rest

/-- The word after `method` and a colon, and what follows it. -/
def methodWord? (text : List Char) : Option (List Char × List Char) := do
  word? (afterBlanks (← afterKey? "method" text))

/-- Reads an inline endpoint: the first path after its opening brace, and the first method after
that path. -/
def endpointBlock : WordReader Endpoint := fun insideWord text => do
  if insideWord then failure
  let rest ← afterSomeBlanks? (← afterLiteral? "endpoint" text)
  let (id, rest) ← word? rest
  let rest ← afterMark? '\x7b' rest
  firstMatch (fun place => do
    let (path, rest) ← quotedEntry? "path" place
    let (method, rest) ← firstMatch methodWord? rest
    return (⟨String.ofList id, String.ofList path, String.ofList method, [], none, none⟩, rest)) rest

/-- All inline endpoints of a source text, wherever they stand. -/
def endpointsOf (source : String) : List Endpoint :=
  allMatches endpointBlock source.toList

/-- The interface of a source text, if it has a block with a base address. -/
def apiOf? (source : String) : Option Api :=
  (allMatches apiBlock source.toList).head?.map fun baseUrl =>
    { baseUrl := baseUrl, endpoints := endpointsOf source }

def ofSource (source : String) : Extraction :=
  { models := modelsOf source, screens := screensOf source, api := apiOf? source }

end Extraction

end Blueprint
