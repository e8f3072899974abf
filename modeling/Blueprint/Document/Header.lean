import Blueprint.Application.Basic
import Blueprint.Document.Parser

/-!
The grammar of the header, with its own recovery: once the name and the opening brace are read the
header survives, an attribute that does not fit is reported and left out, and so is a missing
closing brace.
-/
set_option autoImplicit false

namespace Blueprint.Grammar

open Blueprint.Parser

/-- Whether a statement starts here. A statement with a name needs its name and an opening brace, a
section its opening brace, with or without a colon; a keyword alone may be a name. -/
def startsStatement (tokens : List Token) : Bool :=
  let kindAt (ahead : Nat) : TokenKind := ((tokens[ahead]?).map Token.kind).getD .eof
  match kindAt 0 with
  | .keyword .app | .keyword .model | .keyword .screen =>
    (kindAt 1).isName && kindAt 2 == .symbol .leftBrace
  | .keyword .navigation | .keyword .api | .keyword .mockData =>
    kindAt 1 == .symbol .leftBrace || (kindAt 1 == .symbol .colon && kindAt 2 == .symbol .leftBrace)
  | _ => false

/-- The tokens after one token, or after a whole group, given how many groups are open. A closing
mark outside any group stays. -/
def afterValue : Nat → List Token → List Token
  | _, [] => []
  | 0, token :: rest =>
    if token.kind == .symbol .rightBrace || token.kind == .symbol .rightBracket then token :: rest
    else if token.kind == .symbol .leftBrace || token.kind == .symbol .leftBracket then
      afterValue 1 rest
    else rest
  | depth + 1, token :: rest =>
    if token.kind == .symbol .leftBrace || token.kind == .symbol .leftBracket then
      afterValue (depth + 2) rest
    else if token.kind == .symbol .rightBrace || token.kind == .symbol .rightBracket then
      if depth == 0 then rest else afterValue depth rest
    else afterValue (depth + 1) rest

def skipValue : Parser Unit := skip (afterValue 0)

def endsHeader (tokens : List Token) : Bool :=
  !stillOpen .rightBrace tokens || startsStatement tokens

def startsAttribute : List Token → Bool
  | key :: colon :: _ => key.kind.isName && colon.kind == .symbol .colon
  | _ => false

/-- Leaves out tokens up to the next attribute or the end of the header; at least one. -/
def skipToAttribute : Parser Unit := do
  let _ ← advance
  loop (fun _ tokens => !endsHeader tokens && !startsAttribute tokens)
    (fun _ => do
      if ← isAt (.symbol .rightBracket) then
        let _ ← advance
      else skipValue) ()

/-- The platforms of an application; a name that is none is reported and left out. -/
def platforms : Parser (List Platform) := do
  let _ ← expectSymbol .leftBracket
  let found ← commaSeparated do
    let name ← expectName
    let platform := Platform.ofName? name.value
    if platform.isNone then
      report (.unknownPlatform name.value) name.place
    return platform
  let _ ← expectSymbol .rightBracket
  return found.filterMap id

/-- The theme: texts under names. -/
def theme : Parser (Fields String) := do
  let _ ← expectSymbol .leftBrace
  let fields ← untilClosed .rightBrace (fun fields => do
    let key ← expectKey
    let text ← expectText
    skipCommas
    return Fields.insert key.value text fields) []
  let _ ← expectSymbol .rightBrace
  return fields

def headerAttribute (key : Token) (header : Header) : Parser Header :=
  match key.value with
  | "name" => return { header with displayName := ← expectText }
  | "id" => return { header with appId := ← expectText }
  | "version" => return { header with version := ← expectText }
  | "platforms" => return { header with platforms := ← platforms }
  | "theme" => return { header with theme := some (← theme) }
  | name => fail (.unknownAttribute .app name) key.place

/-- A header while its body is read, with the keys met so far. -/
structure OpenHeader where
  header : Header
  seen : List String := []

/-- Reads a key and its colon, or leaves out everything up to the next attribute. -/
def headerKey : Parser (Option Token) :=
  orRetry (return some (← expectKey)) do
    skipToAttribute
    return none

/-- Reads the attribute with a key into a header, or leaves out its value. -/
def headerContent (key : Token) (header : Header) : Parser Header :=
  orRetry (headerAttribute key header) do
    skipValue
    return header

/-- Reads the next attribute of a header. One that does not fit is left out: its value where key and
colon could be read, and otherwise everything up to the next attribute. -/
def headerEntry (body : OpenHeader) : Parser OpenHeader := do
  match ← headerKey with
  | none => do
    skipCommas
    return body
  | some key => do
    let header ← headerContent key body.header
    skipCommas
    return { header := header, seen := key.value :: body.seen }

/-- Takes the brace that closes a header; one that is missing is reported. -/
def closeHeader (app : String) : Parser Unit := do
  let closed ← option (.symbol .rightBrace)
  if !closed then
    report (.unclosedApp app) (← current).place

/-- The attributes that every header should have. -/
def requiredAttributes : List String := ["name", "id", "version"]

def reportMissing (app : String) (place : Position) (seen : List String) : Parser Unit :=
  requiredAttributes.forM fun required => do
    if !seen.contains required then
      report (.incompleteApp app required) place

def header : Parser Header := do
  let keyword ← expect (.keyword .app)
  let name ← expectName
  let _ ← expectSymbol .leftBrace
  let body ← loop (fun _ tokens => !endsHeader tokens) headerEntry
    { header := { name := name.value } }
  closeHeader name.value
  reportMissing name.value keyword.place body.seen
  return body.header

end Blueprint.Grammar
