import Blueprint.Document.Endpoints
import Blueprint.Document.Header
import Blueprint.Token.Lexer

/-!
The grammar of whole documents. A statement that does not fit is reported and dropped, and reading
goes on at the next statement; the document holds every statement that could be read.
-/
set_option autoImplicit false

namespace Blueprint

namespace Grammar

open Blueprint.Parser

def mockData : Parser MockData := do
  let _ ← openSection .mockData
  let sections ← untilClosed .rightBrace (fun sections => do
    let key ← expectKey
    let records ← objectList
    skipCommas
    return Fields.insert key.value records sections) []
  let _ ← expectSymbol .rightBrace
  return { sections := sections }

/-- Puts a part into a document that may have only one of it; a second one is reported and left
out. -/
def setOnce {α : Type} (old : Option α) (duplicate : SyntaxProblem) (place : Position)
    (set : α → Document) (document : Document) (part : α) : Parser Document :=
  match old with
  | none => return set part
  | some _ => do
    report duplicate place
    return document

def statement (document : Document) : Parser Document := do
  let token ← current
  match token.kind with
  | .keyword .app => do
    let header ← header
    setOnce document.header .duplicateApp token.place
      (fun header => { document with header := some header }) document header
  | .keyword .model => return { document with models := document.models ++ [← model] }
  | .keyword .screen => return { document with screens := document.screens ++ [← screen] }
  | .keyword .navigation => do
    let navigation ← navigation
    setOnce document.navigation (.duplicateSection .navigation) token.place
      (fun navigation => { document with navigation := some navigation }) document navigation
  | .keyword .api => do
    let api ← api
    setOnce document.api (.duplicateSection .api) token.place
      (fun api => { document with api := some api }) document api
  | .keyword .mockData => do
    let mockData ← mockData
    setOnce document.mockData (.duplicateSection .mockData) token.place
      (fun mockData => { document with mockData := some mockData }) document mockData
  | _ => unexpected .statement

def toStatement : List Token → List Token
  | [] => []
  | token :: rest => if startsStatement (token :: rest) then token :: rest else toStatement rest

/-- Where reading goes on after a statement that failed: at the next statement, but at least one
token after the place where the failed one began. -/
def resynchronize (began : List Token) : Parser Unit := skip fun tokens =>
  toStatement (if tokens.length == began.length then tokens.drop 1 else tokens)

/-- A document while it is read, with whether an `app` keyword has begun a statement. -/
structure OpenDocument where
  document : Document := {}
  sawApp : Bool := false

/-- Reads the next statement into a document, or recovers from its failure. -/
def nextStatement (document : Document) : Parser Document :=
  orResume (statement document) fun began => do
    resynchronize began
    return document

/-- Reads the next statement, noting whether it begins with `app`. -/
def documentEntry (state : OpenDocument) : Parser OpenDocument := do
  let startsApp ← isAt (.keyword .app)
  let document ← nextStatement state.document
  return { document := document, sawApp := state.sawApp || startsApp }

def documentBody : Parser OpenDocument :=
  loop (fun _ tokens => !tokens.isEmpty) documentEntry {}

end Grammar

/-- What became of a source: the document, unless the source holds no token at all, and the
diagnostics in the order in which they arose. -/
structure ParseResult where
  document : Option Document
  diagnostics : List SyntaxDiagnostic

/-- Whether a document was read without any diagnostic. -/
def ParseResult.isClean (result : ParseResult) : Bool :=
  result.document.isSome && result.diagnostics.isEmpty

/-- Why a document cannot be read at all. -/
inductive ParseError where
  /-- A value holds an integer literal of too many digits. -/
  | oversizedInteger
  deriving DecidableEq, Repr

namespace Document

/-- Reads a document from the tokens before the end of a source and the place of that end. A document
in which no statement begins with `app` is reported first, at its first token. -/
def parseTokens (tokens : List Token) (stop : Position) : Except ParseError ParseResult :=
  match tokens with
  | [] => .ok { document := none, diagnostics := [] }
  | first :: _ =>
    match Grammar.documentBody stop tokens with
    | .ok state _ reports =>
      let missing := if state.document.header.isNone && !state.sawApp then
          [⟨.missingApp, first.place⟩]
        else []
      .ok { document := some state.document, diagnostics := missing ++ reports }
    | .failed .oversizedInteger _ _ => .error .oversizedInteger
    | .failed (.syntaxError diagnostic) _ reports =>
      .ok { document := none, diagnostics := reports ++ [diagnostic] }

/-- The tokens before the one that ends a source, and the place of that one. -/
def splitEnd : List Token → List Token × Position
  | [] => ([], .start)
  | token :: rest =>
    if token.kind == .eof then ([], token.place)
    else
      let (tokens, stop) := splitEnd rest
      (token :: tokens, stop)

/-- Reads a document from its source text. -/
def parse (source : String) : Except ParseError ParseResult :=
  let (tokens, stop) := splitEnd (tokenize source)
  parseTokens tokens stop

end Document

end Blueprint
