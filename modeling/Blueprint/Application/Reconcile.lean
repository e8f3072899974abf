import Blueprint.Application.Basic
import Blueprint.Extraction

/-!
Making an application of a document and what was extracted from its source. Metadata, navigation and
mock data always come from the document; models, screens and the interface come from the extraction
where the strategy prefers it and it found any.
-/
set_option autoImplicit false

namespace Blueprint

/-- Which source wins for models, screens and the interface. -/
inductive Strategy where
  /-- Each collection is the extracted one whenever that is not empty. -/
  | extracted
  | grammar
  deriving DecidableEq, Repr

namespace Strategy

def all : List Strategy := [.extracted, .grammar]

def name : Strategy → String
  | .extracted => "extracted"
  | .grammar => "grammar"

def ofName? (text : String) : Option Strategy :=
  all.find? fun strategy => strategy.name == text

end Strategy

/-- Why no application can be made. -/
inductive ReconcileError where
  /-- The source holds no token. -/
  | noDocument
  /-- The document has no header. -/
  | noHeader
  deriving DecidableEq, Repr

def ReconcileError.message : ReconcileError → String
  | .noDocument => "Could not parse document: no grammar tree was produced"
  | .noHeader => "Could not parse document: missing 'app' declaration"

/-- The first list, or the second where the first is empty. -/
def nonemptyOr {α : Type} (preferred fallback : List α) : List α :=
  if preferred.isEmpty then fallback else preferred

namespace Document

/-- The document with extracted collections in place of its own, where there are any. -/
def preferring (document : Document) (extraction : Extraction) : Document :=
  { document with
    models := nonemptyOr extraction.models document.models
    screens := nonemptyOr extraction.screens document.screens
    api := extraction.api.or document.api }

def toApplication (document : Document) (header : Header) : Application :=
  { name := header.name
    displayName := header.displayName
    appId := header.appId
    version := header.version
    platforms := header.platforms
    theme := header.theme
    models := document.models
    screens := document.screens
    navigation := document.navigation
    api := document.api
    mockData := document.mockData }

end Document

/-- Makes the application of a document and an extraction, either of which may be absent. -/
def reconcile (document : Option Document) (extraction : Option Extraction) (strategy : Strategy) :
    Except ReconcileError Application :=
  match document with
  | none => .error .noDocument
  | some document =>
    match document.header with
    | none => .error .noHeader
    | some header =>
      let merged := match strategy, extraction with
        | .extracted, some extraction => document.preferring extraction
        | _, _ => document
      .ok (merged.toApplication header)

end Blueprint
