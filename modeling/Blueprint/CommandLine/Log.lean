import Blueprint.Compile
import Blueprint.Files.Path

/-!
What happens on the way, for those who want to know: events of reading, compiling and generating,
each with the part of the program that reports it and how much it matters.
-/
set_option autoImplicit false

namespace Blueprint.CommandLine

inductive Event where
  | processing (source : Path)
  | syntaxError (diagnostic : SyntaxDiagnostic)
  | foundModel (name : String)
  | foundScreen (name : String)
  | foundNoApi
  | foundApi (baseUrl : String)
  | foundEndpoint (endpoint : Endpoint)
  | extracted (models screens : Nat)
  | reconciled (app : String) (models screens : Nat) (strategy : Strategy)
  | generating (platform app : String)
  | rendered (files : Nat) (platform : String)
  | wrote (path : Path)

namespace Event

def reporter : Event → String
  | .processing _ | .syntaxError _ => "finapp.compiler.build"
  | .foundModel _ | .foundScreen _ | .foundNoApi | .foundApi _ | .foundEndpoint _
  | .extracted _ _ => "finapp.compiler.extractor"
  | .reconciled _ _ _ _ => "finapp.compiler.reconciler"
  | .generating _ _ | .rendered _ _ => "finapp.emitters.generate"
  | .wrote _ => "finapp.emitters.base"

def level : Event → String
  | .processing _ | .extracted _ _ | .generating _ _ => "INFO"
  | _ => "DEBUG"

def message : Event → String
  | .processing source => s!"Processing file: {source.address}"
  | .syntaxError diagnostic => s!"Syntax error at {diagnostic.text}"
  | .foundModel name => s!"Creating model: {name}"
  | .foundScreen name => s!"Creating screen: {name}"
  | .foundNoApi => "Could not extract API section or baseUrl"
  | .foundApi baseUrl => s!"API base URL: {baseUrl}"
  | .foundEndpoint endpoint =>
    s!"Endpoint: {endpoint.id}, path: {endpoint.path}, method: {endpoint.method}"
  | .extracted models screens =>
    s!"Extracted {models} models and {screens} screens from direct parsing"
  | .reconciled app models screens strategy =>
    s!"Reconciled {app} with {models} models, {screens} screens ({strategy.name} strategy)"
  | .generating platform app => s!"Generating {platform} code for {app}"
  | .rendered files platform => s!"Rendered {files} {platform} files"
  | .wrote path => s!"Wrote {path.text}"

def line (event : Event) : String := s!"{event.level} {event.reporter}: {event.message}"

def ofExtraction (extraction : Extraction) : List Event :=
  (extraction.models.map fun model => .foundModel model.name)
    ++ (extraction.screens.map fun screen => .foundScreen screen.name)
    ++ (match extraction.api with
      | some api => .foundApi api.baseUrl :: api.endpoints.map .foundEndpoint
      | none => [.foundNoApi])
    ++ [.extracted extraction.models.length extraction.screens.length]

/-- What is reported when a source is compiled: as far as it comes. -/
def ofCompiling (source : String) (strategy : Strategy) : List Event :=
  match Document.parse source with
  | .error _ => []
  | .ok parsed =>
    let extraction := Extraction.ofSource source
    parsed.diagnostics.map .syntaxError ++ ofExtraction extraction
      ++ match reconcile parsed.document extraction strategy with
        | .ok app => [.reconciled app.name app.models.length app.screens.length strategy]
        | .error _ => []

end Event

end Blueprint.CommandLine
