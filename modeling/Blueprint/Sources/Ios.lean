import Blueprint.Sources.Basic
import Blueprint.Sources.Endpoints
import Blueprint.Sources.Types

/-!
Sources for iOS: a structure for each model, a view for each screen, a client for the interface, and
the application.
-/
set_option autoImplicit false

namespace Blueprint.Sources.Ios

open Text

def modelText (model : Model) : String :=
  lines <|
    ["import Foundation",
     "",
     s!"// {remark}",
     s!"struct {model.name}: Codable \x7b"]
    ++ model.properties.flatMap (fun property =>
      let values := ", ".intercalate property.enumValues
      let mark := if property.required then "" else "?"
      onlyIf (!property.enumValues.isEmpty)
        [s!"    /// One of: {values}"]
      ++
      [s!"    let {property.name}: {property.type.swift}{mark}"])
    ++
    ["\x7d"]

/-- The input of a form field; a password is hidden. -/
def fieldLine (field : FormField) : String :=
  let view := if field.type == "password" then "SecureField" else "TextField"
  s!"            {view}({jsonString field.caption}, text: ${field.name})"

/-- The container of a screen's parts: a form where there are fields, else by the kind of layout. -/
def container (layout : Layout) : String :=
  if !layout.fields.isEmpty then "Form"
  else if layout.kind == .scroll then "ScrollView"
  else "VStack"

def screenText (screen : Screen) : String :=
  let layout := screen.layoutOrDefault
  lines <|
    ["import SwiftUI",
     "",
     s!"// {remark}",
     s!"struct {screen.name}View: View \x7b"]
    ++ layout.fields.map (fun field => s!"    @State private var {field.name} = \"\"")
    ++
    ["",
     "    var body: some View \x7b",
     s!"        {container layout} \x7b",
     s!"            Text({jsonString screen.title})",
     "                .font(.title)",
     "                .padding()"]
    ++ layout.components.map (fun component => s!"            // {component.type}")
    ++ layout.fields.map fieldLine
    ++ about layout.submitButton (fun label =>
      [s!"            Button({jsonString label}) \x7b\x7d"])
    ++ about layout.cancelButton (fun label =>
      [s!"            Button({jsonString label}, role: .cancel) \x7b\x7d"])
    ++
    ["        \x7d",
     s!"        .navigationTitle({jsonString screen.title})",
     "    \x7d",
     "\x7d",
     "",
     "#Preview \x7b",
     s!"    {screen.name}View()",
     "\x7d"]

/-- The names of the arguments of an endpoint's function: one for each placeholder, and the body. -/
def argumentNames (endpoint : Endpoint) : List String :=
  endpoint.pathParameters ++ ["body"]

/-- The signature of an endpoint's function; only the body is optional. -/
def signature (endpoint : Endpoint) : String :=
  ", ".intercalate (endpoint.pathParameters.map (fun name => s!"{name}: String")
    ++ ["body: Data? = nil"])

def endpointLines (endpoint : Endpoint) : List String :=
  ["",
   s!"    /// {endpoint.method} {endpoint.path}",
   s!"    func {endpoint.id}({signature endpoint}) async throws -> Data \x7b",
   s!"        try await request(\"{swiftPath endpoint.path}\", method: \"{endpoint.method}\", body: body)",
   "    \x7d"]

def clientText (api : Api) : String :=
  lines <|
    ["import Foundation",
     "",
     s!"// {remark}",
     "final class APIClient \x7b",
     "    static let shared = APIClient()",
     s!"    private let baseURL = URL(string: {jsonString api.baseUrl})!",
     "    private let session = URLSession.shared",
     "",
     "    private init() \x7b\x7d",
     "",
     "    private func request(_ path: String, method: String, body: Data? = nil) async throws -> Data \x7b",
     "        var request = URLRequest(url: baseURL.appendingPathComponent(path))",
     "        request.httpMethod = method",
     "        request.setValue(\"application/json\", forHTTPHeaderField: \"Content-Type\")",
     "        request.httpBody = body",
     "        let (data, _) = try await session.data(for: request)",
     "        return data",
     "    \x7d"]
    ++ api.endpoints.flatMap endpointLines
    ++
    ["\x7d"]

/-- The application, which shows its start screen. -/
def appText (app : Application) : String :=
  let content := match app.startScreen? with
    | some start => s!"{start.name}View()"
    | none => s!"Text({jsonString app.title})"
  lines
    ["import SwiftUI",
     "",
     s!"// {remark}",
     "@main",
     s!"struct {app.name}App: App \x7b",
     "    var body: some Scene \x7b",
     "        WindowGroup \x7b",
     "            NavigationStack \x7b",
     s!"                {content}",
     "            \x7d",
     "        \x7d",
     "    \x7d",
     "\x7d"]

def modelPath (model : Model) : String := s!"Models/{model.name}.swift"

def screenPath (screen : Screen) : String := s!"Screens/{screen.name}View.swift"

/-- The generated files, in order, as they are written one after the other. -/
def entries (app : Application) : List (String × String) :=
  app.models.map (fun model => (modelPath model, modelText model))
    ++ app.screens.map (fun screen => (screenPath screen, screenText screen))
    ++ (app.api.toList.map fun api => ("Networking/APIClient.swift", clientText api))
    ++ [(s!"App/{app.name}App.swift", appText app)]

def files (app : Application) : SourceFiles := Fields.ofList (entries app)

end Blueprint.Sources.Ios
