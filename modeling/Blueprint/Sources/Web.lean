import Blueprint.Sources.Basic
import Blueprint.Sources.Endpoints
import Blueprint.Sources.Types
import Blueprint.Text.Case

/-!
Sources for the web: a module for each model and each screen, an index of the models, a client for
the interface, and the application with its routes.
-/
set_option autoImplicit false

namespace Blueprint.Sources.Web

open Text

def optionMark (required : Bool) : String := if required then "" else "?"

/-- The module of a model: its interface and an empty value of it. -/
def modelText (model : Model) : String :=
  lines <|
    ["/**",
     s!" * Model: {model.name}",
     s!" * {remark}",
     " */",
     "",
     s!"export interface {model.name} \x7b"]
    ++ model.properties.map (fun property =>
      s!"  {property.name}{optionMark property.required}: {property.typeScriptType};")
    ++
    ["\x7d",
     "",
     s!"export const empty{model.name}: {model.name} = \x7b"]
    ++ model.properties.map (fun property =>
      s!"  {property.name}: {property.typeScriptDefault},")
    ++
    ["\x7d;"]

def indexText (models : List Model) : String :=
  lines <|
    ["/**",
     " * Models index - exports all model types",
     s!" * {remark}",
     " */",
     ""]
    ++ models.flatMap fun model =>
      [s!"export type \x7b {model.name} \x7d from './{model.name}';",
       s!"export \x7b empty{model.name} \x7d from './{model.name}';"]

def routePath (screen : String) : String := s!"/{lower screen}"

def actionLines (action : Action) : List String :=
  [s!"  const {action.event} = () => \x7b"]
  ++ about action.api (fun api =>
    [s!"    // calls endpoint {api}"])
  ++ about action.navigate (fun target =>
    [s!"    navigate('{routePath target}');"])
  ++
  ["  \x7d;"]

def inputTypes : List String := ["password", "email", "number", "date", "tel"]

def fieldLines (field : FormField) : List String :=
  ["        <TextField",
   s!"          name=\"{field.name}\"",
   s!"          label=\"{field.caption}\""]
  ++ onlyIf (inputTypes.contains field.type)
    [s!"          type=\"{field.type}\""]
  ++ onlyIf field.required
    ["          required"]
  ++
  ["          fullWidth",
   "          margin=\"normal\"",
   "        />"]

def screenText (screen : Screen) : String :=
  let layout := screen.layoutOrDefault
  let navigates := layout.actions.any fun action => (filled? action.navigate).isSome
  lines <|
    ["import React from 'react';",
     "import \x7b Box, Button, Container, TextField, Typography \x7d from '@mui/material';"]
    ++ onlyIf navigates
      ["import \x7b useNavigate \x7d from 'react-router-dom';"]
    ++
    ["",
     "/**",
     s!" * {screen.name}Screen ({layout.kind.name} layout)",
     s!" * {remark}",
     " */",
     s!"export const {screen.name}Screen: React.FC = () => \x7b"]
    ++ onlyIf navigates
      ["  const navigate = useNavigate();"]
    ++ layout.actions.flatMap actionLines
    ++
    ["",
     "  return (",
     "    <Container maxWidth=\"md\">",
     "      <Box my=\x7b4\x7d>",
     "        <Typography variant=\"h4\" component=\"h1\" gutterBottom>",
     s!"          {screen.title}",
     "        </Typography>"]
    ++ layout.components.map (fun component =>
      s!"        <Box data-component=\"{component.type}\" />")
    ++ layout.fields.flatMap fieldLines
    ++ about layout.submitButton (fun label =>
      [s!"        <Button type=\"submit\" variant=\"contained\">{label}</Button>"])
    ++ about layout.cancelButton (fun label =>
      [s!"        <Button variant=\"text\">{label}</Button>"])
    ++
    ["      </Box>",
     "    </Container>",
     "  );",
     "\x7d;",
     "",
     s!"export default {screen.name}Screen;"]

/-- An argument of a generated function. -/
structure Argument where
  name : String
  optional : Bool := false
  type : String
  deriving DecidableEq, Repr

def Argument.text (argument : Argument) : String :=
  s!"{argument.name}{optionMark (!argument.optional)}: {argument.type}"

/-- The type of the argument for a placeholder: that of the last parameter with its name, of which
only numbers are told apart. -/
def placeholderType (parameters : List Parameter) (name : String) : String :=
  match parameters.reverse.find? fun parameter => parameter.name == name with
  | none => "string"
  | some parameter =>
    match parameter.type.dataType? with
    | some .number | some .decimal => "number"
    | _ => "string"

/-- The last argument of an endpoint's function: the body, or the query where none is sent. -/
def lastArgument (endpoint : Endpoint) : Argument :=
  if endpoint.sendsBody then
    { name := "body", type := (filled? endpoint.body).getD "unknown" }
  else { name := "query", optional := true, type := "Record<string, unknown>" }

/-- The arguments of an endpoint's function: one for each placeholder, and the last one. -/
def arguments (endpoint : Endpoint) : List Argument :=
  endpoint.pathParameters.map (fun name =>
    { name := name, type := placeholderType endpoint.parameters name })
    ++ [lastArgument endpoint]

def resultType (endpoint : Endpoint) : String :=
  match endpoint.response with
  | some response => response.typeScript
  | none => "void"

def endpointLines (endpoint : Endpoint) : List String :=
  let signature := ", ".intercalate ((arguments endpoint).map Argument.text)
  let payload := if endpoint.sendsBody then "data: body" else "params: query"
  ["",
   "/**",
   s!" * {endpoint.method} {endpoint.path}",
   " */",
   s!"export async function {endpoint.id}({signature}): Promise<{resultType endpoint}> \x7b",
   "  return apiRequest(\x7b",
   s!"    url: `{dollarPath endpoint.path}`,",
   s!"    method: '{lower endpoint.method}',",
   s!"    {payload},",
   "  \x7d);",
   "\x7d"]

/-- The client, given the models that its functions mention. -/
def clientText (api : Api) (imports : List String) : String :=
  let names := ", ".intercalate imports
  lines <|
    ["/**",
     " * API client",
     s!" * {remark}",
     " */",
     "import axios, \x7b AxiosRequestConfig \x7d from 'axios';"]
    ++ onlyIf (!imports.isEmpty)
      [s!"import type \x7b {names} \x7d from '../models';"]
    ++
    ["",
     s!"export const API_BASE_URL = {jsonString api.baseUrl};",
     s!"export const USE_MOCK_DATA = {flag api.mock};",
     "",
     "export const apiClient = axios.create(\x7b",
     "  baseURL: API_BASE_URL,",
     "  headers: \x7b 'Content-Type': 'application/json' \x7d,",
     "\x7d);",
     "",
     "async function apiRequest<T>(config: AxiosRequestConfig): Promise<T> \x7b",
     "  const response = await apiClient.request<T>(config);",
     "  return response.data;",
     "\x7d"]
    ++ api.endpoints.flatMap endpointLines

def appText (app : Application) : String :=
  let version := if app.version.isEmpty then "" else s!" {app.version}"
  lines <|
    ["import React from 'react';",
     "import \x7b BrowserRouter as Router, Navigate, Route, Routes \x7d from 'react-router-dom';"]
    ++ app.screens.map (fun screen =>
      s!"import \x7b {screen.name}Screen \x7d from './screens/{screen.name}Screen';")
    ++
    ["",
     "/**",
     s!" * {app.title}{version}",
     s!" * {remark}",
     " */",
     "function App() \x7b",
     "  return (",
     "    <Router>",
     "      <Routes>"]
    ++ app.screens.map (fun screen =>
      s!"        <Route path=\"{routePath screen.name}\" element=\x7b<{screen.name}Screen />\x7d />")
    ++ (match app.startScreen? with
      | none => []
      | some start =>
        [s!"        <Route path=\"/\" element=\x7b<Navigate to=\"{routePath start.name}\" />\x7d />"])
    ++
    ["      </Routes>",
     "    </Router>",
     "  );",
     "\x7d",
     "",
     "export default App;"]

def modelPath (model : Model) : String := s!"src/models/{model.name}.ts"

def screenPath (screen : Screen) : String := s!"src/screens/{screen.name}Screen.tsx"

/-- The generated files, in order, as they are written one after the other. -/
def entries (app : Application) : List (String × String) :=
  app.models.map (fun model => (modelPath model, modelText model))
    ++ [("src/models/index.ts", indexText app.models)]
    ++ app.screens.map (fun screen => (screenPath screen, screenText screen))
    ++ (app.api.toList.map fun api =>
      ("src/api/client.ts", clientText api (app.referencedModels api.endpoints)))
    ++ [("src/App.tsx", appText app)]

def files (app : Application) : SourceFiles := Fields.ofList (entries app)

end Blueprint.Sources.Web
