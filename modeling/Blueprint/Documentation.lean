import Blueprint.Application.Basic
import Blueprint.Sources.Basic
import Blueprint.Text.Trim

/-!
The description of an application in Markdown: its models, screens, navigation and endpoints.
-/
set_option autoImplicit false

namespace Blueprint.Documentation

open Sources Text

/-- The text of a table cell: a pipe is escaped and a line break becomes a space. -/
def cell (content : String) : String :=
  replaceChar '\n' " " (replaceChar '|' "\\|" content)

def checkCell (b : Bool) : String := if b then "✓" else ""

def row (cells : List String) : String :=
  "| " ++ " | ".intercalate cells ++ " |"

def propertyCells (property : Property) : List String :=
  let values := ", ".intercalate property.enumValues
  [cell property.name,
    cell property.type.text,
    checkCell property.required,
    cell (property.defaultValue.getD ""),
    if property.enumValues.isEmpty then "" else cell s!"Enum: [{values}]"]

def parameterCells (parameter : Parameter) : List String :=
  [cell parameter.name, cell parameter.type.text, checkCell parameter.required]

/-- The section of a model, with a row for each property. -/
def modelLines (model : Model) : List String :=
  [s!"### {model.name}",
   "",
   "| Property | Type | Required | Default | Notes |",
   "|----------|------|----------|---------|-------|"]
  ++ model.properties.map (fun property => row (propertyCells property))
  ++ [""]

/-- The table of some parameters, if there are any. -/
def parameterLines (parameters : List Parameter) : List String :=
  onlyIf (!parameters.isEmpty) <|
    ["#### Parameters",
     "",
     "| Name | Type | Required |",
     "|------|------|----------|"]
    ++ parameters.map (fun parameter => row (parameterCells parameter))
    ++ [""]

def screenLines (screen : Screen) : List String :=
  let mark := if screen.isInitial then " (Initial Screen)" else ""
  let kind := match screen.layout with
    | some layout => layout.kind.name
    | none => "none"
  [s!"### {screen.name}{mark}",
   "",
   s!"**Title:** {screen.title}",
   s!"**Layout Type:** {kind}",
   ""]
  ++ parameterLines screen.parameters

def navItemLine (item : NavItem) : String :=
  let icon := match filled? item.icon with
    | some icon => s!" (icon: {icon})"
    | none => ""
  s!"- {item.caption} → {item.screen}{icon}"

def navigationLines : Option Navigation → List String
  | none => ["No navigation defined.", ""]
  | some navigation =>
    [s!"**Type:** {navigation.kind.name}",
     ""]
    ++ navigation.items.map navItemLine
    ++ [""]

def endpointLines (endpoint : Endpoint) : List String :=
  [s!"### {endpoint.id}",
   "",
   s!"**Method:** {endpoint.method}",
   s!"**Path:** {endpoint.path}",
   ""]
  ++ parameterLines endpoint.parameters
  ++ about endpoint.body (fun body =>
    ["#### Request Body",
     "",
     s!"Model: {body}",
     ""])
  ++ match endpoint.response with
    | none => []
    | some response =>
      ["#### Response",
       "",
       s!"Type: {response.text}",
       ""]

/-- The sections of the endpoints; an interface without any counts as none. -/
def apiLines (api : Option Api) : List String :=
  match api with
  | none => ["No API endpoints defined."]
  | some api =>
    if api.endpoints.isEmpty then ["No API endpoints defined."]
    else
      [s!"**Base URL:** {api.baseUrl}"]
      ++ onlyIf api.mock ["**Mock data:** enabled"]
      ++ [""]
      ++ api.endpoints.flatMap endpointLines

/-- The sections of some entities, or a remark that there are none. -/
def sectionsOr {α : Type} (remark : String) (content : α → List String) (entities : List α) :
    List String :=
  if entities.isEmpty then [remark, ""] else entities.flatMap content

def markdown (app : Application) : String :=
  let platforms := ", ".intercalate (app.platforms.map Platform.name)
  lines <|
    [s!"# {app.title}",
     "",
     s!"**App ID:** {app.appId}",
     s!"**Version:** {app.version}",
     s!"**Platforms:** {platforms}",
     "",
     "## Data Models",
     ""]
    ++ sectionsOr "No models defined." modelLines app.models
    ++ ["## Screens", ""]
    ++ sectionsOr "No screens defined." screenLines app.screens
    ++ ["## Navigation", ""]
    ++ navigationLines app.navigation
    ++ ["## API Endpoints", ""]
    ++ apiLines app.api

def fileName : String := "app-documentation.md"

end Blueprint.Documentation
