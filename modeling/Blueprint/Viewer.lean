import Blueprint.Application.Basic

/-!
The page on which an application can be looked through: a tree of elements with a section for each
kind of entity.
-/
set_option autoImplicit false

namespace Blueprint

/-- What an element holds: nothing, a text, one element or several. -/
inductive ElementContent (α : Type) where
  | empty
  | text (s : String)
  | one (element : α)
  | several (elements : List α)

/-- An element of a page. -/
inductive Element where
  | element (tag : String) (style : Fields String) (id title : Option String)
      (content : ElementContent Element)

namespace Element

def plain (tag : String) (content : ElementContent Element) : Element :=
  .element tag [] none none content

def ofText (tag text : String) : Element := plain tag (.text text)

def group (tag : String) (elements : List Element) : Element := plain tag (.several elements)

def identified (tag id : String) (elements : List Element) : Element :=
  .element tag [] (some id) none (.several elements)

def muted (text : String) : Element :=
  .element "P" [("color", "#666")] none none (.text text)

end Element

namespace Viewer

open Element

def title : String := "FinApp Application Viewer"

/-- A section with a heading; without elements it shows a remark. -/
def titledSection (heading : String) (elements : List Element) (remark : String) : Element :=
  group "Section" <| ofText "H3" heading ::
    if elements.isEmpty then [muted remark] else elements

def propertyRow (property : Property) : Element :=
  group "Tr" [
    ofText "Td" property.name,
    ofText "Td" property.type.text,
    ofText "Td" (if property.required then "required" else ""),
    ofText "Td" (", ".intercalate property.enumValues)]

def modelCard (model : Model) : Element :=
  identified "Div" s!"model-{model.name}" [
    ofText "H4" model.name,
    group "Table" (model.properties.map propertyRow)]

def screenCard (screen : Screen) : Element :=
  let kind := match screen.layout with
    | some layout => layout.kind.name
    | none => "no layout"
  let mark := if screen.isInitial then " - initial" else ""
  identified "Div" s!"screen-{screen.name}" [
    ofText "H4" screen.name,
    muted s!"{screen.title} ({kind}){mark}"]

def navigationSection : Option Navigation → Element
  | none => titledSection "Navigation" [] "No navigation defined."
  | some navigation =>
    titledSection "Navigation" [
      ofText "P" s!"Type: {navigation.kind.name}",
      group "Ul" (navigation.items.map fun item =>
        ofText "Li" s!"{item.caption} → {item.screen}")] ""

def endpointItem (endpoint : Endpoint) : Element :=
  .element "Li" [] none (some endpoint.id)
    (.one (ofText "Code" s!"{endpoint.method} {endpoint.path}"))

def apiSection : Option Api → Element
  | none => titledSection "API" [] "No API defined."
  | some api =>
    titledSection "API" [
      ofText "P" s!"Base URL: {api.baseUrl}",
      group "Ul" (api.endpoints.map endpointItem)] ""

def heading (app : Application) : String :=
  if app.version.isEmpty then app.title else s!"{app.title} {app.version}"

def platformsText (app : Application) : String :=
  let names := ", ".intercalate (app.platforms.map Platform.name)
  if names.isEmpty then "No platforms declared." else names

def page (app : Application) : Element :=
  .element "Div" [("fontFamily", "sans-serif"), ("padding", "2rem")] none none <| .several [
    ofText "H1" title,
    ofText "H2" (heading app),
    muted (platformsText app),
    plain "Hr" .empty,
    titledSection "Models" (app.models.map modelCard) "No models defined.",
    titledSection "Screens" (app.screens.map screenCard) "No screens defined.",
    navigationSection app.navigation,
    apiSection app.api]

end Viewer

end Blueprint
