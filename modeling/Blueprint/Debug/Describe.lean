import Blueprint.Compile
import Blueprint.Debug.Json
import Blueprint.Debug.Unfold
import Blueprint.Validation.Rules

/-!
The debug items of everything that a run of the compiler produces: tokens, documents, applications,
extractions, findings and compilations.
-/
set_option autoImplicit false

namespace Blueprint

open DebugItem

def describeFields (fields : Fields Value) : DebugItem := .object (ofFields fields)

def describeTexts (fields : Fields String) : DebugItem :=
  .object (fields.map fun (key, content) => (key, ofText content))

namespace TypeRef

def describe (type : TypeRef) : DebugItem :=
  .record "TypeRef" [("name", ofText type.name), ("is_array", .bool type.isArray)]

end TypeRef

namespace Property

def describe (property : Property) : DebugItem :=
  .record "Property" [
    ("name", ofText property.name),
    ("type", property.type.describe),
    ("required", .bool property.required),
    ("default_value", optionalText property.defaultValue),
    ("enum_values", listOf ofText property.enumValues)]

end Property

namespace Parameter

def describe (parameter : Parameter) : DebugItem :=
  .record "Parameter" [
    ("name", ofText parameter.name),
    ("type", parameter.type.describe),
    ("required", .bool parameter.required)]

end Parameter

namespace Model

def describe (model : Model) : DebugItem :=
  .record "Model" [
    ("name", ofText model.name),
    ("properties", listOf Property.describe model.properties)]

end Model

namespace Component

def describe (component : Component) : DebugItem :=
  .record "Component" [
    ("type", ofText component.type),
    ("attributes", describeFields component.attributes)]

end Component

namespace FormField

def describe (field : FormField) : DebugItem :=
  .record "FormField" [
    ("name", ofText field.name),
    ("type", ofText field.type),
    ("label", optionalText field.label),
    ("required", .bool field.required),
    ("attributes", describeFields field.attributes)]

end FormField

namespace Action

def describe (action : Action) : DebugItem :=
  .record "Action" [
    ("event", ofText action.event),
    ("navigate", optionalText action.navigate),
    ("api", optionalText action.api),
    ("params", describeFields action.params)]

end Action

namespace Layout

def describe (layout : Layout) : DebugItem :=
  .record "Layout" [
    ("type", ofText layout.kind.name),
    ("components", listOf Component.describe layout.components),
    ("fields", listOf FormField.describe layout.fields),
    ("actions", listOf Action.describe layout.actions),
    ("submit_button", optionalText layout.submitButton),
    ("cancel_button", optionalText layout.cancelButton)]

end Layout

namespace Screen

def describe (screen : Screen) : DebugItem :=
  .record "Screen" [
    ("name", ofText screen.name),
    ("title", ofText screen.title),
    ("is_initial", .bool screen.isInitial),
    ("parameters", listOf Parameter.describe screen.parameters),
    ("layout", optional Layout.describe screen.layout)]

end Screen

namespace NavItem

def describe (item : NavItem) : DebugItem :=
  .record "NavItem" [
    ("screen", ofText item.screen),
    ("title", optionalText item.title),
    ("icon", optionalText item.icon)]

end NavItem

namespace Navigation

def describe (navigation : Navigation) : DebugItem :=
  .record "Navigation" [
    ("type", ofText navigation.kind.name),
    ("items", listOf NavItem.describe navigation.items)]

end Navigation

namespace Endpoint

def describe (endpoint : Endpoint) : DebugItem :=
  .record "Endpoint" [
    ("id", ofText endpoint.id),
    ("path", ofText endpoint.path),
    ("method", ofText endpoint.method),
    ("parameters", listOf Parameter.describe endpoint.parameters),
    ("body", optionalText endpoint.body),
    ("response", optional TypeRef.describe endpoint.response)]

end Endpoint

namespace Api

def describe (api : Api) : DebugItem :=
  .record "Api" [
    ("base_url", ofText api.baseUrl),
    ("mock", .bool api.mock),
    ("endpoints", listOf Endpoint.describe api.endpoints)]

end Api

namespace MockData

def describe (mockData : MockData) : DebugItem :=
  .record "MockData" [
    ("sections", .object (mockData.sections.map fun (key, records) =>
      (key, listOf describeFields records)))]

end MockData

namespace Header

def describe (header : Header) : DebugItem :=
  .record "AppHeader" [
    ("name", ofText header.name),
    ("display_name", ofText header.displayName),
    ("app_id", ofText header.appId),
    ("version", ofText header.version),
    ("platforms", listOf (fun platform => ofText platform.name) header.platforms),
    ("theme", optional describeTexts header.theme)]

end Header

namespace Document

def describe (document : Document) : DebugItem :=
  .record "ParsedDocument" [
    ("header", optional Header.describe document.header),
    ("models", listOf Model.describe document.models),
    ("screens", listOf Screen.describe document.screens),
    ("navigation", optional Navigation.describe document.navigation),
    ("api", optional Api.describe document.api),
    ("mock_data", optional MockData.describe document.mockData)]

end Document

namespace Application

def describe (app : Application) : DebugItem :=
  .record "Application" [
    ("name", ofText app.name),
    ("display_name", ofText app.displayName),
    ("app_id", ofText app.appId),
    ("version", ofText app.version),
    ("platforms", listOf (fun platform => ofText platform.name) app.platforms),
    ("theme", optional describeTexts app.theme),
    ("models", listOf Model.describe app.models),
    ("screens", listOf Screen.describe app.screens),
    ("navigation", optional Navigation.describe app.navigation),
    ("api", optional Api.describe app.api),
    ("mock_data", optional MockData.describe app.mockData)]

def dump (app : Application) : String := app.describe.data.json

end Application

namespace Token

def describe (token : Token) : DebugItem :=
  .record "Token" [
    ("type", ofText token.kind.label),
    ("value", ofText token.value),
    ("line", nat token.place.line),
    ("column", nat token.place.column)]

end Token

namespace SyntaxDiagnostic

def describe (diagnostic : SyntaxDiagnostic) : DebugItem :=
  .record "SyntaxDiagnostic" [
    ("message", ofText diagnostic.message),
    ("line", nat diagnostic.place.line),
    ("column", nat diagnostic.place.column)]

end SyntaxDiagnostic

namespace ParseResult

def describe (result : ParseResult) : DebugItem :=
  .record "ParseResult" [
    ("tree", optional Document.describe result.document),
    ("errors", listOf SyntaxDiagnostic.describe result.diagnostics)]

end ParseResult

namespace Extraction

def describe (extraction : Extraction) : DebugItem :=
  .record "Extraction" [
    ("models", listOf Model.describe extraction.models),
    ("screens", listOf Screen.describe extraction.screens),
    ("api", optional Api.describe extraction.api)]

end Extraction

namespace Finding

def describe (finding : Finding) : DebugItem :=
  .record (if finding.isError then "ValidationError" else "ValidationWarning") [
    ("message", ofText finding.message),
    ("entity", ofText finding.entity),
    ("property", optionalText finding.part)]

def describeAll (findings : List Finding) : DebugItem :=
  .record "ValidationResult" [("diagnostics", listOf describe findings)]

end Finding

namespace Compilation

def describe (compilation : Compilation) : DebugItem :=
  .record "CompileResult" [
    ("application", compilation.application.describe),
    ("syntax_errors", listOf SyntaxDiagnostic.describe compilation.diagnostics),
    ("extraction", compilation.extraction.describe)]

end Compilation

end Blueprint
