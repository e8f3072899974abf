import Blueprint.Validation.Finding
import Blueprint.Validation.Names

/-!
The rules of validation. Each rule looks at one part of an application and delivers its findings in
a fixed order; `Application.findings` runs them all.
-/
set_option autoImplicit false

namespace Blueprint

namespace Validation

/-- A finding if a condition holds. -/
def when (condition : Bool) (finding : Finding) : List Finding :=
  if condition then [finding] else []

def isUnknownType (type : TypeRef) : Bool := type.dataType?.isNone

/-- Parts that every application should have. -/
def sectionFindings (app : Application) : List Finding :=
  when app.models.isEmpty (.noModels app.name)
    ++ when app.screens.isEmpty (.noScreens app.name)
    ++ when app.navigation.isNone (.noNavigation app.name)
    ++ when app.api.isNone (.noApi app.name)

/-- Where there are screens, exactly one of them is initial. -/
def initialScreenFindings (app : Application) : List Finding :=
  if app.screens.isEmpty then []
  else match app.screens.filter Screen.isInitial with
    | [] => [.noInitialScreen app.name]
    | [_] => []
    | initial => [.severalInitialScreens app.name (initial.map Screen.name)]

/-- Enumerations are of texts, without repeated values, and hold the default. -/
def enumFindings (model : Model) (property : Property) : List Finding :=
  if property.enumValues.isEmpty then []
  else
    when (property.type.dataType? != some .string) (.enumOnOtherType model.name property.name)
      ++ (duplicates property.enumValues).map (.duplicateEnumValue model.name property.name)
      ++ match property.defaultValue with
        | none => []
        | some value =>
          when (!property.enumValues.contains value)
            (.defaultOutsideEnum model.name property.name value)

def propertyFindings (model : Model) (property : Property) : List Finding :=
  when (isUnknownType property.type)
      (.unknownPropertyType model.name property.name property.type.name)
    ++ enumFindings model property
    ++ when (property.required && property.defaultValue.isSome)
      (.redundantDefault model.name property.name)

def modelFindings (model : Model) : List Finding :=
  when (!isPascalCase model.name) (.unconventionalModelName model.name)
    ++ if model.properties.isEmpty then [.modelWithoutProperties model.name]
      else
        when (model.property? "id").isNone (.modelWithoutId model.name)
          ++ (duplicates (model.properties.map Property.name)).map (.duplicateProperty model.name)
          ++ model.properties.flatMap (propertyFindings model)

def modelsFindings (models : List Model) : List Finding :=
  (duplicates (models.map Model.name)).map .duplicateModel ++ models.flatMap modelFindings

def parameterFindings (owner : ParameterOwner) (parameters : List Parameter) : List Finding :=
  (duplicates (parameters.map Parameter.name)).map (.duplicateParameter owner)
    ++ parameters.flatMap fun parameter =>
      when (isUnknownType parameter.type)
        (.unknownParameterType owner parameter.name parameter.type.name)

/-- The shape of a layout, by its kind. -/
def layoutFindings (screen : Screen) (layout : Layout) : List Finding :=
  (if layout.kind == .form then
    when layout.fields.isEmpty (.emptyForm screen.name)
      ++ when layout.submitButton.isNone (.formWithoutSubmit screen.name)
      ++ (duplicates (layout.fields.map FormField.name)).map (.duplicateFormField screen.name)
  else when (!layout.fields.isEmpty) (.fieldsOutsideForm screen.name layout.kind))
    ++ when (layout.kind == .tabs && layout.components.length < 2) (.fewTabs screen.name)

def actionFindings (screens endpoints : List String) (screen : Screen) (action : Action) :
    List Finding :=
  (match action.navigate with
    | none => []
    | some target =>
      when (!screens.contains target)
        (.actionToUndeclaredScreen screen.name action.event target))
    ++ match action.api with
      | none => []
      | some endpoint =>
        when (!endpoints.contains endpoint)
          (.actionToUndeclaredEndpoint screen.name action.event endpoint)

def componentFindings (screens : List String) (screen : Screen) (component : Component) :
    List Finding :=
  (fieldTargets component.attributes).flatMap fun target =>
    when (!screens.contains target)
      (.componentToUndeclaredScreen screen.name component.type target)

/-- The rules for one screen, given the declared screens and endpoints. -/
def screenFindings (screens endpoints : List String) (screen : Screen) : List Finding :=
  parameterFindings (.screen screen.name) screen.parameters
    ++ match screen.layout with
      | none => [.screenWithoutLayout screen.name]
      | some layout =>
        layoutFindings screen layout
          ++ layout.actions.flatMap (actionFindings screens endpoints screen)
          ++ layout.components.flatMap (componentFindings screens screen)

def screensFindings (app : Application) : List Finding :=
  let screens := app.screens.map Screen.name
  let endpoints := app.endpoints.map Endpoint.id
  (duplicates screens).map .duplicateScreen
    ++ app.screens.flatMap (screenFindings screens endpoints)

/-- The rules for the navigation, given the declared screens. -/
def navigationFindings (screens : List String) (navigation : Navigation) : List Finding :=
  when navigation.items.isEmpty .emptyNavigation
    ++ navigation.items.flatMap (fun item =>
      when (!screens.contains item.screen)
        (.navigationToUndeclaredScreen item.caption item.screen))
    ++ when (navigation.kind == .tab && navigation.items.length > Finding.maxTabs)
      (.manyTabs navigation.items.length)

/-- The conventions for an endpoint, by its method. -/
def methodFindings (endpoint : Endpoint) : List Finding :=
  match HttpMethod.ofName? endpoint.method with
  | none => [.unsupportedMethod endpoint.id endpoint.method]
  | some method =>
    when ([.post, .put].contains method && endpoint.body.isNone) (.missingBody endpoint.id method)
      ++ when ([.get, .delete].contains method && endpoint.body.isSome)
        (.superfluousBody endpoint.id method)
      ++ when ([.put, .delete].contains method && endpoint.pathParameters.isEmpty)
        (.missingPathParameter endpoint.id method)

/-- The rules for one endpoint, given the declared models. -/
def endpointFindings (models : List String) (endpoint : Endpoint) : List Finding :=
  parameterFindings (.endpoint endpoint.id) endpoint.parameters
    ++ endpoint.pathParameters.eraseDups.flatMap (fun name =>
      when (!(endpoint.parameters.map Parameter.name).contains name)
        (.undeclaredPathParameter endpoint.id name))
    ++ methodFindings endpoint
    ++ (match endpoint.body with
      | none => []
      | some body => when (!models.contains body) (.undeclaredBody endpoint.id body))
    ++ match endpoint.response with
      | none => []
      | some response =>
        when (!models.contains response.name && isUnknownType response)
          (.undeclaredResponse endpoint.id response.name)

/-- The rules for the interface, given the declared models. -/
def apiFindings (models : List String) (api : Api) : List Finding :=
  when api.endpoints.isEmpty .emptyApi
    ++ (duplicates (api.endpoints.map Endpoint.id)).map .duplicateEndpoint
    ++ api.endpoints.flatMap (endpointFindings models)

end Validation

namespace Application

open Validation

/-- All findings about an application, in the order of the rules. -/
def findings (app : Application) : List Finding :=
  sectionFindings app
    ++ initialScreenFindings app
    ++ modelsFindings app.models
    ++ screensFindings app
    ++ (match app.navigation with
      | none => []
      | some navigation => navigationFindings (app.screens.map Screen.name) navigation)
    ++ match app.api with
      | none => []
      | some api => apiFindings (app.models.map Model.name) api

def hasErrors (app : Application) : Bool := app.findings.any Finding.isError

end Application

end Blueprint
