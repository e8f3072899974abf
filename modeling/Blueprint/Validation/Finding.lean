import Blueprint.Application.Basic

/-!
Findings of validation: what can be wrong with an application, how grave it is, which entity and
which of its parts it is about, and in which words it is told.
-/
set_option autoImplicit false

namespace Blueprint

/-- How grave a finding is. Code is generated only for applications without errors. -/
inductive Severity where
  | error
  | warning
  deriving DecidableEq, Repr

def Severity.name : Severity → String
  | .error => "error"
  | .warning => "warning"

/-- What a list of parameters belongs to. -/
inductive ParameterOwner where
  | screen (name : String)
  | endpoint (id : String)
  deriving DecidableEq, Repr

/-- The wording of an owner, which is also its label. -/
def ParameterOwner.label : ParameterOwner → String
  | .screen name => s!"screen '{name}'"
  | .endpoint id => s!"endpoint '{id}'"

/-- A finding about an application. -/
inductive Finding where
  | noModels (app : String)
  | noScreens (app : String)
  | noNavigation (app : String)
  | noApi (app : String)
  | noInitialScreen (app : String)
  | severalInitialScreens (app : String) (screens : List String)
  | duplicateModel (model : String)
  | unconventionalModelName (model : String)
  | modelWithoutProperties (model : String)
  | modelWithoutId (model : String)
  | duplicateProperty (model property : String)
  | unknownPropertyType (model property type : String)
  | enumOnOtherType (model property : String)
  | duplicateEnumValue (model property value : String)
  | defaultOutsideEnum (model property value : String)
  | redundantDefault (model property : String)
  | duplicateParameter (owner : ParameterOwner) (parameter : String)
  | unknownParameterType (owner : ParameterOwner) (parameter type : String)
  | duplicateScreen (screen : String)
  | screenWithoutLayout (screen : String)
  | emptyForm (screen : String)
  | formWithoutSubmit (screen : String)
  | duplicateFormField (screen field : String)
  | fieldsOutsideForm (screen : String) (kind : LayoutKind)
  | fewTabs (screen : String)
  | actionToUndeclaredScreen (screen event target : String)
  | actionToUndeclaredEndpoint (screen event endpoint : String)
  | componentToUndeclaredScreen (screen component target : String)
  | emptyNavigation
  | navigationToUndeclaredScreen (caption target : String)
  | manyTabs (count : Nat)
  | emptyApi
  | duplicateEndpoint (endpoint : String)
  | undeclaredPathParameter (endpoint parameter : String)
  | unsupportedMethod (endpoint method : String)
  | missingBody (endpoint : String) (method : HttpMethod)
  | superfluousBody (endpoint : String) (method : HttpMethod)
  | missingPathParameter (endpoint : String) (method : HttpMethod)
  | undeclaredBody (endpoint model : String)
  | undeclaredResponse (endpoint type : String)
  deriving DecidableEq, Repr

namespace Finding

/-- The most tabs that navigation should have. -/
def maxTabs : Nat := 5

/-- How grave a finding is: conventions are warned about, everything else is an error. -/
def severity : Finding → Severity
  | .noModels _ | .noScreens _ | .noNavigation _ | .noApi _ => .warning
  | .unconventionalModelName _ | .modelWithoutId _ | .redundantDefault _ _ => .warning
  | .formWithoutSubmit _ | .fieldsOutsideForm _ _ | .fewTabs _ => .warning
  | .emptyNavigation | .manyTabs _ | .emptyApi => .warning
  | .missingBody _ _ | .superfluousBody _ _ | .missingPathParameter _ _ => .warning
  | .undeclaredResponse _ _ => .warning
  | _ => .error

def isError (finding : Finding) : Bool := finding.severity == .error

def entity : Finding → String
  | .noModels app | .noScreens app | .noNavigation app | .noApi app | .noInitialScreen app
  | .severalInitialScreens app _ => s!"app '{app}'"
  | .duplicateModel model | .unconventionalModelName model | .modelWithoutProperties model
  | .modelWithoutId model | .duplicateProperty model _ | .unknownPropertyType model _ _
  | .enumOnOtherType model _ | .duplicateEnumValue model _ _ | .defaultOutsideEnum model _ _
  | .redundantDefault model _ => s!"model '{model}'"
  | .duplicateParameter owner _ | .unknownParameterType owner _ _ => owner.label
  | .duplicateScreen screen | .screenWithoutLayout screen | .emptyForm screen
  | .formWithoutSubmit screen | .duplicateFormField screen _ | .fieldsOutsideForm screen _
  | .fewTabs screen | .actionToUndeclaredScreen screen _ _ | .actionToUndeclaredEndpoint screen _ _
  | .componentToUndeclaredScreen screen _ _ => s!"screen '{screen}'"
  | .emptyNavigation | .navigationToUndeclaredScreen _ _ | .manyTabs _ => "navigation"
  | .emptyApi => "api"
  | .duplicateEndpoint endpoint | .undeclaredPathParameter endpoint _
  | .unsupportedMethod endpoint _ | .missingBody endpoint _ | .superfluousBody endpoint _
  | .missingPathParameter endpoint _ | .undeclaredBody endpoint _
  | .undeclaredResponse endpoint _ => s!"endpoint '{endpoint}'"

/-- The part of the entity that a finding is about; none where it is about the whole. -/
def part : Finding → Option String
  | .noModels _ => some "models"
  | .noScreens _ | .noInitialScreen _ | .severalInitialScreens _ _ => some "screens"
  | .noNavigation _ => some "navigation"
  | .noApi _ => some "api"
  | .duplicateModel _ | .unconventionalModelName _ | .duplicateScreen _ => none
  | .modelWithoutProperties _ | .modelWithoutId _ => some "properties"
  | .duplicateProperty _ property | .unknownPropertyType _ property _ | .enumOnOtherType _ property
  | .duplicateEnumValue _ property _ | .defaultOutsideEnum _ property _
  | .redundantDefault _ property => some property
  | .duplicateParameter _ parameter | .unknownParameterType _ parameter _ => some parameter
  | .screenWithoutLayout _ => some "layout"
  | .emptyForm _ | .fieldsOutsideForm _ _ => some "fields"
  | .formWithoutSubmit _ => some "submitButton"
  | .duplicateFormField _ field => some field
  | .fewTabs _ | .componentToUndeclaredScreen _ _ _ => some "components"
  | .actionToUndeclaredScreen _ event _ | .actionToUndeclaredEndpoint _ event _ => some event
  | .emptyNavigation | .navigationToUndeclaredScreen _ _ | .manyTabs _ => some "items"
  | .emptyApi => some "endpoints"
  | .duplicateEndpoint _ => some "id"
  | .undeclaredPathParameter _ _ => some "params"
  | .unsupportedMethod _ _ => some "method"
  | .missingBody _ _ | .superfluousBody _ _ | .undeclaredBody _ _ => some "body"
  | .missingPathParameter _ _ => some "path"
  | .undeclaredResponse _ _ => some "response"

def message : Finding → String
  | .noModels _ => "No models defined. At least one model should be defined."
  | .noScreens _ => "No screens defined. At least one screen should be defined."
  | .noNavigation _ => "No navigation defined."
  | .noApi _ => "No API defined."
  | .noInitialScreen _ => "No initial screen defined. One screen must be marked as initial."
  | .severalInitialScreens _ screens =>
    let names := ", ".intercalate screens
    s!"Multiple initial screens defined ({names}). Only one screen can be marked as initial."
  | .duplicateModel model => s!"Duplicate model name '{model}'."
  | .unconventionalModelName model => s!"Model name '{model}' should be PascalCase."
  | .modelWithoutProperties model => s!"Model '{model}' must have at least one property."
  | .modelWithoutId model => s!"Model '{model}' has no 'id' property."
  | .duplicateProperty model property => s!"Duplicate property '{property}' in model '{model}'."
  | .unknownPropertyType model property type =>
    s!"Property '{model}.{property}' has unknown data type '{type}'."
  | .enumOnOtherType model property =>
    s!"Property '{model}.{property}': enum values can only be used with string properties."
  | .duplicateEnumValue model property value =>
    s!"Property '{model}.{property}' has duplicate enum value '{value}'."
  | .defaultOutsideEnum model property value =>
    s!"Default value '{value}' of property '{model}.{property}' is not one of its enum values."
  | .redundantDefault model property =>
    s!"Property '{model}.{property}' is required and has a default value; the default is redundant."
  | .duplicateParameter owner parameter => s!"Duplicate parameter '{parameter}' in {owner.label}."
  | .unknownParameterType owner parameter type =>
    s!"Parameter '{parameter}' of {owner.label} has unknown data type '{type}'."
  | .duplicateScreen screen => s!"Duplicate screen name '{screen}'."
  | .screenWithoutLayout screen => s!"Screen '{screen}' has no layout."
  | .emptyForm screen => s!"Form layout of screen '{screen}' must define at least one field."
  | .formWithoutSubmit screen => s!"Form layout of screen '{screen}' has no submit button."
  | .duplicateFormField screen field => s!"Duplicate form field '{field}' in screen '{screen}'."
  | .fieldsOutsideForm screen kind =>
    s!"Screen '{screen}' declares fields on a '{kind.name}' layout; fields are only used by "
      ++ "form layouts."
  | .fewTabs screen => s!"Tabs layout of screen '{screen}' should define at least two components."
  | .actionToUndeclaredScreen screen event target =>
    s!"Action '{event}' of screen '{screen}' navigates to undeclared screen '{target}'."
  | .actionToUndeclaredEndpoint screen event endpoint =>
    s!"Action '{event}' of screen '{screen}' calls undeclared endpoint '{endpoint}'."
  | .componentToUndeclaredScreen screen component target =>
    s!"Component '{component}' of screen '{screen}' navigates to undeclared screen '{target}'."
  | .emptyNavigation => "Navigation defines no items."
  | .navigationToUndeclaredScreen caption target =>
    s!"Navigation item '{caption}' references undeclared screen '{target}'."
  | .manyTabs count =>
    s!"Tab navigation has {count} items; more than {maxTabs} tabs are hard to use."
  | .emptyApi => "API defines no endpoints."
  | .duplicateEndpoint endpoint => s!"Duplicate endpoint id '{endpoint}'."
  | .undeclaredPathParameter endpoint parameter =>
    s!"Path parameter '{parameter}' not defined in the parameters of endpoint '{endpoint}'."
  | .unsupportedMethod endpoint method =>
    s!"Endpoint '{endpoint}' uses unsupported HTTP method '{method}'."
  | .missingBody endpoint method => s!"{method.name} endpoint '{endpoint}' should declare a body."
  | .superfluousBody endpoint method =>
    s!"{method.name} endpoint '{endpoint}' should not declare a body."
  | .missingPathParameter endpoint method =>
    s!"{method.name} endpoint '{endpoint}' should identify its resource with a path parameter."
  | .undeclaredBody endpoint model =>
    s!"Endpoint '{endpoint}' body references undeclared model '{model}'."
  | .undeclaredResponse endpoint type =>
    s!"Endpoint '{endpoint}' response type '{type}' is not a declared model."

end Finding

end Blueprint
