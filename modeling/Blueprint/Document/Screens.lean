import Blueprint.Application.Screens
import Blueprint.Document.Models
import Blueprint.Document.Values

/-!
The grammar of screens, of their layouts, and of the navigation.
-/
set_option autoImplicit false

namespace Blueprint.Grammar

open Blueprint.Parser

def screenParameters : Parser (List Parameter) := do
  let _ ← expectSymbol .leftBrace
  let parameters ← itemsUntil .rightBrace do
    let name ← expectKey
    let type ← typeRef
    let required ← flag "required"
    return { name := name.value, type := type, required := required }
  let _ ← expectSymbol .rightBrace
  return parameters

def componentOf (place : Position) (fields : Fields Value) : Parser Component :=
  match (fields.get? "type").bind Value.text? with
  | some type => return { type := type, attributes := Fields.erase "type" fields }
  | none => fail .untypedComponent place

def formFieldOf (place : Position) (fields : Fields Value) : Parser FormField :=
  match (fields.get? "name").bind Value.text?, (fields.get? "type").bind Value.text? with
  | some name, some type =>
    let rest := ["name", "type", "label", "required"].foldl (fun fields key => fields.erase key) fields
    return {
      name := name
      type := type
      label := (fields.get? "label").bind Value.text?
      required := match fields.get? "required" with
        | some (.bool true) => true
        | _ => false
      attributes := rest }
  | _, _ => fail .incompleteFormField place

def actionOf (event : String) (fields : Fields Value) : Action :=
  { event := event
    navigate := (fields.get? "navigate").bind Value.text?
    api := (fields.get? "api").bind Value.text?
    params := ((fields.get? "params").bind Value.object?).getD [] }

/-- The actions of a layout, one for each event. -/
def actions : Parser (List Action) := do
  let _ ← expectSymbol .leftBrace
  let actions ← itemsUntil .rightBrace do
    let event ← expectKey
    return actionOf event.value (← object)
  let _ ← expectSymbol .rightBrace
  return actions

/-- Reads the attribute with a key into a layout; says whether it was the type. -/
def layoutAttribute (key : Token) (layout : Layout) : Parser (Layout × Bool) :=
  match key.value with
  | "type" => do
    let kind ← expectName
    match LayoutKind.ofName? kind.value with
    | some kind => return ({ layout with kind := kind }, true)
    | none => fail (.unknownLayoutKind kind.value) kind.place
  | "components" => do
    let components ← (← objectList).mapM (componentOf key.place)
    return ({ layout with components := components }, false)
  | "fields" => do
    let fields ← (← objectList).mapM (formFieldOf key.place)
    return ({ layout with fields := fields }, false)
  | "actions" => return ({ layout with actions := ← actions }, false)
  | "submitButton" => return ({ layout with submitButton := some (← expectText) }, false)
  | "cancelButton" => return ({ layout with cancelButton := some (← expectText) }, false)
  | name => fail (.unknownAttribute .layout name) key.place

/-- Reads the next attribute of a layout, noting whether the type has been met. -/
def layoutEntry (state : Layout × Bool) : Parser (Layout × Bool) := do
  let key ← expectKey
  let (layout, isType) ← layoutAttribute key state.1
  skipCommas
  return (layout, state.2 || isType)

/-- A layout; its type is required. -/
def layout : Parser Layout := do
  let opening ← expectSymbol .leftBrace
  let (layout, typed) ← untilClosed .rightBrace layoutEntry ({}, false)
  let _ ← expectSymbol .rightBrace
  if typed then return layout else fail .untypedLayout opening.place

/-- A screen while its body is read: the title is not known before it is met. -/
structure OpenScreen where
  title : Option String := none
  isInitial : Bool := false
  parameters : List Parameter := []
  layout : Option Layout := none

def screenAttribute (key : Token) (screen : OpenScreen) : Parser OpenScreen :=
  match key.value with
  | "title" => return { screen with title := some (← expectText) }
  | "params" => return { screen with parameters := ← screenParameters }
  | "layout" => return { screen with layout := some (← layout) }
  | name => fail (.unknownAttribute .screen name) key.place

def screenEntry (screen : OpenScreen) : Parser OpenScreen := do
  if ← flag "initial" then return { screen with isInitial := true }
  else
    let key ← expectKey
    let screen ← screenAttribute key screen
    skipCommas
    return screen

/-- A screen. One without a title is titled by its name and reported. -/
def screen : Parser Screen := do
  let keyword ← expect (.keyword .screen)
  let name ← expectName
  let _ ← expectSymbol .leftBrace
  let body ← untilClosed .rightBrace screenEntry {}
  let _ ← expectSymbol .rightBrace
  if body.title.isNone then
    report (.untitledScreen name.value) keyword.place
  return {
    name := name.value
    title := body.title.getD name.value
    isInitial := body.isInitial
    parameters := body.parameters
    layout := body.layout }

/-- The keyword of a section, an optional colon, and the opening brace. -/
def openSection (keyword : Keyword) : Parser Token := do
  let token ← expect (.keyword keyword)
  let _ ← option (.symbol .colon)
  let _ ← expectSymbol .leftBrace
  return token

def navItemOf (place : Position) (fields : Fields Value) : Parser NavItem :=
  match (fields.get? "screen").bind Value.text? with
  | some screen => return {
      screen := screen
      title := (fields.get? "title").bind Value.text?
      icon := (fields.get? "icon").bind Value.text? }
  | none => fail .untargetedNavItem place

/-- A navigation while its body is read: the style is not known before it is met. -/
structure OpenNavigation where
  kind : Option NavigationKind := none
  items : List NavItem := []

/-- Reads the attribute with a key into a navigation; entries accumulate over repeated lists. -/
def navigationAttribute (key : Token) (navigation : OpenNavigation) : Parser OpenNavigation :=
  match key.value with
  | "type" => do
    let name ← expectName
    match NavigationKind.ofName? name.value with
    | some kind => return { navigation with kind := some kind }
    | none => fail (.unknownNavigationKind name.value) name.place
  | "items" => do
    let items ← (← objectList).mapM (navItemOf key.place)
    return { navigation with items := navigation.items ++ items }
  | name => fail (.unknownAttribute .navigation name) key.place

def navigationEntry (navigation : OpenNavigation) : Parser OpenNavigation := do
  let key ← expectKey
  let navigation ← navigationAttribute key navigation
  skipCommas
  return navigation

/-- The navigation; its type is required. -/
def navigation : Parser Navigation := do
  let keyword ← openSection .navigation
  let body ← untilClosed .rightBrace navigationEntry {}
  let _ ← expectSymbol .rightBrace
  match body.kind with
  | some kind => return { kind := kind, items := body.items }
  | none => fail .untypedNavigation keyword.place

end Blueprint.Grammar
