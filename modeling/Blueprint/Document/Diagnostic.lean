import Blueprint.Text.Quoted
import Blueprint.Token.Basic

/-!
Syntax diagnostics: what can be wrong with a document, where, and in which words it is told.
-/
set_option autoImplicit false

namespace Blueprint

open Text

/-- What the grammar allows at a place where it found something else. -/
inductive Expectation where
  /-- One of some kinds of token. -/
  | kinds (allowed : List TokenKind)
  | name
  | statement
  | defaultValue
  | value
  deriving DecidableEq, Repr

def Expectation.text : Expectation → String
  | .kinds allowed => ", ".intercalate (allowed.map fun kind => quoted kind.label)
  | .name => "identifier"
  | .statement => "'app', 'model', 'screen', 'navigation', 'api' or 'mockData'"
  | .defaultValue => "a default value"
  | .value => "a value"

/-- The constructs whose attributes have fixed names. -/
inductive AttributeOwner where
  | app
  | screen
  | layout
  | navigation
  | api
  | endpoint
  | parameter
  deriving DecidableEq, Repr

def AttributeOwner.text : AttributeOwner → String
  | .app => "app"
  | .screen => "screen"
  | .layout => "layout"
  | .navigation => "navigation"
  | .api => "api"
  | .endpoint => "endpoint"
  | .parameter => "parameter"

/-- What is wrong with a document. -/
inductive SyntaxProblem where
  /-- A token other than the expected ones; without a token, the end of the source. -/
  | unexpected (expected : Expectation) (found : Option String)
  | missingApp
  | duplicateApp
  | duplicateSection (keyword : Keyword)
  | unknownAttribute (owner : AttributeOwner) (name : String)
  | unclosedApp (app : String)
  | incompleteApp (app entry : String)
  | unknownPlatform (name : String)
  | untitledScreen (screen : String)
  | unknownLayoutKind (name : String)
  | untypedLayout
  | untypedComponent
  | incompleteFormField
  | unknownNavigationKind (name : String)
  | untargetedNavItem
  | untypedNavigation
  | apiWithoutBaseUrl
  | unsupportedMethod (name : String)
  | incompleteEndpoint (entry : String)
  | unnamedParameter
  deriving DecidableEq, Repr

def SyntaxProblem.message : SyntaxProblem → String
  | .unexpected expected found =>
    let shown := match found with
      | some value => quoted value
      | none => "end of input"
    s!"Expected {expected.text}, got {shown}"
  | .missingApp => "Missing 'app' declaration"
  | .duplicateApp => "Duplicate 'app' declaration"
  | .duplicateSection keyword => s!"Duplicate {quoted keyword.spelling} section"
  | .unknownAttribute owner name => s!"Unknown {owner.text} attribute {quoted name}"
  | .unclosedApp app => s!"Expected '\x7d' to close app {quoted app}"
  | .incompleteApp app entry => s!"App {quoted app} is missing {quoted entry}"
  | .unknownPlatform name => s!"Unknown platform {quoted name}"
  | .untitledScreen screen => s!"Screen {quoted screen} is missing 'title'"
  | .unknownLayoutKind name => s!"Unknown layout type {quoted name}"
  | .untypedLayout => "Layout is missing 'type'"
  | .untypedComponent => "Component is missing 'type'"
  | .incompleteFormField => "Form field requires 'name' and 'type'"
  | .unknownNavigationKind name => s!"Unknown navigation type {quoted name}"
  | .untargetedNavItem => "Navigation item is missing 'screen'"
  | .untypedNavigation => "Navigation is missing 'type'"
  | .apiWithoutBaseUrl => "API section is missing 'baseUrl'"
  | .unsupportedMethod name => s!"Unsupported HTTP method {quoted name}"
  | .incompleteEndpoint entry => s!"Endpoint is missing {quoted entry}"
  | .unnamedParameter => "Parameter is missing 'name'"

/-- A problem and the place of the token it is reported at. -/
structure SyntaxDiagnostic where
  problem : SyntaxProblem
  place : Position
  deriving DecidableEq, Repr

namespace SyntaxDiagnostic

def message (diagnostic : SyntaxDiagnostic) : String := diagnostic.problem.message

def text (diagnostic : SyntaxDiagnostic) : String :=
  s!"line {diagnostic.place.line}, column {diagnostic.place.column}: {diagnostic.message}"

def unexpected (expected : Expectation) (token : Token) : SyntaxDiagnostic :=
  ⟨.unexpected expected (if token.kind == .eof then none else some token.value), token.place⟩

end SyntaxDiagnostic

end Blueprint
