import Blueprint.Application.Schema
import Blueprint.Value

/-!
Screens, their layouts, and the navigation between them.
-/
set_option autoImplicit false

namespace Blueprint

inductive LayoutKind where
  | stack
  | form
  | scroll
  | tabs
  deriving DecidableEq, Repr

namespace LayoutKind

def all : List LayoutKind := [.stack, .form, .scroll, .tabs]

def name : LayoutKind → String
  | .stack => "stack"
  | .form => "form"
  | .scroll => "scroll"
  | .tabs => "tabs"

def ofName? (text : String) : Option LayoutKind :=
  all.find? fun kind => kind.name == text

end LayoutKind

/-- A component of a layout; its attributes are generic. -/
structure Component where
  type : String
  attributes : Fields Value := []

/-- An input field of a form. -/
structure FormField where
  name : String
  type : String
  label : Option String := none
  required : Bool := false
  attributes : Fields Value := []

namespace FormField

/-- The text shown beside a field: its label, or its name where the label is absent or empty. -/
def caption (field : FormField) : String :=
  match field.label with
  | some label => if label.isEmpty then field.name else label
  | none => field.name

end FormField

/-- What happens on an event of a layout. -/
structure Action where
  event : String
  navigate : Option String := none
  api : Option String := none
  params : Fields Value := []

/-- The layout of a screen. -/
structure Layout where
  kind : LayoutKind := .stack
  components : List Component := []
  fields : List FormField := []
  actions : List Action := []
  submitButton : Option String := none
  cancelButton : Option String := none

structure Screen where
  name : String
  title : String
  isInitial : Bool := false
  parameters : List Parameter := []
  layout : Option Layout := none

/-- The layout of a screen, an empty stack where none is declared. -/
def Screen.layoutOrDefault (screen : Screen) : Layout := screen.layout.getD {}

/-- The styles of top-level navigation. -/
inductive NavigationKind where
  | tab
  | drawer
  | stack
  deriving DecidableEq, Repr

namespace NavigationKind

def all : List NavigationKind := [.tab, .drawer, .stack]

def name : NavigationKind → String
  | .tab => "tab"
  | .drawer => "drawer"
  | .stack => "stack"

def ofName? (text : String) : Option NavigationKind :=
  all.find? fun kind => kind.name == text

end NavigationKind

/-- An entry of the navigation, which refers to a screen by name. -/
structure NavItem where
  screen : String
  title : Option String := none
  icon : Option String := none
  deriving DecidableEq, Repr

namespace NavItem

/-- The text shown for an entry: its title, or its screen where the title is absent or empty. -/
def caption (item : NavItem) : String :=
  match item.title with
  | some title => if title.isEmpty then item.screen else title
  | none => item.screen

end NavItem

structure Navigation where
  kind : NavigationKind
  items : List NavItem := []
  deriving DecidableEq, Repr

end Blueprint
