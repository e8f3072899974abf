import Blueprint.Application.Api
import Blueprint.Application.Screens

/-!
Whole descriptions: the document that a source was parsed to, and the application that validation
and code generation work on.
-/
set_option autoImplicit false

namespace Blueprint

/-- The platforms that code is generated for. -/
inductive Platform where
  | web
  | ios
  | android
  deriving DecidableEq, Repr

namespace Platform

def all : List Platform := [.web, .ios, .android]

def name : Platform → String
  | .web => "web"
  | .ios => "ios"
  | .android => "android"

def ofName? (text : String) : Option Platform :=
  all.find? fun platform => platform.name == text

end Platform

/-- The metadata of an application. -/
structure Header where
  name : String
  displayName : String := ""
  appId : String := ""
  version : String := ""
  platforms : List Platform := []
  theme : Option (Fields String) := none

/-- A record of mock data. -/
abbrev MockRecord := Fields Value

/-- Named sections of sample records. -/
structure MockData where
  sections : Fields (List MockRecord) := []

/-- Everything that was recovered from one source by its grammar. -/
structure Document where
  header : Option Header := none
  models : List Model := []
  screens : List Screen := []
  navigation : Option Navigation := none
  api : Option Api := none
  mockData : Option MockData := none

structure Application where
  name : String
  displayName : String := ""
  appId : String := ""
  version : String := ""
  platforms : List Platform := []
  theme : Option (Fields String) := none
  models : List Model := []
  screens : List Screen := []
  navigation : Option Navigation := none
  api : Option Api := none
  mockData : Option MockData := none

namespace Application

def model? (app : Application) (name : String) : Option Model :=
  app.models.find? fun model => model.name == name

def screen? (app : Application) (name : String) : Option Screen :=
  app.screens.find? fun screen => screen.name == name

def initialScreen? (app : Application) : Option Screen :=
  app.screens.find? Screen.isInitial

/-- The screen that the application starts with: the initial one, or else the first. -/
def startScreen? (app : Application) : Option Screen :=
  app.initialScreen?.or app.screens.head?

/-- The name shown to users: the display name, or the name where that is empty. -/
def title (app : Application) : String :=
  if app.displayName.isEmpty then app.name else app.displayName

/-- The endpoints, none where there is no interface. -/
def endpoints (app : Application) : List Endpoint :=
  match app.api with
  | some api => api.endpoints
  | none => []

end Application

end Blueprint
