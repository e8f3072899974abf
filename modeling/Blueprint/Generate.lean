import Blueprint.Sources.Android
import Blueprint.Sources.Ios
import Blueprint.Sources.Web

/-!
The sources of an application for a platform.
-/
set_option autoImplicit false

namespace Blueprint

/-- Why no sources can be generated. -/
inductive GenerateError where
  | unknownPlatform (name : String)
  deriving DecidableEq, Repr

def GenerateError.message : GenerateError → String
  | .unknownPlatform name =>
    let choices := ", ".intercalate (Platform.all.map Platform.name)
    s!"Unknown platform '{name}' (expected one of: {choices})"

namespace Application

def sources (app : Application) : Platform → SourceFiles
  | .web => Sources.Web.files app
  | .ios => Sources.Ios.files app
  | .android => Sources.Android.files app

def generate (app : Application) (platform : String) : Except GenerateError SourceFiles :=
  match Platform.ofName? platform with
  | some platform => .ok (app.sources platform)
  | none => .error (.unknownPlatform platform)

end Application

end Blueprint
