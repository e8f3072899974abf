import Blueprint.Application.Reconcile
import Blueprint.Yaml.Value

/-!
Settings of a project: where generated files go, for which platforms, how a source is reconciled,
and how strict a check is. They are written as a YAML mapping; what it leaves out keeps its default,
and names that are not settings do not count.
-/
set_option autoImplicit false

namespace Blueprint

/-- The settings of a project. -/
structure Settings where
  outputDirectory : String := "generated"
  platforms : List Platform := [.web]
  strategy : Strategy := .extracted
  failOnWarnings : Bool := false
  debugDump : Option String := none
  deriving DecidableEq, Repr

/-- Why a text gives no settings. -/
inductive SettingsError where
  | notYaml
  | notMapping
  | notText (name : String)
  | notList
  | platformNotText (index : Nat)
  | unknownPlatform (index : Nat) (name : String)
  | unknownStrategy (name : String)
  | notBool (name : String)
  /-- A value has the form of a number or a date, but there is none such. -/
  | unconvertible
  deriving DecidableEq, Repr

/-- The wording of the reason, for a text with a label. -/
def SettingsError.message (label : String) : SettingsError → String
  | .notYaml => s!"Invalid YAML in {label}:"
  | .notMapping => s!"{label}: project config must be a YAML mapping"
  | .notText name => s!"{label}: '{name}' must be a string"
  | .notList => s!"{label}: 'platforms' must be a list"
  | .platformNotText index => s!"{label}: platforms[{index}] must be a string"
  | .unknownPlatform index name => s!"{label}: platforms[{index}]: unknown platform '{name}'"
  | .unknownStrategy name =>
    let choices := ", ".intercalate (Strategy.all.map Strategy.name)
    s!"{label}: unknown strategy '{name}' (expected one of: {choices})"
  | .notBool name => s!"{label}: '{name}' must be a boolean"
  | .unconvertible => s!"{label}: value without meaning"

namespace Settings

def text (name : String) : Yaml.Value → Except SettingsError String
  | .text text => .ok text
  | _ => .error (.notText name)

/-- The platforms in a list, of which some precede. -/
def platformsFrom (index : Nat) : List Yaml.Value → Except SettingsError (List Platform)
  | [] => .ok []
  | .text name :: rest =>
    match Platform.ofName? name with
    | some platform => do return platform :: (← platformsFrom (index + 1) rest)
    | none => .error (.unknownPlatform index name)
  | _ :: _ => .error (.platformNotText index)

def platformsOf : Yaml.Value → Except SettingsError (List Platform)
  | .sequence items => platformsFrom 0 items
  | _ => .error .notList

def strategyOf (value : Yaml.Value) : Except SettingsError Strategy := do
  let name ← text "strategy" value
  match Strategy.ofName? name with
  | some strategy => .ok strategy
  | none => .error (.unknownStrategy name)

def boolOf (name : String) : Yaml.Value → Except SettingsError Bool
  | .bool value => .ok value
  | _ => .error (.notBool name)

/-- The path of a dump; null is none. -/
def dumpOf : Yaml.Value → Except SettingsError (Option String)
  | .null => .ok none
  | value => (text "debug-dump" value).map some

/-- A setting among entries: read if it is present, else left at its default. -/
def entry {α : Type} (entries : List (Yaml.Value × Yaml.Value)) (name : String) (default : α)
    (read : Yaml.Value → Except SettingsError α) : Except SettingsError α :=
  match Yaml.Value.get? name entries with
  | some value => read value
  | none => .ok default

def ofEntries (entries : List (Yaml.Value × Yaml.Value)) : Except SettingsError Settings := do
  let defaults : Settings := {}
  return {
    outputDirectory := ← entry entries "output-directory" defaults.outputDirectory
      (text "output-directory")
    platforms := ← entry entries "platforms" defaults.platforms platformsOf
    strategy := ← entry entries "strategy" defaults.strategy strategyOf
    failOnWarnings := ← entry entries "fail-on-warnings" defaults.failOnWarnings
      (boolOf "fail-on-warnings")
    debugDump := ← entry entries "debug-dump" defaults.debugDump dumpOf }

/-- The settings that a text makes; an empty one leaves all defaults. -/
def ofText (source : List Char) : Except SettingsError Settings :=
  match Yaml.Value.ofText source with
  | .error .malformed => .error .notYaml
  | .error .unconvertible => .error .unconvertible
  | .ok .null => .ok {}
  | .ok (.mapping entries) => ofEntries entries
  | .ok _ => .error .notMapping

end Settings

end Blueprint
