import Blueprint.CommandLine.Arguments
import Blueprint.CommandLine.Log
import Blueprint.Debug.Describe
import Blueprint.Documentation
import Blueprint.Files.Tree
import Blueprint.Generate
import Blueprint.Settings
import Blueprint.Text.Utf8
import Blueprint.Validation.Rules

/-!
The commands: checking a source, generating code and documentation, dumping the application, and
serving its view. A command runs on a file tree; it prints lines, may change the tree, and ends with
a status. Settings come from the file that is named, or from one beside the source.
-/
set_option autoImplicit false

namespace Blueprint.CommandLine

/-- What breaks the program off without a message of its own. -/
inductive Crash where
  /-- A settings file is no UTF-8 text. -/
  | undecodableSettings
  /-- A value that is given has the form of a number, a date or a path without being one. -/
  | unconvertibleSetting
  /-- The source holds an integer with too many digits. -/
  | oversizedInteger
  /-- The place beside the source cannot be looked at. -/
  | unreachableSettings
  deriving DecidableEq, Repr

def Crash.message : Crash → String
  | .undecodableSettings => "settings are not UTF-8 text"
  | .unconvertibleSetting => "a setting is no value"
  | .oversizedInteger => "an integer in the source has too many digits"
  | .unreachableSettings => "the directory of the source has too long a name"

/-- How a command stops before its end. -/
inductive Stop where
  | failed
  | crashed (crash : Crash)
  deriving DecidableEq, Repr

/-- How a command stops that cannot use a path: a path that is none breaks it off. -/
def Stop.ofProblem : FileProblem → Stop
  | .nullCharacter => .crashed .unconvertibleSetting
  | _ => .failed

/-- What a command has done so far. -/
structure Progress where
  tree : FileTree
  output : List String := []
  errors : List String := []
  served : List (String × Int) := []

/-- A part of what a command does. -/
abbrev Work := ExceptT Stop (StateM Progress)

namespace Work

def print (line : String) : Work Unit :=
  modify fun progress => { progress with output := progress.output ++ [line] }

def printError (line : String) : Work Unit :=
  modify fun progress => { progress with errors := progress.errors ++ [line] }

def fail {α : Type} (message : String) : Work α := do
  printError s!"Error: {message}"
  throw .failed

def report (verbose : Bool) (events : List Event) : Work Unit :=
  if verbose then events.forM fun event => printError event.line else pure ()

/-- Changes the file tree; where that fails, the command stops after what was changed. -/
def change (step : FileTree → FileTree.Changed) : Work Unit := do
  let (tree, problem) := step (← get).tree
  modify fun progress => { progress with tree := tree }
  match problem with
  | some error =>
    match Stop.ofProblem error.problem with
    | .failed => fail error.message
    | stop => throw stop
  | none => pure ()

end Work

open Work

def settingsName : String := ".finapp.yaml"

def settingsBeside (directory : Path) (common : Common) : Path :=
  (Path.resolve directory (.ofText common.file)).parent.below settingsName

/-- The files that a request reads: its source, and the settings file that it names or may have. -/
def Request.inputs (request : Request) (directory : Path) : List Path :=
  let common := request.common
  [.resolve directory (.ofText common.file),
    match common.config with
    | some config => .resolve directory (.ofText config)
    | none => settingsBeside directory common]

/-- The settings file of a request: the one that it names, else the one beside the source. -/
def settingsPath? (tree : FileTree) (common : Common) : Except Crash (Option Path) :=
  let given := common.file :: common.config.toList
  match given.any fun text => (Path.ofText text).hasNull, common.config with
  | true, _ => .error .unconvertibleSetting
  | false, some config => .ok (some (.resolve tree.directory (.ofText config)))
  | false, none =>
    let candidate := settingsBeside tree.directory common
    match tree.find candidate with
    | .ok (.file _) => .ok (some candidate)
    | .error .nameTooLong => .error .unreachableSettings
    | _ => .ok none

def readSettings (path : Path) : Work Settings := do
  match (← get).tree.read path with
  | .error .notFound => fail s!"Project config file not found: {path.text}"
  | .error problem =>
    let error : FileError := ⟨problem, path⟩
    fail s!"Cannot read project config file: {error.message}"
  | .ok bytes =>
    match Text.decodeUtf8 bytes with
    | .error _ => throw (.crashed .undecodableSettings)
    | .ok text =>
      match Settings.ofText (Text.universalNewlines text) with
      | .ok settings => return settings
      | .error .unconvertible => throw (.crashed .unconvertibleSetting)
      | .error error => fail (error.message path.text)

/-- The settings of a request, and the directory that their paths start from. -/
def loadSettings (common : Common) : Work (Settings × Path) := do
  let tree := (← get).tree
  match settingsPath? tree common with
  | .error crash => throw (.crashed crash)
  | .ok none => return ({}, (Path.resolve tree.directory (.ofText common.file)).parent)
  | .ok (some path) => return (← readSettings path, path.parent)

def readSource (path : Path) : Work String := do
  match (← get).tree.read path with
  | .error .notFound => fail s!"File not found: {path.text}"
  | .error problem =>
    let error : FileError := ⟨problem, path⟩
    fail s!"Cannot read source file '{path.text}': {error.message}"
  | .ok bytes =>
    match Text.decodeUtf8 bytes with
    | .ok text => return String.ofList (Text.universalNewlines text)
    | .error error => fail s!"Cannot read source file '{path.text}': {error.message}"

/-- Compiles the source of a request, and prints what is wrong with its syntax. -/
def compileSource (common : Common) (settings : Settings) : Work Compilation := do
  let strategy := common.strategy.getD settings.strategy
  let path := Path.resolve (← get).tree.directory (.ofText common.file)
  let source ← readSource path
  report common.verbose (.processing path :: Event.ofCompiling source strategy)
  match compile source strategy with
  | .error (.unreadable .oversizedInteger) => throw (.crashed .oversizedInteger)
  | .error (.incomplete error) => fail error.message
  | .ok compilation => do
    compilation.diagnostics.forM fun diagnostic => printError s!"Syntax error: {diagnostic.text}"
    return compilation

/-- What every command starts with: settings, the directory they refer to, and the compiled
source. -/
def prepare (common : Common) : Work (Settings × Path × Compilation) := do
  let (settings, base) ← loadSettings common
  let compilation ← compileSource common settings
  return (settings, base, compilation)

/-- Prints findings: warnings first, errors among the errors. -/
def reportFindings (findings : List Finding) : Work Unit := do
  (findings.filter fun finding => !finding.isError).forM fun warning =>
    print s!"Warning: {warning.message}"
  (findings.filter Finding.isError).forM fun error => printError s!"Error: {error.message}"

def detailLines (app : Application) : List String :=
  let platforms := ", ".intercalate (app.platforms.map Platform.name)
  ["Application details:",
    s!"  Name: {app.displayName}",
    s!"  ID: {app.appId}",
    s!"  Version: {app.version}",
    s!"  Platforms: {platforms}"]

def structureLines (app : Application) : List String :=
  let endpoints := (app.api.map Api.endpoints).getD []
  let modelLine (model : Model) : String :=
    s!"    - {model.name} ({model.properties.length} properties)"
  let screenLine (screen : Screen) : String :=
    let mark := if screen.isInitial then " (initial)" else ""
    s!"    - {screen.name}{mark}"
  let endpointLine (endpoint : Endpoint) : String :=
    s!"    - {endpoint.method} {endpoint.path}"
  let navigationLine := match app.navigation with
    | some navigation =>
      s!"  Navigation: {navigation.kind.name} ({navigation.items.length} items)"
    | none => "  Navigation: none"
  ["Structure summary:", s!"  Models: {app.models.length}"] ++ app.models.map modelLine
    ++ [s!"  Screens: {app.screens.length}"] ++ app.screens.map screenLine
    ++ [s!"  API endpoints: {endpoints.length}"] ++ endpoints.map endpointLine
    ++ [navigationLine, if app.mockData.isSome then "  Mock data: yes" else "  Mock data: no"]

/-- Writes the dump of an application, and says where. -/
def writeDump (app : Application) (target : Path) : Work Unit := do
  change (·.writeBelow target app.dump)
  print s!"Debug dump written to '{target.text}'."

/-- The number of warnings about a source: those among its findings, and what is wrong with its
syntax. -/
def warningCount (compilation : Compilation) : Nat :=
  (compilation.application.findings.filter fun finding => !finding.isError).length
    + compilation.diagnostics.length

/-- How a check ends: it fails if there are errors, and for warnings if settings say so. Otherwise it
prints the main facts. -/
def concludeCheck (verbose : Bool) (settings : Settings) (compilation : Compilation) : Work Unit := do
  let app := compilation.application
  if app.hasErrors then throw .failed
  (detailLines app).forM print
  if verbose then (structureLines app).forM print
  let warnings := warningCount compilation
  if warnings == 0 then print "No issues found."
  else if settings.failOnWarnings then
    fail s!"{warnings} warning(s) found and 'fail-on-warnings' is enabled."
  else print s!"Validation passed with {warnings} warning(s)."

/-- Checks a source: prints findings, writes the dump that settings ask for, and comes to an end. -/
def check (common : Common) : Work Unit := do
  print s!"Checking '{common.file}'..."
  let (settings, base, compilation) ← prepare common
  let app := compilation.application
  reportFindings app.findings
  match nonempty settings.debugDump with
  | some dump => writeDump app (base.join (.ofText dump))
  | none => pure ()
  concludeCheck common.verbose settings compilation

/-- The directory for what a command generates: the one that is asked for, else that of the
settings. -/
def outputDirectory (output : Option String) (settings : Settings) (base : Path) : Path :=
  match output with
  | some output => .ofText output
  | none => base.join (.ofText settings.outputDirectory)

/-- The names of the platforms that code is generated for: those in the list that is asked for, else
those of the settings. -/
def platformNames (platforms : Option String) (settings : Settings) : List String :=
  match platforms with
  | some listed => ((Text.split ',' listed).map Text.trim).filter fun name => !name.isEmpty
  | none => settings.platforms.map Platform.name

def writeSources (verbose : Bool) (files : SourceFiles) (directory : Path) : Work Unit :=
  files.forM fun (relative, content) => do
    let target := directory.below relative
    change (·.writeBelow target content)
    report verbose [.wrote target]

/-- Generates the sources of an application for a platform, below a directory of its own. -/
def generateFor (verbose : Bool) (app : Application) (output : Path) (platform : String) :
    Work Unit := do
  match app.generate platform with
  | .error error => fail error.message
  | .ok files => do
    report verbose [.generating platform app.name, .rendered files.length platform]
    let target := output.join (.ofText platform)
    writeSources verbose files target
    print s!"Generated {files.length} {platform} file(s) in '{target.text}'."

/-- Generates the sources of an application that has no errors, platform by platform. -/
def generate (common : Common) (output platforms : Option String) : Work Unit := do
  let (settings, base, compilation) ← prepare common
  let app := compilation.application
  reportFindings app.findings
  if app.hasErrors then fail "validation failed; no code generated."
  let directory := outputDirectory output settings base
  (platformNames platforms settings).forM (generateFor common.verbose app directory)

def docs (common : Common) (output : Option String) : Work Unit := do
  let (settings, base, compilation) ← prepare common
  let directory := outputDirectory output settings base
  let target := directory.below Documentation.fileName
  change (·.ensureDirectories directory)
  change (·.writeFile target (Documentation.markdown compilation.application))
  print s!"Documentation generated: '{target.text}'."

/-- The file that an application is dumped to: the one that is asked for, else that of the settings,
else one beside the source. -/
def dumpTarget (common : Common) (output : Option String) (settings : Settings) (base : Path) :
    Path :=
  match output, nonempty settings.debugDump with
  | some output, _ => .ofText output
  | none, some dump => base.join (.ofText dump)
  | none, none => (Path.ofText common.file).withExtension "json"

def dump (common : Common) (output : Option String) : Work Unit := do
  let (settings, base, compilation) ← prepare common
  writeDump compilation.application (dumpTarget common output settings base)

def serve (common : Common) (host : String) (port : Int) : Work Unit := do
  let _ ← prepare common
  print s!"Serving application view at http://{host}:{port}/"
  modify fun progress => { progress with served := progress.served ++ [(host, port)] }

def Request.work : Request → Work Unit
  | .check common => CommandLine.check common
  | .generate common output platforms => CommandLine.generate common output platforms
  | .docs common output => CommandLine.docs common output
  | .dump common output => CommandLine.dump common output
  | .serve common host port => CommandLine.serve common host port

/-- How the program ended: its status, or what broke it off; what it printed; and the file tree and
the servers that it leaves. -/
structure Outcome where
  status : Except Crash Nat
  output : String
  errors : String
  tree : FileTree
  served : List (String × Int)

def unlines (lines : List String) : String := String.join (lines.map (· ++ "\n"))

def statusOf : Except Stop Unit → Except Crash Nat
  | .ok () => .ok 0
  | .error .failed => .ok 1
  | .error (.crashed crash) => .error crash

def Request.run (request : Request) (tree : FileTree) : Outcome :=
  let (result, progress) := request.work.run { tree := tree }
  { status := statusOf result
    output := unlines progress.output
    errors := unlines progress.errors
    tree := progress.tree
    served := progress.served }

def run (arguments : List String) (tree : FileTree) : Outcome :=
  match read arguments with
  | .refused refusal => ⟨.ok 2, "", refusal.text, tree, []⟩
  | .help command => ⟨.ok 0, help command, "", tree, []⟩
  | .request request => request.run tree

end Blueprint.CommandLine
